import FaultInjection.Foundations.Transition
import FaultInjection.Foundations.Outcome
import FaultInjection.Foundations.SharedOwnership
import FaultInjection.Foundations.KeepLast
import FaultInjection.Foundations.UnorderedMap
import FaultInjection.Foundations.Announcements
import FaultInjection.Foundations.Number
import FaultInjection.Foundations.DoubleSums
import FaultInjection.Foundations.NumberText
import FaultInjection.Foundations.NumberAgreement
import FaultInjection.Config.FaultConfig
import FaultInjection.Config.ScenarioConfig
import FaultInjection.Config.FaultConfigSchema
import FaultInjection.Injectors.Schemas
import FaultInjection.Injectors.ValueReaders
import FaultInjection.Config.ScenarioLoader
import FaultInjection.Config.ScenarioValidator
import FaultInjection.Foundations.WeakCallbacks
import FaultInjection.Injectors.Endpoints
import FaultInjection.Core.FaultInjectorBase
import FaultInjection.Core.ControllerState
import FaultInjection.Core.FaultScheduler
import FaultInjection.Core.FaultController
import FaultInjection.Core.FaultServiceManager
import FaultInjection.Core.RunningSystem
import FaultInjection.Core.Scheduling
import FaultInjection.Core.Steps
import FaultInjection.Core.TimerLifetime
import FaultInjection.Core.Registration
import FaultInjection.Core.ReloadAtomicity
import FaultInjection.Core.EventDelivery
import FaultInjection.Core.EventLog
import FaultInjection.Core.FaultWindow
import FaultInjection.Core.StoredConfigs
import FaultInjection.Core.CampaignRunner
import FaultInjection.Core.CampaignIsolation
import FaultInjection.Injectors.TriggerServiceFaultInjector
import FaultInjection.Foundations.DelayQueue
import FaultInjection.Messages.Twist
import FaultInjection.Injectors.TwistFaultInjector
import FaultInjection.Foundations.HoldMonitor
import FaultInjection.Assertions.AssertionResult
import FaultInjection.Assertions.TwistStoppedAssertion
import FaultInjection.Assertions.StopLimits
import FaultInjection.Assertions.StopMonitor
import FaultInjection.Assertions.StopVerdict
import FaultInjection.Assertions.FaultEventAssertion
import FaultInjection.Assertions.TopicHzAssertion
import FaultInjection.Assertions.ScenarioMonitor
import FaultInjection.Assertions.FaultAssertionRunner
import FaultInjection.Assertions.AnnouncedResults
import FaultInjection.Assertions.DecidedAssertions
import FaultInjection.Core.TopicInjector
import FaultInjection.Messages.Odometry
import FaultInjection.Messages.Sensors
import FaultInjection.Injectors.JointStateFaultInjector
import FaultInjection.Injectors.OdomFaultInjector
import FaultInjection.Injectors.ImuFaultInjector
import FaultInjection.Injectors.ScanFaultInjector
import FaultInjection.Injectors.DelayedTopics
import FaultInjection.Core.AssertionReferences
import FaultInjection.Core.EventClock
import FaultInjection.Core.ConfigEntries
import FaultInjection.Core.EventDetails
import FaultInjection.Core.CampaignResult
import FaultInjection.Core.ControlServices
import FaultInjection.Core.ReportCreator
import FaultInjection.Core.FaultScenarioRunner
import FaultInjection.Foundations.BestChoice
import FaultInjection.Foundations.NumberFolds
import FaultInjection.Foundations.OrderFreeFolds
import FaultInjection.Injectors.ActiveValues
import FaultInjection.Injectors.HashOrderIndependence
import FaultInjection.Injectors.ActiveLookups
import FaultInjection.Foundations.WhileLoop
import FaultInjection.Injectors.SectorLoops
import FaultInjection.Assertions.ValidatedNumbers
import FaultInjection.Assertions.Deadlines
import FaultInjection.Injectors.ReleaseTimes
import FaultInjection.Foundations.FramedParts
import FaultInjection.Foundations.Yields
import FaultInjection.Injectors.TfFaultInjector
import FaultInjection.Injectors.UnsetKeys
import FaultInjection.Injectors.NamedQuantities
import FaultInjection.Injectors.OnlyNamedChanges
import FaultInjection.Assertions.PrunedRates
import FaultInjection.Injectors.StaleReplay
import FaultInjection.Foundations.SameDraws
import FaultInjection.Injectors.DustLoops
import FaultInjection.Core.Timeouts
import FaultInjection.Core.ScheduleLimits
import FaultInjection.Foundations.Arcs
import FaultInjection.Injectors.SectorDirections
import FaultInjection.Foundations.Clamps
import FaultInjection.Injectors.AcceptedValues
import FaultInjection.Injectors.CommandLimits
import FaultInjection.Foundations.Noting
import FaultInjection.Foundations.BinaryFormats
import FaultInjection.Injectors.LibraryCalls
import FaultInjection.Injectors.LibraryPreconditions
import FaultInjection.Foundations.FixedDraws
import FaultInjection.Foundations.SquareRoot
import FaultInjection.Injectors.PointRays
import FaultInjection.Injectors.CloudPasses
import FaultInjection.Injectors.BadDraws
import FaultInjection.Injectors.CloudBuffers
import FaultInjection.Injectors.BufferRays
import FaultInjection.Injectors.CheckerAgreement
import FaultInjection.Injectors.TouchedTransforms
import FaultInjection.Core.ReportTables
import FaultInjection.Foundations.EventReplay
import FaultInjection.Core.EventReplay
import FaultInjection.Core.EventCauses
import FaultInjection.Core.ActivationWindow
import FaultInjection.Core.StatusServices
import FaultInjection.Core.ReloadFreshStart
import FaultInjection.Config.CampaignConfigParser
import FaultInjection.Config.FileFormats
import FaultInjection.Foundations.PosixPaths
import FaultInjection.Core.CampaignNode
import FaultInjection.Foundations.LevelChanges
import FaultInjection.Core.OutputConflicts
import FaultInjection.Assertions.SeparateAssertions
import FaultInjection.Core.DeliveredEvents
import FaultInjection.Core.ScenarioNode
import FaultInjection.Assertions.FinalVerdicts
import FaultInjection.Injectors.LongestWait
import FaultInjection.Injectors.TriggerAnswers
import FaultInjection.Config.ValidationOrder
import FaultInjection.Core.ReportReading
import FaultInjection.Core.WrittenReports
import FaultInjection.Assertions.ForcedStop
import FaultInjection.Core.FaultInjectorFactory
import FaultInjection.Core.StatusReading
import FaultInjection.Injectors.TransformRates
