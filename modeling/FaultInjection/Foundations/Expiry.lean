import Mathlib.Order.Defs.PartialOrder
import Mathlib.Data.List.Basic

/-
  A log of which old entries are forgotten from time to time.

  What has expired stays expired, and an entry of the present
  has not expired. Forgetting then loses nothing that a later
  look at the whole log would still see.

  Key definitions include:
    * `Expiry`
    * `Expiry.keep`
    * `Expiry.Remembers`

  Key theorems include:
    * `Expiry.Remembers.record`
    * `Expiry.Remembers.forget`
-/

------------------------------------------------------------
-- Expired Entries
------------------------------------------------------------

/- Which entry has expired at a time. -/
structure Expiry (τ : Type) [Preorder τ] where
  expired : τ → τ → Bool
  stays :
    ∀ {now later stamp}, now ≤ later →
      expired now stamp = true → expired later stamp = true
  fresh :
    ∀ {now stamp}, now ≤ stamp → expired now stamp = false

namespace Expiry

variable {τ : Type} [Preorder τ]
variable (expiry : Expiry τ)

/- Forget what has expired. -/
def keep (now : τ) (stamps : List τ) : List τ :=
  stamps.filter fun stamp => !expiry.expired now stamp

/- The kept entries are those that had not expired at a time. -/
def Remembers (now : τ) (kept observed : List τ) : Prop :=
  kept = expiry.keep now observed

variable {expiry}

/- Forgetting earlier does not change what is kept later. -/
theorem keep_keep
    {now later : τ}
    (hLater : now ≤ later)
    (stamps : List τ) :
    expiry.keep later (expiry.keep now stamps) =
      expiry.keep later stamps := by
  unfold keep
  rw [List.filter_filter]
  refine List.filter_congr fun stamp _ => ?_
  cases hExpired : expiry.expired now stamp with
  | false => simp
  | true => simp [expiry.stays hLater hExpired]

theorem remembers_nil (now : τ) :
    expiry.Remembers now [] [] :=
  rfl

/- An entry of the present is not forgotten. -/
theorem Remembers.record
    {now stamp : τ}
    {kept observed : List τ}
    (hKept : expiry.Remembers now kept observed)
    (hFresh : now ≤ stamp) :
    expiry.Remembers now (kept ++ [stamp])
      (observed ++ [stamp]) := by
  unfold Remembers keep at *
  rw [List.filter_append, hKept]
  simp [expiry.fresh hFresh]

/- Forgetting at a later time keeps what the whole log keeps. -/
theorem Remembers.forget
    {now later : τ}
    {kept observed : List τ}
    (hKept : expiry.Remembers now kept observed)
    (hLater : now ≤ later) :
    expiry.Remembers later (expiry.keep later kept)
      observed := by
  unfold Remembers at *
  rw [hKept, keep_keep hLater]

end Expiry
