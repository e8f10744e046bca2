import Mathlib.Data.List.Basic

/-
  Paths of a file system whose separator is the slash.

  A path is a list of names that starts at the root or at
  some directory. It is brought to a normal form by its text
  alone. Where a directory has one parent, the normal form
  leads to the same place as the path.

  Key definitions include:
    * `FileName`
    * `PosixPath`
    * `PosixPath.ofString`
    * `PosixPath.append`
    * `PosixPath.parentPath`
    * `PosixPath.lexicallyNormal`
    * `PosixPath.locate`

  Key theorems include:
    * `PosixPath.ofString_toString`
    * `PosixPath.locate_lexicallyNormal`
    * `PosixPath.locate_append`
    * `PosixPath.locate_parentPath`
-/

------------------------------------------------------------
-- Names
------------------------------------------------------------

/- The name of an entry in a directory. -/
structure FileName where
  text : String
  nonempty : text ≠ ""
  plain : '/' ∉ text.toList
deriving DecidableEq

namespace FileName

/- The directory itself. -/
def dot : FileName := ⟨".", by decide, by decide⟩

/- The parent of the directory. -/
def dotDot : FileName := ⟨"..", by decide, by decide⟩

def ofString? (text : String) : Option FileName :=
  if hName : text ≠ "" ∧ '/' ∉ text.toList then
    some ⟨text, hName.1, hName.2⟩
  else
    none

@[simp] theorem ofString?_text (name : FileName) :
    ofString? name.text = some name := by
  unfold ofString?
  rw [dif_pos ⟨name.nonempty, name.plain⟩]

@[simp] theorem ofString?_empty : ofString? "" = none := by
  unfold ofString?
  rw [dif_neg (by simp)]

end FileName

------------------------------------------------------------
-- Paths
------------------------------------------------------------

/-
  A path from the root or a relative one. A slash after the
  last name says that it is the name of a directory.
-/
structure PosixPath where
  rooted : Bool
  names : List FileName
  directory : Bool
  named : directory = true → names ≠ []
deriving DecidableEq

namespace PosixPath

/- The path that a text denotes; repeated slashes are one. -/
def ofString (text : String) : PosixPath :=
  let names :=
    (text.toList.splitOn '/').filterMap fun part =>
      FileName.ofString? (String.ofList part)
  { rooted := text.toList.head? = some '/'
    names := names
    directory :=
      !names.isEmpty && text.toList.getLast? = some '/'
    named := by
      intro hDirectory
      rw [Bool.and_eq_true] at hDirectory
      simpa using hDirectory.1 }

/- What stands between the slashes of a text. -/
def parts (p : PosixPath) : List String :=
  p.names.map FileName.text ++
    if p.directory then [""] else []

/- The text of a path. -/
def toString (p : PosixPath) : String :=
  (if p.rooted then "/" else "") ++
    String.intercalate "/" p.parts

/- A path followed from another one. -/
def append (p q : PosixPath) : PosixPath :=
  if q.rooted then
    q
  else if hEmpty : q.names = [] then
    { rooted := p.rooted
      names := p.names
      directory := !p.names.isEmpty
      named := by simp }
  else
    { rooted := p.rooted
      names := p.names ++ q.names
      directory := q.directory
      named := by simp [hEmpty] }

/- What contains the last name of a path. -/
def parentPath (p : PosixPath) : PosixPath where
  rooted := p.rooted
  names := if p.directory then p.names else p.names.dropLast
  directory := false
  named := by simp

/-
  One name of a path to be normalized. The names so far are
  kept in reverse, with whether they end in a directory.
-/
def normalStep
    (rooted : Bool)
    (state : List FileName × Bool)
    (name : FileName) : List FileName × Bool :=
  if name = .dot then
    (state.1, true)
  else if name = .dotDot then
    match state.1 with
    | [] => if rooted then ([], true) else ([.dotDot], false)
    | last :: before =>
        if last = .dotDot then
          (.dotDot :: last :: before, false)
        else
          (before, true)
  else
    (name :: state.1, false)

/-
  Without names for the directory itself and, where it can be
  avoided, without names for the parent.
-/
def lexicallyNormal (p : PosixPath) : PosixPath :=
  let state := p.names.foldl (normalStep p.rooted) ([], false)
  if state.1 = [] then
    { rooted := p.rooted
      names :=
        if p.rooted ∨ p.names = [] then [] else [.dot]
      directory := false
      named := by simp }
  else
    { rooted := p.rooted
      names := state.1.reverse
      directory :=
        (p.directory || state.2) &&
          !state.1.isEmpty &&
            state.1.head? ≠ some .dotDot
      named := by
        intro hDirectory
        rw [Bool.and_eq_true, Bool.and_eq_true] at hDirectory
        simpa using hDirectory.1.2 }

------------------------------------------------------------
-- Texts
------------------------------------------------------------

/- A name ends in something other than a slash. -/
theorem getLast?_text (name : FileName) :
    ∃ c, name.text.toList.getLast? = some c ∧ c ≠ '/' := by
  have hSome : name.text.toList ≠ [] := by
    intro hNone
    exact name.nonempty (String.toList_eq_nil_iff.mp hNone)
  refine
    ⟨name.text.toList.getLast hSome,
      List.getLast?_eq_some_getLast hSome, ?_⟩
  intro hSlash
  exact name.plain (hSlash ▸ List.getLast_mem hSome)

/- The first character of a name is not a slash. -/
theorem exists_text (name : FileName) :
    ∃ c rest, name.text.toList = c :: rest ∧ c ≠ '/' := by
  cases hText : name.text.toList with
  | nil =>
      exact
        absurd (String.toList_eq_nil_iff.mp hText)
          name.nonempty
  | cons c rest =>
      refine ⟨c, rest, rfl, ?_⟩
      intro hSlash
      apply name.plain
      rw [hText, hSlash]
      exact List.mem_cons_self

theorem toList_toString (p : PosixPath) :
    p.toString.toList =
      (if p.rooted then ['/'] else []) ++
        ['/'].intercalate (p.parts.map String.toList) := by
  unfold toString
  rw [String.toList_append, String.toList_intercalate]
  cases p.rooted <;> rfl

/- No part has a slash. -/
theorem plain_of_mem_parts
    {p : PosixPath}
    {part : List Char}
    (hPart : part ∈ p.parts.map String.toList) :
    '/' ∉ part := by
  rcases List.mem_map.mp hPart with ⟨text, hText, rfl⟩
  unfold parts at hText
  rcases List.mem_append.mp hText with hName | hMark
  · rcases List.mem_map.mp hName with ⟨name, _, rfl⟩
    exact name.plain
  · split at hMark
    · rw [List.mem_singleton.mp hMark]
      exact List.not_mem_nil
    · cases hMark

/- The parts that are names. -/
theorem filterMap_parts (p : PosixPath) :
    ((p.parts.map String.toList).filterMap fun part =>
        FileName.ofString? (String.ofList part)) =
      p.names := by
  unfold parts
  rw [List.map_append, List.map_map, List.filterMap_append,
    List.filterMap_map]
  have hNames :
      (p.names.filterMap
          ((fun part =>
              FileName.ofString? (String.ofList part)) ∘
            String.toList ∘ FileName.text)) =
        p.names := by
    simp
  rw [hNames]
  cases p.directory <;> simp

/- Splitting the text of a path gives its names. -/
theorem filterMap_splitOn (p : PosixPath) :
    ((p.toString.toList.splitOn '/').filterMap fun part =>
        FileName.ofString? (String.ofList part)) =
      p.names := by
  have hParts :
      (((['/'].intercalate
              (p.parts.map String.toList)).splitOn
            '/').filterMap
          fun part =>
            FileName.ofString? (String.ofList part)) =
        p.names := by
    rw [← filterMap_parts p]
    by_cases hNone : p.parts.map String.toList = []
    · simp [hNone]
    · rw [List.splitOn_intercalate '/'
          (fun part hPart => plain_of_mem_parts hPart) hNone]
  rw [toList_toString]
  cases p.rooted with
  | false => exact hParts
  | true =>
      change
        (([] ++ '/' :: ['/'].intercalate _).splitOn
            '/').filterMap _ = _
      rw [List.splitOn_append_cons_self_of_not_mem
        List.not_mem_nil]
      simpa using hParts

/- Without names there is nothing between the slashes. -/
theorem parts_of_no_names
    {p : PosixPath}
    (hNone : p.names = []) :
    p.parts = [] := by
  have hMark : p.directory ≠ true := fun hDirectory =>
    p.named hDirectory hNone
  simp [parts, hNone, hMark]

/- The text starts with a slash exactly for rooted paths. -/
theorem head?_toString (p : PosixPath) :
    (p.toString.toList.head? = some '/') ↔
      p.rooted = true := by
  rw [toList_toString]
  cases p.rooted with
  | true => simp
  | false =>
      simp only [Bool.false_eq_true, if_false,
        List.nil_append, iff_false]
      cases hNames : p.names with
      | nil => simp [parts_of_no_names hNames]
      | cons name names =>
          rcases exists_text name with ⟨c, rest, hText, hOther⟩
          unfold parts
          rw [hNames, List.map_cons, List.cons_append,
            List.map_cons, hText,
            List.intercalate_cons_cons_left]
          simpa using hOther

/- A list of names ends in something other than a slash. -/
theorem getLast?_names
    {names : List FileName}
    (hSome : names ≠ []) :
    ∃ c,
      (['/'].intercalate
            ((names.map FileName.text).map
              String.toList)).getLast? =
          some c ∧
        c ≠ '/' := by
  induction names with
  | nil => exact absurd rfl hSome
  | cons name names ih =>
      by_cases hOne : names = []
      · rw [hOne]
        simpa using getLast?_text name
      · rcases ih hOne with ⟨c, hLast, hOther⟩
        refine ⟨c, ?_, hOther⟩
        rw [List.map_cons, List.map_cons,
          List.intercalate_cons_of_ne_nil (by simpa using hOne),
          List.getLast?_append, hLast]
        rfl

/- An empty last part leaves a slash at the end. -/
theorem getLast?_of_mark
    {texts : List (List Char)}
    (hSome : texts ≠ []) :
    (['/'].intercalate (texts ++ [[]])).getLast? =
      some '/' := by
  induction texts with
  | nil => exact absurd rfl hSome
  | cons text texts ih =>
      rw [List.cons_append,
        List.intercalate_cons_of_ne_nil (by simp),
        List.getLast?_append]
      by_cases hOne : texts = []
      · rw [hOne]
        simp
      · rw [ih hOne]
        rfl

/- It ends with one exactly when the path says so. -/
theorem getLast?_toString
    {p : PosixPath}
    (hSome : p.names ≠ []) :
    (p.toString.toList.getLast? = some '/') ↔
      p.directory = true := by
  rw [toList_toString, List.getLast?_append]
  unfold parts
  cases p.directory with
  | true =>
      rw [if_pos rfl, List.map_append]
      change
        (['/'].intercalate (_ ++ [[]])).getLast?.or _ = _ ↔ _
      rw [getLast?_of_mark (by simpa using hSome)]
      simp
  | false =>
      rcases getLast?_names hSome with ⟨c, hLast, hOther⟩
      rw [if_neg (by decide), List.append_nil, hLast]
      simpa using hOther

/- A path is read back from its text. -/
theorem ofString_toString (p : PosixPath) :
    ofString p.toString = p := by
  rcases p with ⟨rooted, names, directory, named⟩
  have hNames :=
    filterMap_splitOn ⟨rooted, names, directory, named⟩
  have hRooted :=
    head?_toString ⟨rooted, names, directory, named⟩
  unfold ofString
  simp only [hNames, mk.injEq]
  refine ⟨?_, trivial, ?_⟩
  · cases rooted <;> simpa using hRooted
  · cases hEmpty : names.isEmpty with
    | true =>
        cases directory with
        | false => simp
        | true =>
            exact
              absurd (List.isEmpty_iff.mp hEmpty) (named rfl)
    | false =>
        have hSome : names ≠ [] := by simpa using hEmpty
        have hLast :
            ((PosixPath.mk rooted names directory
                    named).toString.toList.getLast? =
                some '/') ↔
              directory = true :=
          getLast?_toString hSome
        cases directory <;> simpa using hLast

------------------------------------------------------------
-- Places
------------------------------------------------------------

/- A place is given by the names on the way from the root. -/
def enter
    (place : List FileName)
    (name : FileName) : List FileName :=
  if name = .dot then place
  else if name = .dotDot then place.dropLast
  else place ++ [name]

section Places

variable (isDirectory : List FileName → Bool)

/- Follow names; only a directory can be entered. -/
def walk :
    List FileName → List FileName → Option (List FileName)
| place, [] => some place
| place, name :: names =>
    if isDirectory place then
      walk (enter place name) names
    else
      none

/- The path of the empty text leads nowhere. -/
def isEmpty (p : PosixPath) : Bool :=
  !p.rooted && p.names.isEmpty

/- Where a path leads to from a starting place. -/
def locate
    (start : List FileName)
    (p : PosixPath) : Option (List FileName) :=
  if p.isEmpty then
    none
  else
    (walk isDirectory (if p.rooted then [] else start)
      p.names).filter
      fun place => !p.directory || isDirectory place

variable {isDirectory}
variable {start place final : List FileName}
variable {names : List FileName}

theorem walk_append
    (place before after : List FileName) :
    walk isDirectory place (before ++ after) =
      (walk isDirectory place before).bind
        fun next => walk isDirectory next after := by
  induction before generalizing place with
  | nil => rfl
  | cons name before ih =>
      rw [List.cons_append, walk, walk]
      split
      · exact ih _
      · rfl

/- One more name is entered from where the others lead. -/
theorem walk_snoc_iff
    {name : FileName} :
    walk isDirectory start (names ++ [name]) = some final ↔
      ∃ place,
        walk isDirectory start names = some place ∧
          isDirectory place = true ∧
            enter place name = final := by
  rw [walk_append, Option.bind_eq_some_iff]
  refine exists_congr fun place => and_congr_right fun _ => ?_
  rw [walk]
  simp [walk]

/-
  What the names so far keep: they lead to the place, without
  a name for the directory itself, and without a name for the
  parent if they start at the root.
-/
structure Kept
    (isDirectory : List FileName → Bool)
    (rooted : Bool)
    (start : List FileName)
    (state : List FileName × Bool)
    (place : List FileName) : Prop where
  leads :
    walk isDirectory start state.1.reverse = some place
  noDot : ∀ name ∈ state.1, name ≠ .dot
  noParent :
    rooted = true → ∀ name ∈ state.1, name ≠ .dotDot
  marked : state.2 = true → isDirectory place = true
  root : rooted = true → start = []

theorem Kept.push
    {rooted mark : Bool}
    {stack : List FileName}
    {name : FileName}
    (hKept :
      Kept isDirectory rooted start (stack, mark) place)
    (hDirectory : isDirectory place = true)
    (hDot : name ≠ .dot)
    (hParent : rooted = true → name ≠ .dotDot) :
    Kept isDirectory rooted start (name :: stack, false)
      (enter place name) where
  leads := by
    rw [List.reverse_cons, walk_snoc_iff]
    exact ⟨place, hKept.leads, hDirectory, rfl⟩
  noDot := by
    rw [List.forall_mem_cons]
    exact ⟨hDot, hKept.noDot⟩
  noParent := by
    intro hRooted
    rw [List.forall_mem_cons]
    exact ⟨hParent hRooted, hKept.noParent hRooted⟩
  marked := by
    intro hMark
    cases hMark
  root := hKept.root

/- A name is taken back by going to the parent. -/
theorem Kept.pop
    {rooted mark : Bool}
    {stack : List FileName}
    {last : FileName}
    (hKept :
      Kept isDirectory rooted start (last :: stack, mark)
        place)
    (hLast : last ≠ .dotDot) :
    Kept isDirectory rooted start (stack, true)
      (enter place .dotDot) := by
  have hDot := hKept.noDot last List.mem_cons_self
  have hLeads := hKept.leads
  rw [List.reverse_cons, walk_snoc_iff] at hLeads
  rcases hLeads with ⟨before, hBefore, hDirectory, hEnter⟩
  have hBack : enter place .dotDot = before := by
    rw [← hEnter]
    unfold enter
    rw [if_neg hDot, if_neg hLast,
      if_neg (by decide : FileName.dotDot ≠ .dot),
      if_pos rfl, List.dropLast_concat]
  rw [hBack]
  exact
    { leads := hBefore
      noDot := fun name hName =>
        hKept.noDot name (List.mem_cons_of_mem _ hName)
      noParent := fun hRooted name hName =>
        hKept.noParent hRooted name
          (List.mem_cons_of_mem _ hName)
      marked := fun _ => hDirectory
      root := hKept.root }

/- One name of a path keeps where the names lead to. -/
theorem Kept.step
    {rooted : Bool}
    {state : List FileName × Bool}
    {name : FileName}
    (hKept : Kept isDirectory rooted start state place)
    (hDirectory : isDirectory place = true) :
    Kept isDirectory rooted start
      (normalStep rooted state name) (enter place name) := by
  rcases state with ⟨stack, mark⟩
  unfold normalStep
  by_cases hDot : name = .dot
  · rw [if_pos hDot]
    have hStay : enter place name = place := by
      unfold enter
      rw [if_pos hDot]
    rw [hStay]
    exact
      ⟨hKept.leads, hKept.noDot, hKept.noParent,
        fun _ => hDirectory, hKept.root⟩
  · rw [if_neg hDot]
    by_cases hParent : name = .dotDot
    · rw [if_pos hParent]
      subst hParent
      cases stack with
      | nil =>
          cases rooted with
          | false => exact hKept.push hDirectory hDot (by simp)
          | true =>
              -- the root is its own parent
              have hPlace : place = [] := by
                have hLeads := hKept.leads
                rw [List.reverse_nil, walk,
                  hKept.root rfl] at hLeads
                exact (Option.some.inj hLeads).symm
              have hStay : enter place .dotDot = place := by
                rw [hPlace]
                rfl
              rw [hStay]
              exact
                ⟨hKept.leads, hKept.noDot, hKept.noParent,
                  fun _ => hDirectory, hKept.root⟩
      | cons last before =>
          simp only
          by_cases hLast : last = .dotDot
          · rw [if_pos hLast]
            refine hKept.push hDirectory hDot ?_
            intro hRooted
            exact
              absurd hLast
                (hKept.noParent hRooted last
                  List.mem_cons_self)
          · rw [if_neg hLast]
            exact hKept.pop hLast
    · rw [if_neg hParent]
      exact hKept.push hDirectory hDot fun _ => hParent

/- All names of a path keep where the names lead to. -/
theorem Kept.foldl
    {rooted : Bool}
    {state : List FileName × Bool}
    (hKept : Kept isDirectory rooted start state place)
    (hWalk : walk isDirectory place names = some final) :
    Kept isDirectory rooted start
      (names.foldl (normalStep rooted) state) final := by
  induction names generalizing state place with
  | nil =>
      rw [walk, Option.some.injEq] at hWalk
      rw [← hWalk]
      exact hKept
  | cons name names ih =>
      rw [walk, Option.ite_none_right_eq_some] at hWalk
      exact ih (hKept.step hWalk.1) hWalk.2

theorem kept_start
    (rooted : Bool)
    (start : List FileName) :
    Kept isDirectory rooted (if rooted then [] else start)
      ([], false) (if rooted then [] else start) where
  leads := rfl
  noDot := by simp
  noParent := by simp
  marked := by simp
  root := by
    rintro rfl
    rfl

------------------------------------------------------------
-- Normal Forms
------------------------------------------------------------

theorem locate_eq_some_iff
    {p : PosixPath} :
    locate isDirectory start p = some final ↔
      p.isEmpty = false ∧
        walk isDirectory (if p.rooted then [] else start)
              p.names =
            some final ∧
          (p.directory = true → isDirectory final = true) := by
  unfold locate
  rw [Option.ite_none_left_eq_some, Bool.not_eq_true,
    Option.filter_eq_some_iff]
  refine and_congr_right fun _ => and_congr_right fun _ => ?_
  cases p.directory <;> simp

/- What is walked into is a directory. -/
theorem isDirectory_of_walk
    (hSome : names ≠ [])
    (hWalk : walk isDirectory start names = some final) :
    isDirectory start = true := by
  cases names with
  | nil => exact absurd rfl hSome
  | cons name names =>
      rw [walk, Option.ite_none_right_eq_some] at hWalk
      exact hWalk.1

/- The normal form leads to the same place. -/
theorem locate_lexicallyNormal
    {p : PosixPath}
    (hLocate : locate isDirectory start p = some final) :
    locate isDirectory start p.lexicallyNormal =
      some final := by
  rw [locate_eq_some_iff] at hLocate
  rcases hLocate with ⟨hSome, hWalk, hMark⟩
  have hKept := (kept_start p.rooted start).foldl hWalk
  rw [locate_eq_some_iff]
  unfold lexicallyNormal
  simp only
  split
  · rename_i hNone
    have hLeads := hKept.leads
    rw [hNone, List.reverse_nil, walk] at hLeads
    by_cases hRooted : p.rooted = true
    · refine ⟨by simp [isEmpty, hRooted], ?_, by simp⟩
      simpa [hRooted, walk] using hLeads
    · have hNamed : p.names ≠ [] := by
        simpa [isEmpty, hRooted] using hSome
      have hDirectory := isDirectory_of_walk hNamed hWalk
      refine ⟨by simp [isEmpty, hNamed], ?_, by simp⟩
      change
        walk _ (if p.rooted = true then [] else start)
            (if _ then _ else _) =
          _
      rw [if_neg (not_or.mpr ⟨hRooted, hNamed⟩), walk,
        if_pos hDirectory]
      exact hLeads
  · rename_i hNamed
    refine ⟨by simp [isEmpty, hNamed], hKept.leads, ?_⟩
    intro hDirectory
    rw [Bool.and_eq_true, Bool.and_eq_true,
      Bool.or_eq_true] at hDirectory
    rcases hDirectory.1.1 with hWritten | hEnds
    · exact hMark hWritten
    · exact hKept.marked hEnds

/- Plain names lead to the place that they name. -/
theorem eq_of_walk_plain
    (hDot : ∀ name ∈ names, name ≠ FileName.dot)
    (hParent : ∀ name ∈ names, name ≠ FileName.dotDot)
    (hWalk : walk isDirectory start names = some final) :
    final = start ++ names := by
  induction names generalizing start with
  | nil =>
      rw [walk, Option.some.injEq] at hWalk
      rw [List.append_nil, hWalk]
  | cons name names ih =>
      rw [List.forall_mem_cons] at hDot hParent
      rw [walk, Option.ite_none_right_eq_some] at hWalk
      have hEnter : enter start name = start ++ [name] := by
        unfold enter
        rw [if_neg hDot.1, if_neg hParent.1]
      rw [ih hDot.2 hParent.2 hWalk.2, hEnter,
        List.append_assoc, List.singleton_append]

/- The normal form of a rooted path names its place. -/
theorem names_lexicallyNormal
    {p : PosixPath}
    (hRooted : p.rooted = true)
    (hLocate : locate isDirectory start p = some final) :
    p.lexicallyNormal.rooted = true ∧
      p.lexicallyNormal.names = final := by
  have hWalk := (locate_eq_some_iff.mp hLocate).2.1
  have hKept := (kept_start p.rooted start).foldl hWalk
  have hNames :
      final =
        (p.names.foldl (normalStep p.rooted)
          ([], false)).1.reverse := by
    have hPlain :=
      eq_of_walk_plain
        (by simpa using hKept.noDot)
        (by simpa using hKept.noParent hRooted)
        hKept.leads
    simpa [hRooted] using hPlain
  unfold lexicallyNormal
  simp only
  split
  · rename_i hNone
    rw [hNone, List.reverse_nil] at hNames
    refine ⟨hRooted, ?_⟩
    simp [hRooted, hNames]
  · exact ⟨hRooted, hNames.symm⟩

/- A path is followed from where the other one leads to. -/
theorem locate_append
    {p q : PosixPath}
    (hPlace : locate isDirectory start p = some place)
    (hLocate : locate isDirectory place q = some final) :
    locate isDirectory start (p.append q) = some final := by
  rw [locate_eq_some_iff] at hPlace
  rw [locate_eq_some_iff] at hLocate
  rw [locate_eq_some_iff]
  unfold append
  cases hRooted : q.rooted with
  | true =>
      rw [if_pos rfl, hRooted]
      simpa [hRooted] using hLocate
  | false =>
      have hSome : q.names ≠ [] := by
        simpa [isEmpty, hRooted] using hLocate.1
      rw [if_neg (by decide), dif_neg hSome]
      refine ⟨by simp [isEmpty, hSome], ?_, hLocate.2.2⟩
      have hWalk := hLocate.2.1
      rw [hRooted] at hWalk
      rw [walk_append, hPlace.2.1]
      exact hWalk

theorem rooted_append (p q : PosixPath) :
    (p.append q).rooted = (q.rooted || p.rooted) := by
  unfold append
  by_cases hRooted : q.rooted = true
  · simp [hRooted]
  · rw [if_neg hRooted]
    split <;> simp [hRooted]

/- A rooted path does not depend on where it is used. -/
theorem locate_of_rooted
    {p : PosixPath}
    (hRooted : p.rooted = true)
    (start other : List FileName) :
    locate isDirectory start p = locate isDirectory other p := by
  unfold locate
  rw [hRooted]
  rfl

/- The root and the parents of directories are directories. -/
structure IsTree
    (isDirectory : List FileName → Bool) : Prop where
  root : isDirectory [] = true
  parent :
    ∀ place, isDirectory place = true →
      isDirectory place.dropLast = true

/- The parent of the path of a file is where the file is. -/
theorem locate_parentPath
    {p : PosixPath}
    (hTree : IsTree isDirectory)
    (hRooted : p.rooted = true)
    (hFile : locate isDirectory start p = some final)
    (hPlain : isDirectory final = false) :
    locate isDirectory start p.parentPath =
      some final.dropLast := by
  rw [locate_eq_some_iff, hRooted] at hFile
  rcases hFile with ⟨_, hWalk, hMark⟩
  have hDirectory : p.directory = false := by
    by_contra hMarked
    rw [hMark (by simpa using hMarked)] at hPlain
    cases hPlain
  rw [locate_eq_some_iff]
  refine
    ⟨by simp [isEmpty, parentPath, hRooted], ?_,
      by simp [parentPath]⟩
  unfold parentPath
  simp only [hRooted, hDirectory, if_true, Bool.false_eq_true,
    if_false] at hWalk ⊢
  rcases List.eq_nil_or_concat p.names with
    hNone | ⟨before, last, hNames⟩
  · rw [hNone, walk, Option.some.injEq] at hWalk
    rw [← hWalk, hTree.root] at hPlain
    cases hPlain
  · rw [List.concat_eq_append] at hNames
    rw [hNames, walk_snoc_iff] at hWalk
    rcases hWalk with ⟨place, hWalk, hInside, hEnter⟩
    rw [hNames, List.dropLast_concat, hWalk]
    unfold enter at hEnter
    split at hEnter
    · rw [← hEnter, hInside] at hPlain
      cases hPlain
    · split at hEnter
      · rw [← hEnter, hTree.parent place hInside] at hPlain
        cases hPlain
      · rw [← hEnter, List.dropLast_concat]

end Places

end PosixPath
