import FaultInjection.Foundations.Number

/-
  Numbers read from text and written to text.

  `fromChars` reads like `std::from_chars` and `strtod` like
  the C function of that name. Both read the longest prefix
  that is a number. The first takes neither blanks nor a
  plus sign nor hexadecimal digits. A value is the exact
  number that the text denotes; the range of the binary64
  format only decides which texts are out of range.

  Key definitions include:
    * `fromChars`
    * `fromCharsInt`
    * `stod`
    * `strtod`
    * `stoi`
    * `toString6`

  Key theorems include:
    * `takeDigits_toString`
-/

------------------------------------------------------------
-- Digits
------------------------------------------------------------

namespace NumberText

/- Why a text is not read as a number. -/
inductive Errc where
| invalidArgument : Errc
| outOfRange : Errc
deriving DecidableEq, Repr

/- The value of a digit in bases up to sixteen. -/
def digitValue? (base : Nat) (c : Char) : Option Nat :=
  let code := c.toNat
  let value :=
    if 48 ≤ code ∧ code ≤ 57 then code - 48
    else if 97 ≤ code ∧ code ≤ 102 then code - 87
    else if 65 ≤ code ∧ code ≤ 70 then code - 55
    else base
  if value < base then some value else none

/- The leading digits of a text, and what follows them. -/
def takeDigits (base : Nat) :
    List Char → List Nat × List Char
| [] => ([], [])
| c :: cs =>
    match digitValue? base c with
    | none => ([], c :: cs)
    | some d =>
        let (ds, rest) := takeDigits base cs
        (d :: ds, rest)

/- The natural number that digits denote. -/
def digitsValue (base : Nat) (ds : List Nat) : Nat :=
  ds.foldl (fun value d => value * base + d) 0

/-
  An exponent marker with its signed decimal exponent. When
  no digit follows the marker, nothing is read.
-/
def takeExponent (marker : Char) :
    List Char → Int × List Char
| [] => (0, [])
| c :: cs =>
    if c.toLower = marker then
      let (negative, digits) :=
        match cs with
        | '-' :: rest => (true, rest)
        | '+' :: rest => (false, rest)
        | _ => (false, cs)
      match takeDigits 10 digits with
      | ([], _) => (0, c :: cs)
      | (ds, rest) =>
          let value : Int := digitsValue 10 ds
          (if negative then -value else value, rest)
    else
      (0, c :: cs)

/-
  An unsigned number in positional notation: digits with an
  optional point, at least one digit, and an exponent that
  counts in powers of `scale`.
-/
def takePositional
    (base : Nat)
    (scale : ℚ)
    (marker : Char)
    (text : List Char) : Option (ℚ × List Char) :=
  let (whole, afterWhole) := takeDigits base text
  let (fraction, afterPoint) :=
    match afterWhole with
    | '.' :: rest => takeDigits base rest
    | _ => ([], afterWhole)
  if whole = [] ∧ fraction = [] then
    none
  else
    let (exponent, rest) := takeExponent marker afterPoint
    let mantissa : ℚ := digitsValue base (whole ++ fraction)
    let unit : ℚ := (base : ℚ) ^ fraction.length
    some (mantissa / unit * scale ^ exponent, rest)

/- Drop a word from the front, in either case. -/
def dropWord (word : List Char) :
    List Char → Option (List Char)
| text =>
    if (text.take word.length).map Char.toLower = word then
      some (text.drop word.length)
    else
      none

/- Drop a parenthesised tag that may follow `nan`. -/
def dropTag (text : List Char) : List Char :=
  match text with
  | '(' :: rest =>
      let tag := rest.takeWhile fun c =>
        c.isAlphanum || c = '_'
      match rest.drop tag.length with
      | ')' :: after => after
      | _ => text
  | _ => text

end NumberText

------------------------------------------------------------
-- Reading
------------------------------------------------------------

namespace NumberText

/- From this magnitude on a value rounds to infinity. -/
def overflowBound : ℚ := 2 ^ 1024 - 2 ^ 970

/- A nonzero value up to this magnitude rounds to zero. -/
def underflowBound : ℚ := 1 / 2 ^ 1075

/- The smallest normal magnitude. -/
def smallestNormal : ℚ := 1 / 2 ^ 1022

/- With 53 bits a value rounds to a normal one from here. -/
def normalBound : ℚ := smallestNormal - 1 / 2 ^ 1076

/- The distance of subnormal values. -/
def subnormalUnit : ℚ := 1 / 2 ^ 1074

/- The value is in the range of the format. -/
def inRange (q : ℚ) : Bool :=
  q = 0 ∨ (underflowBound < |q| ∧ |q| < overflowBound)

/-
  The `ERANGE` condition of `strtod` in glibc: the result is
  infinite, or it is inexact and tiny after rounding, that is,
  rounded to 53 bits with any exponent it is below the
  smallest normal magnitude.
-/
def erange (q : ℚ) : Bool :=
  overflowBound ≤ |q| ∨
    (q ≠ 0 ∧ |q| < normalBound ∧
      (q / subnormalUnit).den ≠ 1)

/- What rounds up to the smallest normal magnitude is read. -/
example : erange (22250738585072013830 / 10 ^ 327) = false := by
  decide +kernel

/-
  An unsigned number: `inf`, `infinity`, `nan` with a tag,
  a hexadecimal number where these are allowed, or a decimal
  number.
-/
def takeUnsigned
    (hexadecimal : Bool)
    (text : List Char) : Option (Number × List Char) :=
  match dropWord "infinity".toList text with
  | some rest => some (.posInf, rest)
  | none =>
  match dropWord "inf".toList text with
  | some rest => some (.posInf, rest)
  | none =>
  match dropWord "nan".toList text with
  | some rest => some (.nan, dropTag rest)
  | none =>
  let decimal := (takePositional 10 10 'e' text).map
    fun (q, rest) => (Number.finite q, rest)
  if hexadecimal then
    match dropWord "0x".toList text with
    | none => decimal
    | some digits =>
        match takePositional 16 2 'p' digits with
        | none => decimal
        | some (q, rest) => some (.finite q, rest)
  else
    decimal

/- Read a number, negated after a minus sign. -/
def takeSigned
    (hexadecimal : Bool)
    (text : List Char) : Option (Number × List Char) :=
  match text with
  | '-' :: rest =>
      (takeUnsigned hexadecimal rest).map
        fun (x, after) => (x.neg, after)
  | _ => takeUnsigned hexadecimal text

/- `std::from_chars` for a double in general format. -/
def fromChars
    (text : List Char) :
    Except Errc (Number × List Char) :=
  match takeSigned false text with
  | none => .error .invalidArgument
  | some (.finite q, rest) =>
      if inRange q then
        .ok (.finite q, rest)
      else
        .error .outOfRange
  | some (x, rest) => .ok (x, rest)

/- A signed 32-bit integer. -/
def inInt32 (n : Int) : Bool :=
  -(2 ^ 31) ≤ n ∧ n < 2 ^ 31

/- `std::from_chars` for an int in base ten. -/
def fromCharsInt
    (text : List Char) :
    Except Errc (Int × List Char) :=
  let (negative, digits) :=
    match text with
    | '-' :: rest => (true, rest)
    | _ => (false, text)
  match takeDigits 10 digits with
  | ([], _) => .error .invalidArgument
  | (ds, rest) =>
      let magnitude : Int := digitsValue 10 ds
      let value := if negative then -magnitude else magnitude
      if inInt32 value then
        .ok (value, rest)
      else
        .error .outOfRange

/- Blank characters, which `strtod` and `strtol` skip. -/
def isSpace (c : Char) : Bool :=
  c = ' ' ∨ (9 ≤ c.toNat ∧ c.toNat ≤ 13)

/- `std::stod`: throws unless a prefix reads in range. -/
def stod (text : String) : Except Errc Number :=
  let trimmed := text.toList.dropWhile isSpace
  let unsigned :=
    match trimmed with
    | '+' :: '-' :: _ => none
    | '+' :: rest => takeUnsigned true rest
    | _ => takeSigned true trimmed
  match unsigned with
  | none => .error .invalidArgument
  | some (.finite q, _) =>
      if erange q then
        .error .outOfRange
      else
        .ok (.finite q)
  | some (x, _) => .ok x

/- The number of the longest prefix, and what follows it. -/
def strtod (text : List Char) : Option (Number × List Char) :=
  match text.dropWhile isSpace with
  | '+' :: '-' :: _ => none
  | '+' :: rest => takeUnsigned true rest
  | trimmed => takeSigned true trimmed

/- `std::stoi`: throws unless a prefix reads in range. -/
def stoi (text : String) : Except Errc Int :=
  let trimmed := text.toList.dropWhile isSpace
  let signless :=
    match trimmed with
    | '+' :: '-' :: _ => []
    | '+' :: rest => rest
    | _ => trimmed
  match fromCharsInt signless with
  | .ok (value, _) => .ok value
  | .error e => .error e

end NumberText

------------------------------------------------------------
-- Writing
------------------------------------------------------------

namespace NumberText

/- The natural number nearest to a value, ties to even. -/
def roundHalfEven (q : ℚ) : Nat :=
  let low := q.floor.toNat
  let rest := q - low
  if rest < 1 / 2 then low
  else if 1 / 2 < rest then low + 1
  else if low % 2 = 0 then low
  else low + 1

/- Decimal digits, filled up with zeros on the left. -/
def padded (width n : Nat) : String :=
  let text := toString n
  String.ofList (List.replicate (width - text.length) '0') ++
    text

/- `std::to_string` for a double: six decimal places. -/
def toString6 : Number → String
| .finite q =>
    let scaled := roundHalfEven (|q| * 10 ^ 6)
    (if q < 0 then "-" else "") ++
      toString (scaled / 10 ^ 6) ++ "." ++
        padded 6 (scaled % 10 ^ 6)
| .posInf => "inf"
| .negInf => "-inf"
| .nan => "nan"

end NumberText

------------------------------------------------------------
-- Printed Numbers
------------------------------------------------------------

namespace NumberText

/- The character of a digit is read as that digit. -/
theorem digitValue?_digitChar :
    ∀ d < 10, digitValue? 10 (Nat.digitChar d) = some d := by
  decide

theorem takeDigits_digitChars
    {ds : List Nat}
    (hDigits : ∀ d ∈ ds, d < 10) :
    takeDigits 10 (ds.map Nat.digitChar) = (ds, []) := by
  induction ds with
  | nil => rfl
  | cons d ds ih =>
      rw [List.forall_mem_cons] at hDigits
      rw [List.map_cons, takeDigits,
        digitValue?_digitChar d hDigits.1, ih hDigits.2]

/- A printed number consists of digits with its value. -/
theorem exists_digits_of_toDigits (n : Nat) :
    ∃ ds : List Nat,
      Nat.toDigits 10 n = ds.map Nat.digitChar ∧
        (∀ d ∈ ds, d < 10) ∧
          ds ≠ [] ∧ digitsValue 10 ds = n := by
  induction n using Nat.strongRecOn with
  | ind n ih =>
      by_cases hSmall : n < 10
      · refine ⟨[n], Nat.toDigits_of_lt_base hSmall, ?_,
          List.cons_ne_nil _ _, ?_⟩
        · simpa using hSmall
        · simp [digitsValue]
      · rcases ih (n / 10) (by omega) with
          ⟨ds, hText, hDigits, hSome, hValue⟩
        refine ⟨ds ++ [n % 10], ?_, ?_, by simp, ?_⟩
        · rw [Nat.toDigits_of_base_le (by decide) (by omega),
            hText, List.map_append]
          rfl
        · intro d hMember
          rcases List.mem_append.mp hMember with hOld | hLast
          · exact hDigits d hOld
          · rw [List.mem_singleton.mp hLast]
            omega
        · unfold digitsValue at hValue ⊢
          rw [List.foldl_append, hValue, List.foldl_cons,
            List.foldl_nil]
          omega

/- A printed number is read back. -/
theorem takeDigits_toString (n : Nat) :
    ∃ ds : List Nat,
      takeDigits 10 (toString n).toList = (ds, []) ∧
        ds ≠ [] ∧ digitsValue 10 ds = n := by
  rcases exists_digits_of_toDigits n with
    ⟨ds, hText, hDigits, hSome, hValue⟩
  refine ⟨ds, ?_, hSome, hValue⟩
  have hList : (toString n).toList = Nat.toDigits 10 n :=
    Nat.toList_repr
  rw [hList, hText]
  exact takeDigits_digitChars hDigits

end NumberText
