import FaultInjection.Foundations.BinaryFormats
import FaultInjection.Foundations.NumberText

/-
  What one number parser reads completely the other parser
  reads as well.

  The stricter parsers `fromChars` and `fromCharsInt` accept
  no blanks, no plus sign and no hexadecimal digits, so on
  the texts they read to the end `stod` and `stoi` take the
  same path. Only the range of `stod` is narrower: it rejects
  a nonzero value that the binary64 format cannot hold exactly
  and that rounds to less than the smallest normal magnitude.

  Key definitions include:
    * `NumberText.isInexactSubnormal`

  Key theorems include:
    * `NumberText.inRange_iff`
    * `NumberText.nearest_lt_smallestNormal_iff`
    * `NumberText.stoi_of_fromCharsInt`
    * `NumberText.stod_of_fromChars`
    * `NumberText.stod_eq_ok_iff_of_fromChars`
-/

namespace NumberText

------------------------------------------------------------
-- First Characters
------------------------------------------------------------

/- Lower case changes letters only. -/
theorem toLower_eq_self_or
    (c : Char) :
    c.toLower = c ∨
      (65 ≤ c.toNat ∧ 97 ≤ c.toLower.toNat) := by
  unfold Char.toLower
  split
  · rename_i hUpper
    right
    have hA := UInt32.le_iff_toNat_le.mp hUpper.1
    have hZ := UInt32.le_iff_toNat_le.mp hUpper.2
    have hLow : 65 ≤ c.toNat := hA
    have hHigh : c.toNat ≤ 90 := hZ
    refine ⟨hLow, ?_⟩
    change 97 ≤ (c.val + 32).toNat
    rw [UInt32.toNat_add]
    change 97 ≤ (c.toNat + 32) % 2 ^ 32
    omega
  · exact Or.inl rfl

/- A decimal digit is a character between zero and nine. -/
theorem digitValue?_ten_eq_none_iff
    {c : Char} :
    digitValue? 10 c = none ↔
      c.toNat < 48 ∨ 57 < c.toNat := by
  unfold digitValue?
  simp only
  split
  · rename_i hDigit
    rw [if_pos (by omega)]
    simp only [reduceCtorEq, false_iff]
    omega
  · rename_i hNoDigit
    simp only [ite_eq_right_iff, reduceCtorEq, imp_false]
    constructor
    · intro _
      omega
    · intro _
      split
      · omega
      · split
        · omega
        · omega

theorem dropWord_cons_eq_none
    {w c : Char}
    {ws cs : List Char}
    (hHead : c.toLower ≠ w) :
    dropWord (w :: ws) (c :: cs) = none := by
  unfold dropWord
  rw [if_neg]
  simp [hHead]

/- No positional number starts with such a character. -/
theorem takePositional_cons_eq_none
    {base : Nat}
    {scale : ℚ}
    {marker c : Char}
    {cs : List Char}
    (hDigit : digitValue? base c = none)
    (hPoint : c ≠ '.') :
    takePositional base scale marker (c :: cs) = none := by
  unfold takePositional
  rw [takeDigits]
  simp only [hDigit]
  split
  · rename_i rest hSame
    rw [List.cons.injEq] at hSame
    exact absurd hSame.1 hPoint
  · rfl

/- No number starts with a character up to the minus sign. -/
theorem takeUnsigned_cons_eq_none
    {hexadecimal : Bool}
    {c : Char}
    {cs : List Char}
    (hLow : c.toNat ≤ 45) :
    takeUnsigned hexadecimal (c :: cs) = none := by
  have hLower : c.toLower = c := by
    rcases toLower_eq_self_or c with hSelf | ⟨hHigh, _⟩
    · exact hSelf
    · omega
  have hApart :
      ∀ d : Char, 45 < d.toNat → c.toLower ≠ d := by
    intro d hHigh hSame
    rw [hLower] at hSame
    subst hSame
    omega
  have hInfinity :
      dropWord "infinity".toList (c :: cs) = none :=
    dropWord_cons_eq_none (hApart 'i' (by decide))
  have hInf : dropWord "inf".toList (c :: cs) = none :=
    dropWord_cons_eq_none (hApart 'i' (by decide))
  have hNan : dropWord "nan".toList (c :: cs) = none :=
    dropWord_cons_eq_none (hApart 'n' (by decide))
  have hHex : dropWord "0x".toList (c :: cs) = none :=
    dropWord_cons_eq_none (hApart '0' (by decide))
  have hPoint : c ≠ '.' := by
    rw [← hLower]
    exact hApart '.' (by decide)
  have hDigit : digitValue? 10 c = none :=
    digitValue?_ten_eq_none_iff.mpr (by omega)
  unfold takeUnsigned
  rw [hInfinity, hInf, hNan, hHex,
    takePositional_cons_eq_none hDigit hPoint]
  simp

/- Blanks and the plus sign come before the minus sign. -/
theorem toNat_le_of_isSpace
    {c : Char}
    (hSpace : isSpace c = true) :
    c.toNat ≤ 45 ∧ c ≠ '-' := by
  unfold isSpace at hSpace
  rw [decide_eq_true_iff] at hSpace
  rcases hSpace with rfl | ⟨_, hHigh⟩
  · decide
  · refine ⟨by omega, ?_⟩
    rintro rfl
    revert hHigh
    decide

/- A signed number starts neither blank nor with a plus. -/
theorem takeSigned_cons_eq_none
    {hexadecimal : Bool}
    {c : Char}
    {cs : List Char}
    (hLow : c.toNat ≤ 45)
    (hMinus : c ≠ '-') :
    takeSigned hexadecimal (c :: cs) = none := by
  unfold takeSigned
  split
  · rename_i rest hSame
    rw [List.cons.injEq] at hSame
    exact absurd hSame.1 hMinus
  · exact takeUnsigned_cons_eq_none hLow

------------------------------------------------------------
-- Hexadecimal Numbers
------------------------------------------------------------

/- A decimal number ends before the marker of a hexadecimal. -/
theorem takePositional_of_hexMarker
    {first second : Char}
    {rest : List Char}
    (hFirst : first.toLower = '0')
    (hSecond : second.toLower = 'x') :
    ∃ q,
      takePositional 10 10 'e' (first :: second :: rest) =
        some (q, second :: rest) := by
  have hZero : first = '0' := by
    rcases toLower_eq_self_or first with
      hSelf | ⟨_, hHigh⟩
    · rw [← hSelf]
      exact hFirst
    · rw [hFirst] at hHigh
      exact absurd hHigh (by decide)
  subst hZero
  have hLetter : 65 ≤ second.toNat := by
    rcases toLower_eq_self_or second with hSelf | ⟨hHigh, _⟩
    · rw [← hSelf, hSecond]
      decide
    · exact hHigh
  have hDigit : digitValue? 10 second = none :=
    digitValue?_ten_eq_none_iff.mpr (by omega)
  have hZeroDigit : digitValue? 10 '0' = some 0 := by decide
  have hMarker : second.toLower ≠ 'e' := by
    rw [hSecond]
    decide
  unfold takePositional
  rw [takeDigits, takeDigits]
  simp only [hZeroDigit, hDigit]
  split
  · rename_i after hSame
    rw [List.cons.injEq] at hSame
    rw [hSame.1] at hLetter
    exact absurd hLetter (by decide)
  · rw [if_neg (by simp)]
    unfold takeExponent
    simp only [hMarker, if_false]
    exact ⟨_, rfl⟩

/- A word in front of a text fixes its first characters. -/
theorem dropWord_two_eq_some
    {w v : Char}
    {text after : List Char}
    (hDrop : dropWord [w, v] text = some after) :
    ∃ first second,
      text = first :: second :: after ∧
        first.toLower = w ∧ second.toLower = v := by
  unfold dropWord at hDrop
  simp only at hDrop
  split at hDrop
  · rename_i hWord
    rw [Option.some.injEq] at hDrop
    match text, hWord, hDrop with
    | [], hWord, _ => cases hWord
    | [_], hWord, _ => cases hWord
    | first :: second :: rest, hWord, hDrop =>
        simp only [List.length_cons, List.length_nil,
          List.take_succ_cons, List.take_zero, List.map_cons,
          List.map_nil, List.cons.injEq, and_true] at hWord
        exact ⟨first, second, by rw [← hDrop]; rfl, hWord⟩
  · cases hDrop

/-
  Allowing hexadecimal numbers changes nothing for a text
  that is read to its end without them.
-/
theorem takeUnsigned_hexadecimal
    {text : List Char}
    {x : Number}
    (hRead : takeUnsigned false text = some (x, [])) :
    takeUnsigned true text = some (x, []) := by
  unfold takeUnsigned at hRead ⊢
  split
  · rename_i rest hWord
    simpa only [hWord] using hRead
  rename_i hInfinity
  simp only [hInfinity] at hRead
  split
  · rename_i rest hWord
    simpa only [hWord] using hRead
  rename_i hInf
  simp only [hInf] at hRead
  split
  · rename_i rest hWord
    simpa only [hWord] using hRead
  rename_i hNan
  simp only [hNan, Bool.false_eq_true, if_false] at hRead
  simp only [if_true]
  split
  · exact hRead
  · rename_i digits hHex
    split
    · exact hRead
    · rename_i q rest hDigits
      rcases dropWord_two_eq_some hHex with
        ⟨first, second, hText, hFirst, hSecond⟩
      rw [hText] at hRead
      have hMarker :
          ∃ value,
            takePositional 10 10 'e'
                (first :: second :: digits) =
              some (value, second :: digits) :=
        takePositional_of_hexMarker hFirst hSecond
      rcases hMarker with ⟨value, hDecimal⟩
      rw [hDecimal] at hRead
      simp at hRead

theorem takeSigned_hexadecimal
    {text : List Char}
    {x : Number}
    (hRead : takeSigned false text = some (x, [])) :
    takeSigned true text = some (x, []) := by
  unfold takeSigned at hRead ⊢
  split
  · rename_i rest
    simp only [Option.map_eq_some_iff, Prod.mk.injEq]
      at hRead ⊢
    rcases hRead with ⟨⟨y, after⟩, hUnsigned, hNeg, hEnd⟩
    simp only at hNeg hEnd
    subst hEnd
    exact ⟨(y, []), takeUnsigned_hexadecimal hUnsigned,
      hNeg, rfl⟩
  · rename_i hNoMinus
    split at hRead
    · rename_i rest
      exact absurd rfl (hNoMinus rest)
    · exact takeUnsigned_hexadecimal hRead

------------------------------------------------------------
-- Integers
------------------------------------------------------------

theorem fromCharsInt_cons_eq_error
    {c : Char}
    {cs : List Char}
    (hLow : c.toNat ≤ 45)
    (hMinus : c ≠ '-') :
    fromCharsInt (c :: cs) = .error .invalidArgument := by
  have hDigit : digitValue? 10 c = none :=
    digitValue?_ten_eq_none_iff.mpr (by omega)
  unfold fromCharsInt
  simp [hMinus, takeDigits, hDigit]

/- `stoi` reads the number that `from_chars` read. -/
theorem stoi_of_fromCharsInt
    {text : String}
    {n : Int}
    {rest : List Char}
    (hRead : fromCharsInt text.toList = .ok (n, rest)) :
    stoi text = .ok n := by
  unfold stoi
  cases hText : text.toList with
  | nil =>
      rw [hText] at hRead
      cases hRead
  | cons c cs =>
      rw [hText] at hRead
      have hSpace : isSpace c = false := by
        rw [Bool.eq_false_iff]
        intro hSpace
        rcases toNat_le_of_isSpace hSpace with
          ⟨hLow, hMinus⟩
        rw [fromCharsInt_cons_eq_error hLow hMinus] at hRead
        cases hRead
      have hPlus : c ≠ '+' := by
        rintro rfl
        rw [fromCharsInt_cons_eq_error (by decide)
          (by decide)] at hRead
        cases hRead
      simp [hSpace, hPlus, hRead]

------------------------------------------------------------
-- Doubles
------------------------------------------------------------

/-
  A nonzero value that the format does not hold exactly and
  that rounds to less than the smallest normal magnitude.
-/
def isInexactSubnormal (q : ℚ) : Bool :=
  q ≠ 0 ∧ |q| < normalBound ∧
    (q / subnormalUnit).den ≠ 1

/- In range is what rounds to neither zero nor an infinity. -/
theorem inRange_iff (q : ℚ) :
    inRange q = true ↔
      q = 0 ∨
        (0 < |BinaryFormat.double.nearest q| ∧
          |BinaryFormat.double.nearest q| < 2 ^ 1024) := by
  have hLow : underflowBound = 2 ^ (-1022 - 53 : Int) := by
    decide +kernel
  have hHigh :=
    @BinaryFormat.nearest_lt_iff .double (2 ^ 53) 971
      (by decide) (by decide) (by decide) (by decide) |q|
  have hTop :
      ((2 ^ 53 : Int) : ℚ) * 2 ^ (971 : Int) = 2 ^ 1024 := by
    decide +kernel
  have hMiddle :
      (((2 ^ 53 : Int) : ℚ) - 1 / 2) * 2 ^ (971 : Int) =
        overflowBound := by
    decide +kernel
  rw [hTop, hMiddle] at hHigh
  unfold inRange
  rw [decide_eq_true_iff, BinaryFormat.abs_nearest,
    BinaryFormat.nearest_pos_iff, hHigh, hLow]
  rfl

/-
  The bound is that of rounding to 53 bits, in any format that
  has smaller normal numbers.
-/
theorem nearest_lt_smallestNormal_iff
    {f : BinaryFormat}
    (hPrecision : f.precision = 53)
    (hLowest : f.lowest ≤ -1023)
    (q : ℚ) :
    |f.nearest q| < smallestNormal ↔ |q| < normalBound := by
  have hLess :=
    @BinaryFormat.nearest_lt_iff f (2 ^ 53) (-1075)
      (by decide) (by rw [hPrecision]; decide)
      (by rw [hPrecision]) (by rw [hPrecision]; omega) |q|
  have hNormal :
      ((2 ^ 53 : Int) : ℚ) * 2 ^ (-1075 : Int) =
        smallestNormal := by
    decide +kernel
  have hMiddle :
      (((2 ^ 53 : Int) : ℚ) - 1 / 2) * 2 ^ (-1075 : Int) =
        normalBound := by
    decide +kernel
  rw [hNormal, hMiddle] at hLess
  rw [BinaryFormat.abs_nearest]
  exact hLess

/- What `from_chars` reads is less than the overflow bound. -/
theorem erange_of_inRange
    {q : ℚ}
    (hRange : inRange q = true) :
    erange q = isInexactSubnormal q := by
  have hBound : ¬ overflowBound ≤ |q| := by
    rw [not_le]
    unfold inRange at hRange
    rw [decide_eq_true_iff] at hRange
    rcases hRange with rfl | ⟨_, hHigh⟩
    · rw [abs_zero]
      unfold overflowBound
      have hPowers : (2 : ℚ) ^ 970 < 2 ^ 1024 :=
        pow_lt_pow_right₀ (by norm_num) (by norm_num)
      exact sub_pos.mpr hPowers
    · exact hHigh
  unfold erange isInexactSubnormal
  simp only [hBound, false_or]

/- The range check that only `stod` makes. -/
def checkSubnormal : Number → Except Errc Number
| .finite q =>
    if isInexactSubnormal q then
      .error .outOfRange
    else
      .ok (.finite q)
| x => .ok x

/- What `from_chars` reads to the end is a signed number. -/
theorem takeSigned_of_fromChars
    {text : List Char}
    {x : Number}
    (hRead : fromChars text = .ok (x, [])) :
    takeSigned false text = some (x, []) ∧
      ∀ q, x = .finite q → inRange q = true := by
  unfold fromChars at hRead
  split at hRead
  · cases hRead
  · rename_i q rest hTake
    split at hRead
    · rename_i hRange
      cases hRead
      refine ⟨hTake, ?_⟩
      intro other hSame
      cases hSame
      exact hRange
    · cases hRead
  · rename_i y rest hNotFinite hTake
    cases hRead
    refine ⟨hTake, ?_⟩
    intro q hSame
    exact absurd hSame (hNotFinite q)

/-
  On a text that `from_chars` reads to the end, `stod` reads
  the same number unless it reports a range error.
-/
theorem stod_of_fromChars
    {text : String}
    {x : Number}
    (hRead : fromChars text.toList = .ok (x, [])) :
    stod text = checkSubnormal x := by
  rcases takeSigned_of_fromChars hRead with ⟨hSigned, hRange⟩
  unfold stod
  generalize text.toList = chars at hSigned
  cases chars with
  | nil => cases hSigned
  | cons c cs =>
      have hSpace : isSpace c = false := by
        rw [Bool.eq_false_iff]
        intro hSpace
        rcases toNat_le_of_isSpace hSpace with
          ⟨hLow, hMinus⟩
        rw [takeSigned_cons_eq_none hLow hMinus] at hSigned
        cases hSigned
      have hPlus : c ≠ '+' := by
        rintro rfl
        rw [takeSigned_cons_eq_none (by decide)
          (by decide)] at hSigned
        cases hSigned
      have hHexadecimal := takeSigned_hexadecimal hSigned
      cases x with
      | finite q =>
          simp [hSpace, hPlus, hHexadecimal, checkSubnormal,
            erange_of_inRange (hRange q rfl)]
      | posInf =>
          simp [hSpace, hPlus, hHexadecimal, checkSubnormal]
      | negInf =>
          simp [hSpace, hPlus, hHexadecimal, checkSubnormal]
      | nan =>
          simp [hSpace, hPlus, hHexadecimal, checkSubnormal]

/- The number is read again unless it is inexact. -/
theorem stod_eq_ok_iff_of_fromChars
    {text : String}
    {x : Number}
    (hRead : fromChars text.toList = .ok (x, [])) :
    stod text = .ok x ↔
      ¬ ∃ q, x = .finite q ∧
        isInexactSubnormal q = true := by
  rw [stod_of_fromChars hRead]
  cases x with
  | finite q =>
      simp only [Number.finite.injEq, exists_eq_left',
        checkSubnormal]
      split
      · rename_i hInexact
        simp [hInexact]
      · rename_i hExact
        simp [hExact]
  | posInf => simp [checkSubnormal]
  | negInf => simp [checkSubnormal]
  | nan => simp [checkSubnormal]

end NumberText
