import BenchCompare.Layout.Cell
import BenchCompare.Proofs.Decimal.Fixed
import BenchCompare.Proofs.Decimal.Ordering
import BenchCompare.Proofs.Decimal.Rounding

/-! # Numbers are printed as the nearest numerals

  * `Numeral places`: a decimal numeral with so many digits behind its point and no
    superfluous digits in front of it, with its text and the number it denotes.
    Different numerals have different texts.
  * `signBit x`: the sign bit of a number, which a zero has, too.
  * `PrintsNearest x q d`: a numeral is the right one for a number.

  Main statement: `printed_nearest`.  It has two limits.  Beyond `greatestPlaces` the
  digits of the greatest numbers are too many to be counted, and beyond the greatest
  32-bit number of places nothing is printed.
-/

namespace BenchCompare.Decimal

open Float.Model Float.Model.UnpackedFloat

/-! ### Numerals -/

/-- A decimal numeral with a fixed number of places. -/
@[ext]
structure Numeral (places : Nat) where
  /-- Whether a minus sign comes first. -/
  negative : Bool
  /-- The digits in front of the point. -/
  whole : List Char
  /-- The digits behind the point. -/
  fraction : List Char
  /-- All of them are decimal digits. -/
  isDigit : ∀ c ∈ whole ++ fraction, c.isDigit = true
  /-- There is a digit in front of the point. -/
  whole_ne_nil : whole ≠ []
  /-- The first one is a zero only if it is the only one. -/
  plain : whole.head? = some '0' → whole = ['0']
  /-- Every place has a digit. -/
  length_fraction : fraction.length = places

namespace Numeral

variable {places : Nat}

/-- The digits of a numeral with the point between them, of which there is none without places. -/
def unsigned (d : Numeral places) : List Char :=
  d.whole ++ if places = 0 then [] else '.' :: d.fraction

/-- The characters of a numeral. -/
def chars (d : Numeral places) : List Char := (if d.negative then ['-'] else []) ++ d.unsigned

/-- The text of a numeral. -/
def text (d : Numeral places) : String := String.ofList d.chars

/-- The natural number that all digits together denote. -/
def scaled (d : Numeral places) : Nat := Nat.ofDigitChars 10 (d.whole ++ d.fraction) 0

/-- The number that a numeral denotes. -/
def value (d : Numeral places) : ℚ :=
  if d.negative then -(d.scaled / 10 ^ places) else d.scaled / 10 ^ places

/-- The last digit of a numeral is even. -/
def EndsEven (d : Numeral places) : Prop :=
  ∃ c ∈ (d.whole ++ d.fraction).getLast?, c ∈ ['0', '2', '4', '6', '8']

/-! #### Texts -/

theorem exists_unsigned (d : Numeral places) :
    ∃ c cs, d.unsigned = c :: cs ∧ c.isDigit = true := by
  cases hwhole : d.whole with
  | nil => exact absurd hwhole d.whole_ne_nil
  | cons c cs =>
    refine ⟨c, _, by rw [unsigned, hwhole, List.cons_append], d.isDigit c ?_⟩
    rw [hwhole]
    exact List.mem_append_left _ List.mem_cons_self

/-- A minus sign is no digit, so the first character shows whether there is one. -/
theorem negative_eq (d : Numeral places) : d.negative = (d.chars.head? == some '-') := by
  obtain ⟨c, cs, hunsigned, hdigit⟩ := d.exists_unsigned
  unfold chars
  cases d.negative with
  | true => rfl
  | false =>
    rw [if_neg Bool.false_ne_true, List.nil_append, hunsigned, eq_comm, List.head?_cons, beq_eq_false_iff_ne]
    rintro ⟨rfl⟩
    exact absurd hdigit (by decide)

/-- The digits in front of the point end where something else than a digit comes. -/
theorem takeWhile_unsigned (d : Numeral places) : d.unsigned.takeWhile Char.isDigit = d.whole := by
  have hwhole : ∀ c ∈ d.whole, c.isDigit = true := fun c hc => d.isDigit c (List.mem_append_left _ hc)
  rw [unsigned, List.takeWhile_append_of_pos hwhole]
  split
  · rw [List.takeWhile_nil, List.append_nil]
  · rw [List.takeWhile_cons_of_neg (by decide), List.append_nil]

/-- A numeral can be read off its text. -/
theorem text_injective {d d' : Numeral places} (h : d.text = d'.text) : d = d' := by
  have hchars : d.chars = d'.chars := String.ofList_injective h
  have hnegative : d.negative = d'.negative := by rw [negative_eq, negative_eq, hchars]
  have hunsigned : d.unsigned = d'.unsigned := by
    unfold chars at hchars
    rw [hnegative] at hchars
    exact List.append_cancel_left hchars
  have hwhole : d.whole = d'.whole := by
    rw [← takeWhile_unsigned, ← takeWhile_unsigned, hunsigned]
  have hfraction : d.fraction = d'.fraction := by
    by_cases hplaces : places = 0
    · rw [List.length_eq_zero_iff.mp (d.length_fraction.trans hplaces),
        List.length_eq_zero_iff.mp (d'.length_fraction.trans hplaces)]
    · -- behind the same digits and the point only the places are left
      unfold unsigned at hunsigned
      rw [hwhole, if_neg hplaces, if_neg hplaces] at hunsigned
      exact (List.cons.inj (List.append_cancel_left hunsigned)).2
  exact Numeral.ext hnegative hwhole hfraction

/-- A text without digits is no numeral. -/
theorem text_ne (d : Numeral places) {s : String} (h : s.toList.any Char.isDigit = false) :
    d.text ≠ s := by
  rintro rfl
  obtain ⟨c, cs, hunsigned, hdigit⟩ := d.exists_unsigned
  have hmem : c ∈ d.chars := List.mem_append_right _ (by rw [hunsigned]; exact List.mem_cons_self)
  rw [text, String.toList_ofList, List.any_eq_false] at h
  exact h c hmem hdigit

/-! #### Last digits -/

theorem even_digit_iff {c : Char} (h : c.isDigit = true) :
    c ∈ ['0', '2', '4', '6', '8'] ↔ Even (c.toNat - '0'.toNat) := by
  obtain ⟨hlo, hhi⟩ := Char.isDigit_iff_toNat.mp h
  replace hlo : 48 ≤ c.toNat := hlo
  replace hhi : c.toNat ≤ 57 := hhi
  have hzero : '0'.toNat = 48 := rfl
  simp only [List.mem_cons, List.not_mem_nil, or_false, ← Char.toNat_inj, Nat.even_iff, hzero,
    show '2'.toNat = 50 from rfl, show '4'.toNat = 52 from rfl, show '6'.toNat = 54 from rfl,
    show '8'.toNat = 56 from rfl]
  omega

theorem endsEven_iff (d : Numeral places) : d.EndsEven ↔ Even d.scaled := by
  have hne : d.whole ++ d.fraction ≠ [] := List.append_ne_nil_of_left_ne_nil d.whole_ne_nil _
  have hdigit := d.isDigit _ (List.getLast_mem hne)
  have hlast := List.dropLast_append_getLast hne
  unfold EndsEven scaled
  generalize d.whole ++ d.fraction = ds at *
  rw [List.getLast?_eq_some_getLast hne]
  generalize ds.getLast hne = c at *
  -- The digits before the last one count ten times each.
  rw [← hlast, Nat.ofDigitChars_append, Nat.ofDigitChars_cons, Nat.ofDigitChars_nil, Nat.even_add,
    ← even_digit_iff hdigit]
  have hten : Even (10 * Nat.ofDigitChars 10 ds.dropLast 0) := (by decide : Even 10).mul_right _
  simp only [Option.mem_some_iff, exists_eq_left', hten, true_iff]

end Numeral

/-! ### Writing numerals -/

section

variable {places n : Nat}

/-- The numeral of a natural number starts with a zero only if it is zero. -/
theorem digits_plain (h : (digits n).head? = some '0') : digits n = ['0'] := by
  unfold digits at *
  induction n using Nat.strongRecOn with
  | ind n ih =>
    rw [Nat.toDigits_eq_if (by decide)] at h ⊢
    split at h
    · next hlt =>
      rw [if_pos hlt]
      rw [List.head?_cons] at h
      rw [Option.some.inj h]
    · next hle =>
      rw [List.head?_append_of_ne_nil _ Nat.toDigits_ne_nil] at h
      have hzero := ih (n / 10) (by omega) h
      have hvalue : n / 10 = Nat.ofDigitChars 10 ['0'] 0 := by
        rw [← hzero, Nat.ofDigitChars_ten_toDigits]
      replace hvalue : n / 10 = 0 := hvalue
      omega

theorem length_lastDigits (h : 0 < places) : (lastDigits places n).length = places := by
  have hlt : n % 10 ^ places < 10 ^ places := Nat.mod_lt _ (by positivity)
  have hle : (digits (n % 10 ^ places)).length ≤ places :=
    (Nat.length_toDigits_le_iff (by decide) h).mpr hlt
  unfold lastDigits
  rw [List.length_leftpad]
  exact max_eq_left hle

theorem ofDigitChars_lastDigits : Nat.ofDigitChars 10 (lastDigits places n) 0 = n % 10 ^ places := by
  unfold lastDigits List.leftpad
  rw [Nat.ofDigitChars_append, Nat.ofDigitChars_replicate_zero, Nat.mul_zero]
  exact Nat.ofDigitChars_ten_toDigits

/-- The numeral of `n / 10 ^ places`. -/
def numeralOf (places : Nat) (negative : Bool) (n : Nat) : Numeral places where
  negative := negative
  whole := digits (n / 10 ^ places)
  fraction := if places = 0 then [] else lastDigits places n
  isDigit := by
    intro c hc
    rcases List.mem_append.mp hc with hwhole | hfraction
    · exact isDigit_of_mem_digits hwhole
    · split at hfraction
      · cases hfraction
      · exact isDigit_of_mem_lastDigits hfraction
  whole_ne_nil := Nat.toDigits_ne_nil
  plain := digits_plain
  length_fraction := by
    split
    · next hplaces => exact hplaces.symm
    · next hplaces => exact length_lastDigits (Nat.pos_of_ne_zero hplaces)

theorem unsigned_numeralOf (negative : Bool) :
    (numeralOf places negative n).unsigned = scaledDigits places n := by
  unfold Numeral.unsigned numeralOf scaledDigits
  by_cases hplaces : places = 0
  · subst hplaces
    simp only [if_true, pow_zero, Nat.div_one, List.append_nil]
  · simp only [if_neg hplaces]
    rfl

theorem scaled_numeralOf (negative : Bool) : (numeralOf places negative n).scaled = n := by
  unfold Numeral.scaled numeralOf
  dsimp only
  split
  · next hplaces =>
    subst hplaces
    rw [List.append_nil, pow_zero, Nat.div_one]
    exact Nat.ofDigitChars_ten_toDigits
  · next hplaces =>
    have hwhole : Nat.ofDigitChars 10 (digits (n / 10 ^ places)) 0 = n / 10 ^ places :=
      Nat.ofDigitChars_ten_toDigits
    rw [Nat.ofDigitChars_append, Nat.ofDigitChars_eq_ofDigitChars_zero, ofDigitChars_lastDigits,
      length_lastDigits (Nat.pos_of_ne_zero hplaces), hwhole, Nat.div_add_mod]

end

/-! ### The right numeral -/

/-- The sign bit of a number. -/
def signBit (x : Float) : Bool := decide (2 ^ 63 ≤ x.toBits.toNat)

/-- A numeral is the right one for a number: it has its sign, and it denotes the nearest of all numbers
with so many places, the one with an even last digit if there are two. -/
structure PrintsNearest (x : Float) (q : ℚ) {places : Nat} (d : Numeral places) : Prop where
  /-- The minus sign is the sign bit. -/
  sign : d.negative = signBit x
  /-- No number with so many places is nearer. -/
  nearest : ∀ k : ℤ, |q - d.value| ≤ |q - k / 10 ^ places|
  /-- If another one is as near, the last digit is even. -/
  even : ∀ k : ℤ, d.value ≠ k / 10 ^ places → |q - d.value| = |q - k / 10 ^ places| → d.EndsEven
  /-- It is at most one half of the last place away. -/
  close : |d.value - q| ≤ 1 / 10 ^ places / 2

section

variable {x : Float} {q : ℚ} {places : Nat}

/-- The sign that is read from the bits is the sign bit. -/
theorem isNegative_ofBitVec (x : Float) :
    isNegative (Sign.ofBitVec (@unpackSign Format.binary64 x.toModel.toBits.toBitVec)) = signBit x := by
  have hsigns : ∀ b : BitVec 1, isNegative (Sign.ofBitVec b) = decide (b.toNat = 1) := by decide
  have hbits := toNat_eq_unpacked x.toModel.toBits.toBitVec
  have hsign : (@unpackSign Format.binary64 x.toModel.toBits.toBitVec).toNat < 2 ^ 1 :=
    (@unpackSign Format.binary64 x.toModel.toBits.toBitVec).isLt
  have hexponent : (@unpackExponent Format.binary64 x.toModel.toBits.toBitVec).toNat < 2 ^ 11 :=
    (@unpackExponent Format.binary64 x.toModel.toBits.toBitVec).isLt
  have hmantissa : (@unpackMantissa Format.binary64 x.toModel.toBits.toBitVec).toNat < 2 ^ 52 :=
    (@unpackMantissa Format.binary64 x.toModel.toBits.toBitVec).isLt
  rw [hsigns, signBit, decide_eq_decide]
  show _ ↔ 2 ^ 63 ≤ x.toModel.toBits.toBitVec.toNat
  omega

/-- What a number is made of, with its sign bit. -/
theorem ofFloat_cases (x : Float) : Exact.ofFloat x = .nan ∨
    Exact.ofFloat x = .infinite (signBit x) ∨ ∃ m e, Exact.ofFloat x = .finite (signBit x) m e := by
  rw [← isNegative_ofBitVec]
  unfold Exact.ofFloat Float.Model.unpack UnpackedFloat.unpack
  dsimp only
  split_ifs
  · exact .inr (.inl rfl)
  · exact .inl rfl
  · exact .inr (.inr ⟨_, _, rfl⟩)
  · exact .inr (.inr ⟨_, _, rfl⟩)
  · exact .inr (.inr ⟨_, _, rfl⟩)

theorem ofFloat_of_isInf (h : x.isInf = true) : Exact.ofFloat x = .infinite (signBit x) := by
  obtain ⟨negative, hx⟩ := (ofFloat_eq_infinite_iff x).mpr h
  rcases ofFloat_cases x with hnan | hinfinite | ⟨m, e, hfinite⟩
  · rw [hx] at hnan
    cases hnan
  · exact hinfinite
  · rw [hx] at hfinite
    cases hfinite

/-- A finite number is its sign bit, a mantissa and an exponent. -/
theorem HasValue.exists_ofFloat (h : HasValue x q) :
    ∃ (m : Nat) (e : Int), Exact.ofFloat x = .finite (signBit x) m e ∧
      q = if signBit x then -(m * 2 ^ e : ℚ) else m * 2 ^ e := by
  unfold HasValue at h
  rcases ofFloat_cases x with hnan | hinfinite | ⟨m, e, hfinite⟩
  · rw [hnan] at h
    cases h
  · rw [hinfinite] at h
    cases h
  · rw [hfinite] at h
    exact ⟨m, e, hfinite, (Option.some.inj h).symm⟩

/-- The multiples of a place are the integers, shifted. -/
theorem abs_sub_div (q : ℚ) (k : ℤ) (places : Nat) :
    |q - k / 10 ^ places| = |q * 10 ^ places - k| / 10 ^ places := by
  have hpos : (0 : ℚ) < 10 ^ places := by positivity
  rw [eq_div_iff hpos.ne', ← abs_of_pos hpos, ← abs_mul, abs_of_pos hpos, sub_mul, div_mul_cancel₀ _ hpos.ne']

/-- The nearest integer, shifted back, is the nearest multiple of a place. -/
theorem printsNearest_of_isNearest {d : Numeral places} {n : ℤ} (hsign : d.negative = signBit x)
    (hvalue : d.value = n / 10 ^ places) (hscaled : d.scaled = n.natAbs)
    (h : IsNearest (q * 10 ^ places) n) : PrintsNearest x q d where
  sign := hsign
  nearest := by
    intro k
    rw [hvalue, abs_sub_div, abs_sub_div]
    exact div_le_div_of_nonneg_right (h.le k) (by positivity)
  even := by
    intro k hne heq
    rw [Numeral.endsEven_iff, hscaled, Int.natAbs_even]
    rw [hvalue, abs_sub_div, abs_sub_div, div_left_inj' (by positivity)] at heq
    refine h.even_of_eq ?_ heq
    rintro rfl
    exact hne hvalue
  close := by
    rw [abs_sub_comm, hvalue, abs_sub_div, div_right_comm]
    gcongr
    exact h.near

theorem isNearest_scaled (m : Nat) (e : Int) (places : Nat) :
    IsNearest (m * 2 ^ e * 10 ^ places)
      (roundDiv (numerator m e * 10 ^ places) (denominator e)) := by
  have h := isNearest_roundDiv (numerator m e * 10 ^ places) (denominator_pos e)
  rw [← numerator_div_denominator, div_mul_eq_mul_div]
  exact_mod_cast h

/-- A finite number is printed as a numeral that is made of the nearest integer. -/
theorem exists_numeral (h : HasValue x q) (places : Nat) :
    ∃ (d : Numeral places) (n : ℤ), fixed places x = d.text ∧ d.negative = signBit x ∧
      d.value = n / 10 ^ places ∧ d.scaled = n.natAbs ∧ IsNearest (q * 10 ^ places) n := by
  obtain ⟨m, e, hx, hq⟩ := h.exists_ofFloat
  have hnearest := isNearest_scaled m e places
  generalize hn : roundDiv (numerator m e * 10 ^ places) (denominator e) = n at hnearest
  have htext : fixed places x = (numeralOf places (signBit x) n).text := by
    unfold fixed Numeral.text Numeral.chars
    rw [hx, unsigned_numeralOf, ← hn]
    rfl
  have hscaled : (numeralOf places (signBit x) n).scaled = n := scaled_numeralOf _
  cases hsign : signBit x with
  | false =>
    rw [hsign] at hq htext hscaled
    refine ⟨_, n, htext, rfl, ?_, hscaled, by rwa [hq, if_neg Bool.false_ne_true]⟩
    rw [Numeral.value, hscaled]
    rfl
  | true =>
    rw [hsign] at hq htext hscaled
    refine ⟨_, -n, htext, rfl, ?_, by rw [hscaled, Int.natAbs_neg, Int.natAbs_natCast], ?_⟩
    · rw [Numeral.value, hscaled]
      show -_ = _
      push_cast
      rw [neg_div]
    · rw [hq, if_pos rfl, neg_mul]
      exact hnearest.neg

end

/-! ### Main statement -/

/-- With so many places the digits of every number can be counted. -/
def greatestPlaces : Nat := 2147483338

/-- How a number is printed in a report with some places, and in an export with six. -/
structure PrintingContract (x : Float) (places : Nat) : Prop where
  /-- A finite number is printed as the right numeral, which is none of the words below. -/
  finite : x.isFinite = true → places ≤ greatestPlaces →
    ∃ q, HasValue x q ∧ ∃ d : Numeral places, Layout.statisticText places x = .ok d.text ∧
      PrintsNearest x q d ∧ d.text ∉ ["N/A", "", "inf", "-inf"]
  /-- An infinity is a word with its sign. -/
  infinite : x.isInf = true → places ≤ 0x7fffffff →
    Layout.statisticText places x = .ok (if signBit x then "-inf" else "inf")
  /-- What is no number has a word of its own, and nothing in an export. -/
  nan : x.isNaN = true → Layout.statisticText places x = .ok "N/A" ∧ Layout.exportedText x = ""
  /-- An export has six places. -/
  exported : x.isNaN = false → Layout.statisticText 6 x = .ok (Layout.exportedText x)
  /-- With more places than a 32-bit number can say nothing is printed. -/
  limit : x.isNaN = false → 0x7fffffff < places → ∀ text, Layout.statisticText places x ≠ .ok text

section

variable {x y : Float} {p q : ℚ} {places : Nat}

/-- The whole part of a finite number has at most three hundred and nine digits. -/
theorem length_digits_whole_le {s : Sign} {m : Nat} {e : Int} {h : 0 < m}
    (hx : x.toModel.unpack = .finite s m e h) :
    (digits (numerator m e / denominator e)).length ≤ 309 := by
  have hcanonical := isCanonical_of_unpack hx
  have hexponent : e.toNat ≤ 971 := by
    have := hcanonical.most
    omega
  have hnumerator : ∀ k, e.toNat ≤ k → numerator m e < 2 ^ (53 + k) := by
    intro k hk
    rw [Nat.pow_add]
    exact Nat.mul_lt_mul_of_lt_of_le hcanonical.short (Nat.pow_le_pow_right (by decide) hk)
      (Nat.two_pow_pos _)
  have hlength : ∀ k, 0 < k → numerator m e < 10 ^ k →
      (digits (numerator m e / denominator e)).length ≤ k := by
    intro k hk hlt
    exact (Nat.length_toDigits_le_iff (by decide) hk).mpr (lt_of_le_of_lt (Nat.div_le_self _ _) hlt)
  refine hlength 309 (by decide) ((hnumerator 971 hexponent).trans ?_)
  decide +kernel

theorem isLost_of_le (x : Float) (h : places ≤ greatestPlaces) : isLost places x = false := by
  unfold greatestPlaces at h
  unfold isLost Exact.ofFloat
  cases hx : x.toModel.unpack with
  | notANumber => rfl
  | infinity s => rfl
  | zero s =>
    have hzero : numerator 0 0 / denominator 0 = 0 := by decide
    simp [Exact.isLost, hzero]
  | finite s m e hm =>
    have hlength := length_digits_whole_le hx
    show decide _ = false
    rw [decide_eq_false_iff_not]
    omega

theorem statisticText_of_kept (hx : x.isNaN = false) (h : places ≤ 0x7fffffff)
    (hkept : isLost places x = false) : Layout.statisticText places x = .ok (fixed places x) := by
  have hplaces : (places : Int).toNat = places := rfl
  unfold Layout.statisticText
  rw [hx, if_neg Bool.false_ne_true, if_neg (by omega), if_neg (by omega), if_neg (by omega), hplaces,
    hkept, if_neg Bool.false_ne_true]

theorem statisticText_of_le (hx : x.isNaN = false) (h : places ≤ greatestPlaces) :
    Layout.statisticText places x = .ok (fixed places x) :=
  statisticText_of_kept hx (h.trans (by decide)) (isLost_of_le x h)

theorem statisticText_of_lt (hx : x.isNaN = false) (h : 0x7fffffff < places) (text : String) :
    Layout.statisticText places x ≠ .ok text := by
  unfold Layout.statisticText
  rw [hx, if_neg Bool.false_ne_true, if_neg (by omega)]
  split
  · nofun
  · rw [if_pos (by omega)]
    nofun

/-- A number that is lost is printed as a numeral of zero. -/
theorem statisticText_of_lost (h : places ≤ 0x7fffffff) (hlost : isLost places x = true) :
    ∃ d : Numeral places, Layout.statisticText places x = .ok d.text ∧ d.value = 0 := by
  have hplaces : (places : Int).toNat = places := rfl
  unfold isLost at hlost
  rcases ofFloat_cases x with hnan | hinfinite | ⟨m, e, hfinite⟩
  · rw [hnan] at hlost
    cases hlost
  · rw [hinfinite] at hlost
    cases hlost
  · have hnumber : x.isNaN = false := by
      rw [Bool.eq_false_iff, ne_eq, ← ofFloat_eq_nan_iff, hfinite]
      nofun
    refine ⟨numeralOf places (signBit x) 0, ?_, ?_⟩
    · unfold Layout.statisticText isLost
      rw [hnumber, if_neg Bool.false_ne_true, if_neg (by omega), if_neg (by omega), if_neg (by omega),
        hplaces, if_pos hlost]
      unfold signedZero Numeral.text Numeral.chars
      rw [hfinite, unsigned_numeralOf]
      rfl
    · rw [Numeral.value, scaled_numeralOf]
      simp

theorem fixed_of_isInf (h : x.isInf = true) :
    fixed places x = if signBit x then "-inf" else "inf" := by
  unfold fixed
  rw [ofFloat_of_isInf h]
  cases signBit x <;> rfl

/-- Numbers are printed in their order. -/
theorem value_le_of_le {d d' : Numeral places} (hx : HasValue x p) (hy : HasValue y q) (hle : x ≤ y)
    (h : fixed places x = d.text) (h' : fixed places y = d'.text) : d.value ≤ d'.value := by
  obtain ⟨dx, n, htext, -, hvalue, -, hnearest⟩ := exists_numeral hx places
  obtain ⟨dy, m, htext', -, hvalue', -, hnearest'⟩ := exists_numeral hy places
  have hd : d = dx := Numeral.text_injective (h.symm.trans htext)
  have hd' : d' = dy := Numeral.text_injective (h'.symm.trans htext')
  have hscaled : p * 10 ^ places ≤ q * 10 ^ places :=
    mul_le_mul_of_nonneg_right ((hx.le_iff hy).mp hle) (by positivity)
  rw [hd, hd', hvalue, hvalue']
  exact div_le_div_of_nonneg_right (by exact_mod_cast hnearest.mono hnearest' hscaled) (by positivity)

theorem printingContract (x : Float) (places : Nat) : PrintingContract x places where
  finite := by
    intro hfinite hplaces
    obtain ⟨q, hq⟩ := exists_hasValue_iff.mpr hfinite
    obtain ⟨d, n, htext, hsign, hvalue, hscaled, hnearest⟩ := exists_numeral hq places
    refine ⟨q, hq, d, ?_, printsNearest_of_isNearest hsign hvalue hscaled hnearest, ?_⟩
    · rw [statisticText_of_le hq.isNaN hplaces, htext]
    · simp only [List.mem_cons, List.not_mem_nil, or_false, not_or]
      exact ⟨d.text_ne (by decide), d.text_ne (by decide), d.text_ne (by decide), d.text_ne (by decide)⟩
  infinite := by
    intro hinf hplaces
    have hnumber : x.isNaN = false := by
      by_contra hnan
      rw [isInf_eq_false_of_isNaN (Bool.not_eq_false _ ▸ hnan)] at hinf
      cases hinf
    have hkept : isLost places x = false := by
      unfold isLost
      rw [ofFloat_of_isInf hinf]
      rfl
    rw [statisticText_of_kept hnumber hplaces hkept, fixed_of_isInf hinf]
  nan := by
    intro hnan
    unfold Layout.statisticText Layout.exportedText
    rw [if_pos hnan, if_pos hnan]
    exact ⟨rfl, rfl⟩
  exported := by
    intro hnumber
    unfold Layout.exportedText
    rw [hnumber, if_neg Bool.false_ne_true]
    exact statisticText_of_le hnumber (by decide)
  limit := statisticText_of_lt

/-- **Numbers are printed as the nearest numerals**, and in their order. -/
theorem printed_nearest (x : Float) (places : Nat) : PrintingContract x places ∧
    ∀ (y : Float) (d d' : Numeral places), places ≤ greatestPlaces → x.isFinite = true →
      y.isFinite = true → x ≤ y → Layout.statisticText places x = .ok d.text →
      Layout.statisticText places y = .ok d'.text → d.value ≤ d'.value := by
  refine ⟨printingContract x places, ?_⟩
  intro y d d' hplaces hx hy hle hd hd'
  obtain ⟨p, hp⟩ := exists_hasValue_iff.mpr hx
  obtain ⟨q, hq⟩ := exists_hasValue_iff.mpr hy
  rw [statisticText_of_le hp.isNaN hplaces] at hd
  rw [statisticText_of_le hq.isNaN hplaces] at hd'
  exact value_le_of_le hp hq hle (Except.ok.inj hd) (Except.ok.inj hd')

/-- Two and a half has no nearest integer but two even ones beside it. -/
example : fixed 0 (Float.ofBits 0x4004000000000000) = "2" := by decide

/-- The greatest finite number. -/
def greatestNumber : Float := Float.ofBits 0x7fefffffffffffff

/-- With one place too many the greatest number is printed as a zero; with still more places neither one
nor infinity is printed. -/
theorem tooManyPlaces_refused :
    (greatestNumber.isFinite = true ∧ ∃ d : Numeral (greatestPlaces + 1),
      Layout.statisticText (greatestPlaces + 1 : Nat) greatestNumber = .ok d.text ∧ d.value = 0) ∧
    ((1 : Float).isFinite = true ∧ ∀ text, Layout.statisticText 0x80000000 1 ≠ .ok text) ∧
      (1 / 0 : Float).isInf = true ∧ ∀ text, Layout.statisticText 0x80000000 (1 / 0) ≠ .ok text :=
  ⟨⟨rfl, statisticText_of_lost (by decide) (by decide +kernel)⟩,
    ⟨rfl, statisticText_of_lt rfl (by decide)⟩, rfl, statisticText_of_lt rfl (by decide)⟩

end

end BenchCompare.Decimal
