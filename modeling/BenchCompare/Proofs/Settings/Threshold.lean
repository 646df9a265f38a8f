import BenchCompare.Proofs.Decimal.Numeral
import BenchCompare.Proofs.Decimal.Rational
import BenchCompare.Proofs.Settings.Contract

/-! # Which least count a value gives

  The least count should be an integer, or the value is bad.  A number with
  places after the point is no integer and no bad value either: the places are
  cut off, and so is a minus sign if nothing else is left.

  * `Value.number?`: the number that a value is, if it is a number.
  * `Value.IsInteger`: a value is an integer, or a text of one.
  * `Value.Gives`: the count that a value gives.
  * `Value.Escapes`: a value gives none, and is not said to be bad.

  Main statement: `least_count_taken`, with a count behind it that is cut from
  below zero to zero.
-/

namespace BenchCompare

open Decimal (wholePart decimalValue maxDigits isInf_eq_false_of_isNaN)

/-! ### What values denote -/

/-- The number that a value is, if it is a number. -/
def Value.number? : Value → Option ℚ
  | .scalar (.int n) => some n
  | .scalar (.float x) => (Decimal.Exact.ofFloat x).rational?
  | _ => none

/-- A value is an integer, or stands for one as a text does. -/
inductive Value.IsInteger : Value → Int → Prop
  | number {v : Value} {n : Int} (number : v.number? = some (n : ℚ)) : IsInteger v n
  | text {s : String} {negative : Bool} {ds : List Nat}
      (numeral : Decimal.IsInteger s negative ds) :
      IsInteger (.str s) (signedValue negative (decimalValue ds))
  | foreign {o : Foreign} {n : Int} (number : o.number = some n) : IsInteger (.scalar (.foreign o)) n

/-- A value is a number, but no integer. -/
def Value.IsFraction (v : Value) (q : ℚ) : Prop := v.number? = some q ∧ ∀ n : Int, q ≠ n

/-- A value that is no count, though none is said to be bad: an infinite number, or one that is no number
and no text and lies too deep to be shown. -/
inductive Value.Escapes (room : Nat) : Value → Prop
  | infinite {x : Float} (infinite : x.isInf = true) : Escapes room (.scalar (.float x))
  | tooDeep {v : Value} (other : v.IsOther) (deep : v.Hides room .tooDeep) : Escapes room v

/-- The count that a value gives: the whole part of a number, the integer that a text denotes if it has
few enough digits, or the one that something else stands for. -/
inductive Value.Gives : Value → Int → Prop
  | number {v : Value} {q : ℚ} (number : v.number? = some q) : Gives v (wholePart q)
  | text {s : String} {negative : Bool} {ds : List Nat}
      (numeral : Decimal.IsInteger s negative ds) (short : ds.length ≤ maxDigits) :
      Gives (.str s) (signedValue negative (decimalValue ds))
  | foreign {o : Foreign} {n : Int} (number : o.number = some n) : Gives (.scalar (.foreign o)) n

/-! ### Counts -/

section

variable {room : Nat} {v : Value} {n m : Int} {q : ℚ}

theorem readCount_float_eq_ok_iff {x : Float} : readCount room (.scalar (.float x)) = .ok n ↔
    ∃ q, (Decimal.Exact.ofFloat x).rational? = some q ∧ n = wholePart q := by
  cases hx : Decimal.Exact.ofFloat x with
  | nan => simp [readCount, hx, Decimal.Exact.rational?]
  | infinite _ => simp [readCount, hx, Decimal.Exact.rational?]
  | finite negative m e =>
    cases negative <;>
      simp [readCount, hx, Decimal.Exact.rational?, Decimal.wholePart_neg,
        Decimal.wholePart_magnitude, eq_comm]

theorem readCount_str_eq_ok_iff {s : String} : readCount room (.str s) = .ok n ↔
    ∃ negative ds, Decimal.IsInteger s negative ds ∧ ds.length ≤ maxDigits ∧
      n = signedValue negative (decimalValue ds) := by
  rw [← Decimal.readInteger_eq_ok_iff]
  rw [readCount_text, Text.encode_ofString]
  cases hs : Decimal.readInteger s <;> simp [Except.toOption, hs]

/-- A value is read as the count that it gives. -/
theorem readCount_eq_ok_iff : readCount room v = .ok n ↔ v.Gives n := by
  constructor
  · intro h
    have hcount := (ends_readCount v).ok.mp ⟨n, h⟩
    cases hcount with
    | int k =>
      cases h
      have hgives : (Value.scalar (.int n)).Gives (wholePart n) := .number rfl
      rwa [Decimal.wholePart_intCast] at hgives
    | float =>
      obtain ⟨q, hq, rfl⟩ := readCount_float_eq_ok_iff.mp h
      exact .number hq
    | str =>
      obtain ⟨negative, ds, hnumeral, hshort, rfl⟩ := readCount_str_eq_ok_iff.mp h
      exact .text hnumeral hshort
    | @foreign o k hnumber =>
      obtain ⟨kind, literal, unshown, number⟩ := o
      cases hnumber
      cases h
      exact .foreign rfl
  · intro h
    cases h with
    | @number _ q hq =>
      unfold Value.number? at hq
      split at hq
      · cases hq
        rw [Decimal.wholePart_intCast]
        rfl
      · exact readCount_float_eq_ok_iff.mpr ⟨q, hq, rfl⟩
      · cases hq
    | text numeral short => exact readCount_str_eq_ok_iff.mpr ⟨_, _, numeral, short, rfl⟩
    | @foreign o k hnumber =>
      obtain ⟨kind, literal, unshown, number⟩ := o
      cases hnumber
      rfl

theorem Value.Gives.unique (h : v.Gives n) (h' : v.Gives m) : n = m := by
  have hread : readCount 0 v = .ok n := readCount_eq_ok_iff.mpr h
  have hread' : readCount 0 v = .ok m := readCount_eq_ok_iff.mpr h'
  exact Except.ok.inj (hread.symm.trans hread')

theorem isCount_iff : v.IsCount ↔ ∃ n, v.Gives n := by
  have hends : Ends (readCount 0 v) v.IsCount (NoCount 0 v) := ends_readCount v
  rw [← hends.ok]
  simp only [readCount_eq_ok_iff]

/-- A value gives an integer that it denotes, unless it is a fraction. -/
theorem Value.Gives.isInteger_iff (h : v.Gives n) : v.IsInteger n ↔ ∀ q, ¬ v.IsFraction q := by
  constructor
  · intro hinteger q hfraction
    obtain ⟨hq, hno⟩ := hfraction
    cases hinteger with
    | number hn =>
      rw [hn] at hq
      exact hno _ (Option.some.inj hq).symm
    | text => cases hq
    | foreign => cases hq
  · intro hwhole
    cases h with
    | @number _ q hq =>
      have hn : ∃ n : Int, q = n := by
        by_contra hno
        exact hwhole q ⟨hq, not_exists.mp hno⟩
      have hcut : (wholePart q : ℚ) = q := Decimal.intCast_wholePart_eq_iff.mpr hn
      exact .number (by rw [hq, hcut])
    | text numeral => exact .text numeral
    | foreign number => exact .foreign number

/-- A value that gives a count does not escape. -/
theorem Value.Gives.not_escapes (h : v.Gives n) : ¬ v.Escapes room := by
  have hcount := isCount_iff.mpr ⟨n, h⟩
  rintro (hinfinite | ⟨other, -⟩)
  · cases hcount with
    | float number finite =>
      rw [finite] at hinfinite
      cases hinfinite
  · exact other.not_isCount hcount

theorem Value.IsOther.escapes_iff (h : v.IsOther) : v.Escapes room ↔ v.Hides room .tooDeep := by
  constructor
  · rintro (_ | ⟨-, deep⟩)
    · cases h
    · exact deep
  · exact .tooDeep h

/-- What is no count is a bad value, unless it escapes. -/
theorem isBadValue_iff {fault : SettingsFault} (h : NoCount room v fault) :
    fault.IsBadValue ↔ ¬ v.Escapes room := by
  cases h with
  | infinite hinfinite => exact iff_of_false id (not_not_intro (.infinite hinfinite))
  | bool =>
    refine iff_of_true trivial ?_
    rintro (_ | ⟨other, -⟩)
    cases other
  | @nan x hnan =>
    refine iff_of_true trivial ?_
    rintro (hinfinite | ⟨other, -⟩)
    · rw [isInf_eq_false_of_isNaN hnan] at hinfinite
      cases hinfinite
    · cases other
  | str =>
    refine iff_of_true trivial ?_
    rintro (_ | ⟨other, -⟩)
    cases other
  | shown other shown =>
    rw [other.escapes_iff]
    exact iff_of_true trivial shown.not_hides
  | @hidden _ reason other hidden =>
    rw [other.escapes_iff]
    cases reason with
    | tooDeep => exact iff_of_false id (not_not_intro hidden)
    | longInteger =>
      -- One value cannot be hidden for two reasons.
      refine iff_of_true trivial ?_
      intro deep
      cases hidden.unique deep

/-- A number gives the integer next to it towards zero. -/
theorem Value.Gives.eq_wholePart (h : v.Gives n) (hq : v.number? = some q) : n = wholePart q :=
  h.unique (.number hq)

end

/-! ### Settings -/

/-- The values of all settings but the least count will do. -/
def OthersFine (room : Nat) (value? : Setting → Option Value) : Prop :=
  ∀ s, s ≠ .minCount → Fine room value? s

/-- How the least count comes out of its effective value `v`. -/
structure CountContract (room : Nat) (mapping overrides : Entries) (v : Value) : Prop where
  /-- The least count is what the value gives, which is one count at most. -/
  taken : ∀ c, (resolve room mapping overrides).result = .ok c → ∀ n, v.Gives n ↔ n = c.minCount
  /-- If the other values will do, there are settings exactly if the value gives a count. -/
  returns : OthersFine room (effective mapping overrides) →
    ((∃ c, (resolve room mapping overrides).result = .ok c) ↔ ∃ n, v.Gives n)
  /-- Otherwise the value is bad, unless it escapes. -/
  refused : OthersFine room (effective mapping overrides) →
    ∀ fault, (resolve room mapping overrides).result = .error fault →
      (fault.IsBadValue ↔ ¬ v.Escapes room)
  /-- The value is taken exactly or said to be bad, but for the fractions and the values that escape. -/
  promised : OthersFine room (effective mapping overrides) →
    ((∀ c, (resolve room mapping overrides).result = .ok c → v.IsInteger c.minCount) ∧
        (∀ fault, (resolve room mapping overrides).result = .error fault → fault.IsBadValue) ↔
      (∀ q, ¬ v.IsFraction q) ∧ ¬ v.Escapes room)
  /-- A number is less than one away from its least count. -/
  near : ∀ c q, (resolve room mapping overrides).result = .ok c → v.number? = some q →
    |q - c.minCount| < 1
  /-- A negative number passes validation only if it is a fraction that is cut to zero. -/
  negative : ∀ c q, (resolve room mapping overrides).result = .ok c → v.number? = some q → q < 0 →
    c.errors = [] → -1 < q ∧ c.minCount = 0

section

variable {room : Nat} {mapping overrides : Entries} {v : Value} {c : Settings} {fault : SettingsFault}

theorem gives_minCount (hv : effective mapping overrides .minCount = some v)
    (h : (resolve room mapping overrides).result = .ok c) : v.Gives c.minCount := by
  obtain ⟨-, -, -, hcount, -⟩ := ofValues_eq_ok_iff.mp h
  rw [hv] at hcount
  exact readCount_eq_ok_iff.mp hcount

theorem noCount_of_othersFine (hv : effective mapping overrides .minCount = some v)
    (hothers : OthersFine room (effective mapping overrides))
    (h : (resolve room mapping overrides).result = .error fault) : NoCount room v fault := by
  have hfirst := ((ends_ofValues room (effective mapping overrides)).error fault).mp h
  obtain ⟨-, s, -, -, -, w, hw, hfails⟩ := hfirst
  by_cases hs : s = .minCount
  · subst hs
    rw [hv] at hw
    cases hw
    exact hfails
  · exact absurd hfails ((hothers s hs w hw).not_fails fault)

theorem exists_settings_iff (hv : effective mapping overrides .minCount = some v)
    (hothers : OthersFine room (effective mapping overrides)) :
    (∃ c, (resolve room mapping overrides).result = .ok c) ↔ ∃ n, v.Gives n := by
  rw [← isCount_iff]
  refine (ends_ofValues room (effective mapping overrides)).ok.trans ⟨fun h => h .minCount v hv, ?_⟩
  intro hcount s w hw
  by_cases hs : s = .minCount
  · subst hs
    rw [hv] at hw
    cases hw
    exact hcount
  · exact hothers s hs w hw

theorem countContract (hv : effective mapping overrides .minCount = some v) :
    CountContract room mapping overrides v where
  taken c hc n := by
    have hgives := gives_minCount hv hc
    constructor
    · intro h
      exact h.unique hgives
    · rintro rfl
      exact hgives
  returns hothers := exists_settings_iff hv hothers
  refused hothers fault h := isBadValue_iff (noCount_of_othersFine hv hothers h)
  promised hothers := by
    constructor
    · rintro ⟨htaken, hbad⟩
      constructor
      · -- A fraction gives a count, and so there are settings.
        intro q hfraction
        obtain ⟨c, hc⟩ := (exists_settings_iff hv hothers).mpr ⟨_, .number hfraction.1⟩
        exact (gives_minCount hv hc).isInteger_iff.mp (htaken c hc) q hfraction
      · cases hresult : (resolve room mapping overrides).result with
        | ok c => exact (gives_minCount hv hresult).not_escapes
        | error fault =>
          exact (isBadValue_iff (noCount_of_othersFine hv hothers hresult)).mp (hbad fault hresult)
    · rintro ⟨hwhole, hfinite⟩
      constructor
      · intro c hc
        exact (gives_minCount hv hc).isInteger_iff.mpr hwhole
      · intro fault h
        exact (isBadValue_iff (noCount_of_othersFine hv hothers h)).mpr hfinite
  near c q hc hq := by
    rw [(gives_minCount hv hc).eq_wholePart hq]
    exact Decimal.abs_sub_wholePart_lt_one q
  negative c q hc hq hneg herrors := by
    obtain ⟨-, -, hcount, -⟩ := errors_eq_nil_iff.mp herrors
    rw [(gives_minCount hv hc).eq_wholePart hq] at hcount ⊢
    exact ⟨Decimal.wholePart_nonneg_iff.mp hcount,
      le_antisymm (Decimal.wholePart_nonpos hneg) hcount⟩

end

/-! ### Main statement -/

/-- **The least count is taken exactly or said to be bad**, unless it is a fraction, which is cut, or
escapes.  Of two numbers with one and the same least count at least one is a fraction. -/
theorem least_count_taken (room : Nat) (mapping overrides : Entries) (v : Value)
    (hv : effective mapping overrides .minCount = some v) :
    CountContract room mapping overrides v ∧
      ∀ mapping' overrides' v', effective mapping' overrides' .minCount = some v' →
        ∀ c c' q q', (resolve room mapping overrides).result = .ok c →
          (resolve room mapping' overrides').result = .ok c' → v.number? = some q →
          v'.number? = some q' → c.minCount = c'.minCount → q ≠ q' →
          v.IsFraction q ∨ v'.IsFraction q' := by
  refine ⟨countContract hv, ?_⟩
  intro mapping' overrides' v' hv' c c' q q' hc hc' hq hq' hsame hne
  by_contra hwhole
  simp only [Value.IsFraction, hq, hq', true_and, not_or, not_forall, not_not] at hwhole
  obtain ⟨⟨n, rfl⟩, ⟨n', rfl⟩⟩ := hwhole
  have hn := (gives_minCount hv hc).eq_wholePart hq
  have hn' := (gives_minCount hv' hc').eq_wholePart hq'
  rw [Decimal.wholePart_intCast] at hn hn'
  exact hne (by rw [← hn, ← hn', hsame])

/-- Two jobs and a least count. -/
def countMapping (count : Scalar) : Entries :=
  [(.str "left_job", .str "a"), (.str "right_job", .str "b"),
    (.str "min_allowed_request_count", .scalar count)]

/-- A text of the number 25 is taken for this number. -/
theorem least_count_taken_text :
    ∃ c, (resolve Value.usualRoom (countMapping (.str " +2_5")) []).result = .ok c ∧ c.minCount = 25 := by
  have hnumeral : Decimal.IsInteger " +2_5" false [2, 5] :=
    ⟨[' '], ['+', '2', '_', '5'], ['2', '_', '5'], [], rfl,
      List.forall_mem_singleton.mpr (by decide), nofun, .plus _, .apart rfl (.last rfl)⟩
  obtain ⟨hcontract, -⟩ :=
    least_count_taken Value.usualRoom (countMapping (.str " +2_5")) [] (.str " +2_5") rfl
  have hgives : (Value.str " +2_5").Gives 25 := .text hnumeral (by simp [maxDigits])
  have hothers : OthersFine Value.usualRoom (effective (countMapping (.str " +2_5")) []) := by
    intro s hs v hv
    cases s with
    | minCount => exact absurd rfl hs
    | leftJob => cases hv; exact .str "a"
    | rightJob => cases hv; exact .str "b"
    | format => cases hv
    | output => cases hv
  obtain ⟨c, hc⟩ := (hcontract.returns hothers).mpr ⟨25, hgives⟩
  exact ⟨c, hc, ((hcontract.taken c hc 25).mp hgives).symm⟩

/-- Minus one half. -/
def minusHalf : Float := Float.ofBits 0xBFE0000000000000

theorem exact_minusHalf : Decimal.Exact.ofFloat minusHalf = .finite true (2 ^ 52) (-53) := rfl

/-- A negative number that is no integer makes the settings that zero makes, and nothing is wrong with
them. -/
theorem minusHalf_taken_for_zero :
    (Value.scalar (.float minusHalf)).IsFraction (-1 / 2) ∧
      ∃ c, (resolve Value.usualRoom (countMapping (.float minusHalf)) []).result = .ok c ∧ c.minCount = 0 ∧
        c.errors = [] ∧ (resolve Value.usualRoom (countMapping (.int 0)) []).result = .ok c := by
  have hnumber : (Value.scalar (.float minusHalf)).number? = some (-1 / 2) := by
    simp only [Value.number?, exact_minusHalf, Decimal.Exact.rational?]
    norm_num
  have hcut : wholePart (-1 / 2) = 0 := by
    rw [Decimal.wholePart_of_neg (by norm_num), Int.ceil_eq_zero_iff]
    norm_num
  have hread : readCount Value.usualRoom (.scalar (.float minusHalf)) = .ok 0 := by
    rw [readCount_eq_ok_iff, ← hcut]
    exact .number hnumber
  have hfraction : ∀ n : Int, (-1 / 2 : ℚ) ≠ n := by
    intro n hn
    have hdouble : ((2 * n : Int) : ℚ) = ((-1 : Int) : ℚ) := by
      push_cast
      linarith
    have hodd : 2 * n = -1 := by exact_mod_cast hdouble
    omega
  refine ⟨⟨hnumber, hfraction⟩, ⟨some ⟨0, ["a"]⟩, some ⟨0, ["b"]⟩, 0, "table", none⟩, ?_, rfl, ?_, ?_⟩
  · exact ofValues_eq_ok_iff.mpr ⟨rfl, rfl, rfl, hread, rfl⟩
  · exact errors_eq_nil_iff.mpr ⟨nofun, nofun, le_refl 0, by decide⟩
  · exact ofValues_eq_ok_iff.mpr ⟨rfl, rfl, rfl, rfl, rfl⟩

end BenchCompare
