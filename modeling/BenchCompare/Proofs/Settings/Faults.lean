import BenchCompare.Command.Request
import BenchCompare.Proofs.Decimal.Rational
import BenchCompare.Proofs.Run.Oversized
import BenchCompare.Proofs.Value.Shown

/-! # Why values make no settings

  Each setting asks something else of its value: a path must be a text or null,
  the least count something that an integer can be made of, and the format only
  something that can be shown.  Of several values that will not do the first one
  is reported, and the paths come first.

  Main statements: `ends_ofValues`, and `errors_eq_nil_iff` for the settings that are
  made, which may have problems.
-/

namespace BenchCompare

open Decimal (ofFloat_eq_nan_iff ofFloat_eq_infinite_iff isInf_eq_false_of_isNaN)

/-! ### How work ends -/

/-- Work ends well if and only if something is the case, and with a fault if and only if something is
the case for this fault. -/
structure Ends {ε α : Type} (x : Except ε α) (good : Prop) (bad : ε → Prop) : Prop where
  ok : (∃ a, x = .ok a) ↔ good
  error : ∀ e, x = .error e ↔ bad e

namespace Ends

variable {ε α β : Type} {x : Except ε α} {good good' : Prop} {bad bad' : ε → Prop}

/-- If the two cases are all there are, one direction of both equivalences is enough. -/
theorem of_total (hgood : good → ∃ a, x = .ok a) (hbad : ∀ e, bad e → x = .error e)
    (htotal : good ∨ ∃ e, bad e) : Ends x good bad := by
  rcases htotal with h | ⟨e, he⟩
  · obtain ⟨a, rfl⟩ := hgood h
    refine ⟨iff_of_true ⟨a, rfl⟩ h, fun e => iff_of_false nofun ?_⟩
    intro he
    cases hbad e he
  · obtain rfl := hbad e he
    refine ⟨iff_of_false nofun ?_, fun e' => ⟨?_, hbad e'⟩⟩
    · intro h
      obtain ⟨a, ha⟩ := hgood h
      cases ha
    · intro h
      cases h
      exact he

theorem not_bad (h : Ends x good bad) (hgood : good) (e : ε) : ¬ bad e := by
  intro he
  obtain ⟨a, ha⟩ := h.ok.mpr hgood
  rw [(h.error e).mpr he] at ha
  cases ha

theorem pure (a : α) : Ends (.ok a : Except ε α) True fun _ => False :=
  ⟨iff_of_true ⟨a, rfl⟩ trivial, fun _ => iff_of_false nofun id⟩

/-- What is done after something else ends as it does if that ends well. -/
theorem bind {f : α → Except ε β} (hx : Ends x good bad) (hf : ∀ a, Ends (f a) good' bad') :
    Ends (x >>= f) (good ∧ good') fun e => bad e ∨ good ∧ bad' e where
  ok := by
    rw [← hx.ok]
    simp only [bind_eq_ok]
    constructor
    · rintro ⟨b, a, ha, hb⟩
      exact ⟨⟨a, ha⟩, (hf a).ok.mp ⟨b, hb⟩⟩
    · rintro ⟨⟨a, ha⟩, h⟩
      obtain ⟨b, hb⟩ := (hf a).ok.mpr h
      exact ⟨b, a, ha, hb⟩
  error e := by
    rw [bind_eq_error, hx.error, ← hx.ok]
    simp only [(hf _).error, exists_and_right]

/-- What is only done with a value that is there. -/
theorem optional {γ : Type} {read : γ → Except ε α} {good : γ → Prop} {bad : γ → ε → Prop}
    (h : ∀ v, Ends (read v) (good v) (bad v)) (v? : Option γ) (a : α) :
    Ends ((v?.map read).getD (.ok a)) (∀ v, v? = some v → good v)
      fun e => ∃ v, v? = some v ∧ bad v e := by
  cases v? with
  | none =>
    refine of_total (fun _ => ⟨a, rfl⟩) ?_ (.inl nofun)
    rintro e ⟨v, hv, -⟩
    cases hv
  | some v =>
    refine ⟨?_, ?_⟩
    · simpa using (h v).ok
    · simpa using (h v).error

end Ends

/-! ### Values that will do -/

/-- A value that stands for a path, or for none. -/
inductive Value.IsPath : Value → Prop
  | null : IsPath .null
  | str (s : Text) : IsPath (.str s)

/-- A value that an integer can be made of. -/
inductive Value.IsCount : Value → Prop
  | int (n : Int) : IsCount (.scalar (.int n))
  | float {x : Float} (number : x.isNaN = false) (finite : x.isInf = false) :
      IsCount (.scalar (.float x))
  | str {s : String} {n : Int} (numeral : Decimal.readInteger s = .ok n) : IsCount (.str s)
  | foreign {o : Foreign} {n : Int} (number : o.number = some n) : IsCount (.scalar (.foreign o))

/-- The settings whose values are paths. -/
def Setting.paths : List Setting := [.leftJob, .rightJob, .output]

/-- A value that will do for a setting.  `room` is how much room there is to show values. -/
def Value.Suits (room : Nat) (v : Value) : Setting → Prop
  | .leftJob | .rightJob | .output => v.IsPath
  | .minCount => v.IsCount
  | .format => v.Shows room

/-! ### Values that will not -/

/-- A value that is no number, no truth value and no text. -/
inductive Value.IsOther : Value → Prop
  | null : IsOther .null
  | moment (m : Moment) : IsOther (.scalar (.moment m))
  | list (items : List Value) : IsOther (.list items)
  | mapping (entries : Entries) : IsOther (.mapping entries)
  | foreign {o : Foreign} (none : o.number = none) : IsOther (.scalar (.foreign o))

/-- A value will not do as the least count, with this fault. -/
inductive NoCount (room : Nat) : Value → SettingsFault → Prop
  | bool (b : Bool) : NoCount room (.scalar (.bool b)) .booleanCount
  | infinite {x : Float} (infinite : x.isInf = true) : NoCount room (.scalar (.float x)) .infiniteCount
  | nan {x : Float} (nan : x.isNaN = true) :
      NoCount room (.scalar (.float x)) (.noCount (.scalar (.float x)))
  | str {t : Text} (numeral : ∀ (s : String) n, t = s → Decimal.readInteger s ≠ .ok n) :
      NoCount room (.str t) (.noCount (.str t))
  | shown {v : Value} (other : v.IsOther) (shown : v.Shows room) : NoCount room v (.noCount v)
  | hidden {v : Value} {reason : Unshown} (other : v.IsOther) (hidden : v.Hides room reason) :
      NoCount room v (.unshown reason)

/-- A value will not do for a setting, with this fault. -/
def Value.Fails (room : Nat) (v : Value) (fault : SettingsFault) : Setting → Prop
  | .leftJob | .rightJob | .output => ¬ v.IsPath ∧ fault = .noPath v.kind
  | .minCount => NoCount room v fault
  | .format => ∃ reason, v.Hides room reason ∧ fault = .unshown reason

/-- The settings in the order in which their values are looked at. -/
def Setting.checked : List Setting := paths ++ [.minCount, .format]

/-- The value of a setting will do, if there is one. -/
def Fine (room : Nat) (value? : Setting → Option Value) (s : Setting) : Prop :=
  ∀ v, value? s = some v → v.Suits room s

variable {room : Nat}

/-! ### Numbers -/

/-- What a count that is a number comes to: a not-a-number, an infinity, or one with an integer part. -/
theorem readCount_float_cases (room : Nat) (x : Float) :
    x.isNaN = true ∧ readCount room (.scalar (.float x)) = .error (.noCount (.scalar (.float x))) ∨
    x.isInf = true ∧ readCount room (.scalar (.float x)) = .error .infiniteCount ∨
    x.isNaN = false ∧ x.isInf = false ∧ ∃ n, readCount room (.scalar (.float x)) = .ok n := by
  simp only [← Bool.not_eq_true, ← ofFloat_eq_nan_iff, ← ofFloat_eq_infinite_iff, readCount]
  cases Decimal.Exact.ofFloat x with
  | nan => exact .inl ⟨rfl, rfl⟩
  | infinite negative => exact .inr (.inl ⟨⟨negative, rfl⟩, rfl⟩)
  | finite negative m e => exact .inr (.inr ⟨nofun, nofun, _, rfl⟩)

/-! ### Single values -/

theorem ends_readPath (v : Value) :
    Ends (readPath v) v.IsPath fun fault => ¬ v.IsPath ∧ fault = .noPath v.kind := by
  apply Ends.of_total
  · intro h
    cases h with
    | null => exact ⟨none, rfl⟩
    | str s => exact ⟨_, rfl⟩
  · rintro fault ⟨hno, rfl⟩
    unfold readPath
    split
    · exact absurd .null hno
    · exact absurd (.str _) hno
    · rfl
  · by_cases h : v.IsPath
    · exact .inl h
    · exact .inr ⟨_, h, rfl⟩

theorem readCount_of_isOther {v : Value} (h : v.IsOther) :
    readCount room v = .error ((v.unshown? room).elim (.noCount v) .unshown) := by
  cases h with
  | @foreign o hnone =>
    obtain ⟨kind, literal, unshown, number⟩ := o
    cases hnone
    rfl
  | _ => rfl

theorem readCount_text (t : Text) : readCount room (.str t) =
    match t.encode.toOption.map Decimal.readInteger with
    | some (.ok n) => .ok n
    | _ => .error (.noCount (.str t)) :=
  rfl

theorem readCount_numeral {s : String} {n : Int} (h : Decimal.readInteger s = .ok n) :
    readCount room (.str s) = .ok n := by
  rw [readCount_text, Text.encode_ofString]
  simp only [Except.toOption, Option.map_some, h]

theorem readCount_str (room : Nat) (t : Text) :
    (∃ (s : String) (n : Int), t = s ∧ Decimal.readInteger s = .ok n ∧
      readCount room (.str t) = .ok n) ∨
    (∀ (s : String) n, t = s → Decimal.readInteger s ≠ .ok n) ∧
      readCount room (.str t) = .error (.noCount (.str t)) := by
  cases ht : t.encode with
  | error f =>
    refine .inr ⟨?_, ?_⟩
    · rintro s n rfl
      simp at ht
    · rw [readCount_text, ht]
      rfl
  | ok s =>
    obtain rfl := Text.encode_eq_ok_iff.mp ht
    cases hs : Decimal.readInteger s with
    | ok n => exact .inl ⟨s, n, rfl, hs, readCount_numeral hs⟩
    | error f =>
      refine .inr ⟨?_, ?_⟩
      · intro s' n heq
        obtain rfl := Text.ofString_inj.mp heq
        simp [hs]
      · rw [readCount_text, ht]
        simp only [Except.toOption, Option.map_some, hs]

theorem readCount_of_noCount {v : Value} {fault : SettingsFault} (h : NoCount room v fault) :
    readCount room v = .error fault := by
  cases h with
  | bool b => rfl
  | @infinite x hinfinite =>
    rcases readCount_float_cases room x with ⟨hnan, -⟩ | ⟨-, hread⟩ | ⟨-, hfinite, -⟩
    · rw [isInf_eq_false_of_isNaN hnan] at hinfinite
      cases hinfinite
    · exact hread
    · rw [hfinite] at hinfinite
      cases hinfinite
  | @nan x hnan =>
    rcases readCount_float_cases room x with ⟨-, hread⟩ | ⟨hinfinite, -⟩ | ⟨hnumber, -⟩
    · exact hread
    · rw [isInf_eq_false_of_isNaN hnan] at hinfinite
      cases hinfinite
    · rw [hnumber] at hnan
      cases hnan
  | @str t hnumeral =>
    rcases readCount_str room t with ⟨s, n, ht, hread, -⟩ | ⟨-, hread⟩
    · exact absurd hread (hnumeral s n ht)
    · exact hread
  | shown other shown =>
    rw [readCount_of_isOther other, Value.unshown?_eq_none_iff.mpr shown]
    rfl
  | hidden other hidden =>
    rw [readCount_of_isOther other, Value.unshown?_eq_some_iff.mpr hidden]
    rfl

theorem exists_readCount_of_isCount {v : Value} (h : v.IsCount) : ∃ n, readCount room v = .ok n := by
  cases h with
  | int n => exact ⟨n, rfl⟩
  | @float x hnumber hfinite =>
    rcases readCount_float_cases room x with ⟨hnan, -⟩ | ⟨hinfinite, -⟩ | ⟨-, -, hread⟩
    · rw [hnumber] at hnan
      cases hnan
    · rw [hfinite] at hinfinite
      cases hinfinite
    · exact hread
  | @str s n hnumeral => exact ⟨n, readCount_numeral hnumeral⟩
  | @foreign o n hnumber =>
    obtain ⟨kind, literal, unshown, number⟩ := o
    cases hnumber
    exact ⟨n, rfl⟩

theorem Value.IsOther.exists_noCount {v : Value} (h : v.IsOther) : ∃ fault, NoCount room v fault := by
  rcases Value.shows_or_hides room v with hshown | ⟨reason, hhidden⟩
  · exact ⟨_, .shown h hshown⟩
  · exact ⟨_, .hidden h hhidden⟩

theorem Value.IsOther.not_isCount {v : Value} (h : v.IsOther) : ¬ v.IsCount := by
  intro hcount
  cases h with
  | foreign none =>
    cases hcount with
    | foreign number =>
      rw [none] at number
      cases number
  | _ => cases hcount

theorem isCount_or_noCount (room : Nat) (v : Value) : v.IsCount ∨ ∃ fault, NoCount room v fault := by
  cases v with
  | scalar s =>
    cases s with
    | null => exact .inr Value.IsOther.null.exists_noCount
    | bool b => exact .inr ⟨_, .bool b⟩
    | int n => exact .inl (.int n)
    | float x =>
      rcases readCount_float_cases room x with ⟨hnan, -⟩ | ⟨hinfinite, -⟩ | ⟨hnumber, hfinite, -⟩
      · exact .inr ⟨_, .nan hnan⟩
      · exact .inr ⟨_, .infinite hinfinite⟩
      · exact .inl (.float hnumber hfinite)
    | str t =>
      rcases readCount_str room t with ⟨s, n, rfl, hread, -⟩ | ⟨hnone, -⟩
      · exact .inl (.str hread)
      · exact .inr ⟨_, .str hnone⟩
    | moment m => exact .inr (Value.IsOther.moment m).exists_noCount
    | foreign o =>
      cases hnumber : o.number with
      | none => exact .inr (Value.IsOther.foreign hnumber).exists_noCount
      | some n => exact .inl (.foreign hnumber)
  | list items => exact .inr (Value.IsOther.list items).exists_noCount
  | mapping entries => exact .inr (Value.IsOther.mapping entries).exists_noCount

theorem ends_readCount (v : Value) : Ends (readCount room v) v.IsCount (NoCount room v) :=
  .of_total exists_readCount_of_isCount (fun _ => readCount_of_noCount) (isCount_or_noCount room v)

theorem ends_readFormat (v : Value) : Ends (readFormat room v) (v.Shows room)
    fun fault => ∃ reason, v.Hides room reason ∧ fault = .unshown reason := by
  simp only [← Value.unshown?_eq_none_iff, ← Value.unshown?_eq_some_iff]
  unfold readFormat
  cases v.unshown? room with
  | none =>
    refine .of_total (fun _ => ⟨_, rfl⟩) ?_ (.inl rfl)
    rintro fault ⟨reason, hreason, -⟩
    cases hreason
  | some reason =>
    refine .of_total nofun ?_ (.inr ⟨_, reason, rfl, rfl⟩)
    rintro fault ⟨reason', hreason, rfl⟩
    cases hreason
    rfl

theorem Value.Suits.not_fails {v : Value} {s : Setting} (h : v.Suits room s) (fault : SettingsFault) :
    ¬ v.Fails room fault s := by
  cases s with
  | minCount => exact (ends_readCount v).not_bad h fault
  | format => exact (ends_readFormat v).not_bad h fault
  | _ => exact (ends_readPath v).not_bad h fault

/-! ### Settings -/

section

variable (room : Nat) (value? : Setting → Option Value)

theorem ends_path {s : Setting} (h : s ∈ Setting.paths) :
    Ends (readPath ((value? s).getD .null)) (Fine room value? s)
      fun fault => ∃ v, value? s = some v ∧ v.Fails room fault s := by
  have hread : readPath ((value? s).getD .null) = ((value? s).map readPath).getD (.ok none) := by
    cases value? s <;> rfl
  rw [hread]
  simp only [Setting.paths, List.mem_cons, List.not_mem_nil, or_false] at h
  rcases h with rfl | rfl | rfl <;> exact .optional ends_readPath _ none

theorem ends_minCount (n : Int) :
    Ends (((value? .minCount).map (readCount room)).getD (.ok n)) (Fine room value? .minCount)
      fun fault => ∃ v, value? .minCount = some v ∧ v.Fails room fault .minCount :=
  .optional ends_readCount _ n

theorem ends_format (text : Text) :
    Ends (((value? .format).map (readFormat room)).getD (.ok text)) (Fine room value? .format)
      fun fault => ∃ v, value? .format = some v ∧ v.Fails room fault .format :=
  .optional ends_readFormat _ text

/-- The settings are looked at one after the other. -/
theorem ends_ofValues : Ends (Settings.ofValues room value?) (∀ s, Fine room value? s) fun fault =>
    FirstFault (Fine room value?) (fun s => ∃ v, value? s = some v ∧ v.Fails room fault s)
      Setting.checked := by
  have hends := (ends_path room value? (s := .leftJob) (by decide)).bind fun leftJob =>
    (ends_path room value? (s := .rightJob) (by decide)).bind fun rightJob =>
    (ends_path room value? (s := .output) (by decide)).bind fun output =>
    (ends_minCount room value? Settings.default.minCount).bind fun minCount =>
    (ends_format room value? Settings.default.format).bind fun format =>
    Ends.pure (Settings.mk leftJob rightJob minCount format output)
  have hall : (∀ s, Fine room value? s) ↔ Fine room value? .leftJob ∧ Fine room value? .rightJob ∧
      Fine room value? .output ∧ Fine room value? .minCount ∧ Fine room value? .format ∧ True := by
    constructor
    · intro h
      exact ⟨h _, h _, h _, h _, h _, trivial⟩
    · rintro ⟨hleft, hright, houtput, hcount, hformat, -⟩ s
      cases s <;> assumption
  simp only [Setting.checked, Setting.paths, List.cons_append, List.nil_append, firstFault_cons,
    not_firstFault_nil]
  rw [hall]
  exact hends

end

section

variable {value? : Setting → Option Value} {c : Settings}

/-- The settings are what the values are read as. -/
theorem ofValues_eq_ok_iff : Settings.ofValues room value? = .ok c ↔
    readPath ((value? .leftJob).getD .null) = .ok c.leftJob ∧
      readPath ((value? .rightJob).getD .null) = .ok c.rightJob ∧
      readPath ((value? .output).getD .null) = .ok c.output ∧
      ((value? .minCount).map (readCount room)).getD (.ok Settings.default.minCount) = .ok c.minCount ∧
      ((value? .format).map (readFormat room)).getD (.ok Settings.default.format) = .ok c.format := by
  unfold Settings.ofValues
  simp only [bind_eq_ok]
  constructor
  · rintro ⟨leftJob, hleft, rightJob, hright, output, houtput, minCount, hcount, format, hformat, hc⟩
    cases hc
    exact ⟨hleft, hright, houtput, hcount, hformat⟩
  · rintro ⟨hleft, hright, houtput, hcount, hformat⟩
    exact ⟨_, hleft, _, hright, _, houtput, _, hcount, _, hformat, rfl⟩

/-! ### Problems -/

theorem filter_problemIf_eq_nil_iff {wrong : Prop} [Decidable wrong] {p : Problem}
    (h : p.severity = .error) :
    (Settings.problemIf wrong p).filter (fun p => p.severity = .error) = [] ↔ ¬ wrong := by
  unfold Settings.problemIf
  split
  · next hwrong => simp [h, hwrong]
  · next hright => simp [hright]

theorem filter_warning_eq_nil {wrong : Prop} [Decidable wrong] {p : Problem}
    (h : p.severity = .warning) :
    (Settings.problemIf wrong p).filter (fun p => p.severity = .error) = [] := by
  unfold Settings.problemIf
  split
  · simp [h]
  · rfl

/-- Nothing is wrong with settings that name two jobs, a count and a format. -/
theorem errors_eq_nil_iff : c.errors = [] ↔
    c.leftJob ≠ none ∧ c.rightJob ≠ none ∧ 0 ≤ c.minCount ∧ c.format ∈ outputFormats := by
  unfold Settings.errors Settings.problems
  simp only [List.filter_append, List.append_eq_nil_iff, and_assoc]
  rw [filter_problemIf_eq_nil_iff rfl, filter_problemIf_eq_nil_iff rfl, filter_problemIf_eq_nil_iff rfl,
    filter_problemIf_eq_nil_iff rfl, filter_warning_eq_nil rfl, Int.not_lt, not_not]
  simp

end

end BenchCompare
