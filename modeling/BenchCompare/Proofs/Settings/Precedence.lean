import BenchCompare.Proofs.Settings.Contract

/-! # Settings depend on effective values alone

  A setting is as an override says that is not null.  Without one it is as the
  mapping says, which may be null, and if the mapping says nothing there is no
  value.

  * `Effective mapping overrides s v?`: `v?` is this *effective value* of `s`, if
    there is one.
  * `Entries.overridden`: the mapping with the overrides written into it.
  * `Warned`: the records of the keys that name no setting.

  Nothing else has an influence: neither the order of the entries, nor the keys
  that name no setting, nor the values that are overridden.  So what is given on
  the command line might as well stand in the file.

  Main statement: `resolved_by_effective_values`.
-/

namespace BenchCompare

/-! ### Effective values -/

/-- Nothing is said twice about a setting, unless it is the same. -/
def Entries.Unambiguous (es : Entries) : Prop :=
  ∀ (s : Setting) (v w : Value), (.str s.key, v) ∈ es → (.str s.key, w) ∈ es → v = w

/-- What is effective of all that is said about a setting. -/
inductive Effective (mapping overrides : Entries) (s : Setting) : Option Value → Prop
  | override {v : Value} (given : (.str s.key, v) ∈ overrides) (value : v ≠ .null) :
      Effective mapping overrides s (some v)
  | mapping {v : Value} (silent : ∀ w, (.str s.key, w) ∈ overrides → w = .null)
      (given : (.str s.key, v) ∈ mapping) : Effective mapping overrides s (some v)
  | nothing (silent : ∀ w, (.str s.key, w) ∈ overrides → w = .null)
      (absent : ∀ w, (.str s.key, w) ∉ mapping) : Effective mapping overrides s none

/-- One warning for each key that names no setting, in the order of the entries. -/
inductive Warned : Entries → List Log.Record → Prop
  | nil : Warned [] []
  | known {es : Entries} {rs : List Log.Record} (s : Setting) (v : Value) (rest : Warned es rs) :
      Warned ((.str s.key, v) :: es) rs
  | unknown {es : Entries} {rs : List Log.Record} {k : Scalar} (v : Value)
      (stranger : ∀ s : Setting, k ≠ .str s.key) (rest : Warned es rs) :
      Warned ((k, v) :: es)
        (⟨.warning, "perfcompare", "Ignoring unknown config key: " ++ k.text⟩ :: rs)

/-! ### Overrides written into a mapping -/

/-- The entries with a value for a setting, in place of what was said about it. -/
def Entries.put (s : Setting) (v : Value) : Entries → Entries
  | [] => [(.str s.key, v)]
  | (k, w) :: rest => if k.isStr s.key then (k, v) :: rest else (k, w) :: put s v rest

/-- The setting that a key names. -/
def Scalar.setting? (k : Scalar) : Option Setting := Setting.all.find? fun s => k.isStr s.key

/-- The entries with one override written into them, unless it is null or names no setting. -/
def Entries.putOverride (es : Entries) (k : Scalar) (v : Value) : Entries :=
  match k.setting? with
  | some s => if v.isNull then es else es.put s v
  | none => es

/-- The mapping with the overrides written into it. -/
def Entries.overridden (mapping overrides : Entries) : Entries :=
  overrides.foldl (fun es (k, v) => es.putOverride k v) mapping

/-! ### Keys -/

theorem Scalar.isStr_iff {k : Scalar} {name : Text} : k.isStr name = true ↔ k = .str name := by
  cases k with
  | str s => simp [isStr]
  | _ => simp [isStr]

theorem Scalar.setting?_eq_some_iff {k : Scalar} {s : Setting} :
    k.setting? = some s ↔ k = .str s.key := by
  unfold setting?
  constructor
  · intro h
    have hkey : k.isStr s.key = true := List.find?_some (p := fun s : Setting => k.isStr s.key) h
    exact isStr_iff.mp hkey
  · rintro rfl
    cases s <;> rfl

theorem Scalar.isKnown_iff {k : Scalar} : k.isKnown = true ↔ ∃ s : Setting, k = .str s.key := by
  unfold isKnown
  rw [List.any_eq_true]
  constructor
  · rintro ⟨s, -, hs⟩
    exact ⟨s, isStr_iff.mp hs⟩
  · rintro ⟨s, hs⟩
    exact ⟨s, s.mem_all, isStr_iff.mpr hs⟩

theorem Value.isNull_iff {v : Value} : v.isNull = true ↔ v = .null := by
  cases v with
  | scalar s => cases s <;> simp [isNull]
  | _ => simp [isNull]

/-! ### Looking up -/

namespace Entries

theorem value?_cons_self (s : Setting) (v : Value) (es : Entries) :
    value? ((.str s.key, v) :: es) s = some v := by
  simp [value?, Scalar.isStr]

theorem value?_cons_of_ne {s : Setting} {k : Scalar} (h : k ≠ .str s.key) (v : Value)
    (es : Entries) : value? ((k, v) :: es) s = value? es s := by
  have hkey : k.isStr s.key = false := by
    rw [← Bool.not_eq_true, Scalar.isStr_iff]
    exact h
  simp [value?, hkey]

theorem mem_of_value?_eq_some {es : Entries} {s : Setting} {v : Value} (h : es.value? s = some v) :
    (.str s.key, v) ∈ es := by
  unfold value? at h
  rw [Option.map_eq_some_iff] at h
  obtain ⟨⟨k, w⟩, hfind, rfl⟩ := h
  have hkey : k.isStr s.key = true := List.find?_some (p := fun e : Scalar × Value => e.1.isStr s.key) hfind
  obtain rfl := Scalar.isStr_iff.mp hkey
  exact List.mem_of_find?_eq_some hfind

theorem value?_eq_none_iff {es : Entries} {s : Setting} :
    es.value? s = none ↔ ∀ v, (.str s.key, v) ∉ es := by
  unfold value?
  rw [Option.map_eq_none_iff, List.find?_eq_none]
  constructor
  · intro h v hv
    exact h _ hv (Scalar.isStr_iff.mpr rfl)
  · rintro h ⟨k, v⟩ hmem hkey
    obtain rfl := Scalar.isStr_iff.mp hkey
    exact h v hmem

theorem value?_eq_some_iff {es : Entries} (hes : es.Unambiguous) {s : Setting} {v : Value} :
    es.value? s = some v ↔ (.str s.key, v) ∈ es := by
  constructor
  · exact mem_of_value?_eq_some
  · intro hv
    cases hvalue : es.value? s with
    | none => exact absurd hv (value?_eq_none_iff.mp hvalue v)
    | some w => rw [hes s w v (mem_of_value?_eq_some hvalue) hv]

/-- Distinct keys say nothing twice. -/
theorem unambiguous_of_nodup {es : Entries} (h : (es.map Prod.fst).Nodup) : es.Unambiguous := by
  intro s v w hv hw
  have heq := List.inj_on_of_nodup_map h hv hw rfl
  exact (Prod.mk.inj heq).2

theorem Unambiguous.of_cons {e : Scalar × Value} {es : Entries}
    (h : Entries.Unambiguous (e :: es)) : es.Unambiguous := by
  intro s v w hv hw
  exact h s v w (List.mem_cons_of_mem e hv) (List.mem_cons_of_mem e hw)

/-- What is said about a setting after the first time is the same. -/
theorem Unambiguous.value?_tail {s : Setting} {v : Value} {es : Entries}
    (h : Entries.Unambiguous ((.str s.key, v) :: es)) :
    es.value? s = none ∨ es.value? s = some v := by
  cases hvalue : es.value? s with
  | none => exact .inl rfl
  | some w =>
    have hw : (.str s.key, w) ∈ (.str s.key, v) :: es :=
      List.mem_cons_of_mem _ (mem_of_value?_eq_some hvalue)
    rw [h s w v hw List.mem_cons_self]
    exact .inr rfl

end Entries

/-! ### The effective value is computed -/

/-- The value of an override, if it is not null. -/
def Entries.override? (overrides : Entries) (s : Setting) : Option Value :=
  (overrides.value? s).filter fun v => !v.isNull

theorem effective_eq (mapping overrides : Entries) (s : Setting) :
    effective mapping overrides s = (overrides.override? s <|> mapping.value? s) := rfl

theorem override?_eq_some_iff {overrides : Entries} (h : overrides.Unambiguous) {s : Setting}
    {v : Value} :
    overrides.override? s = some v ↔ (.str s.key, v) ∈ overrides ∧ v ≠ .null := by
  unfold Entries.override?
  rw [Option.filter_eq_some_iff, Entries.value?_eq_some_iff h, Bool.not_eq_true', ← Bool.not_eq_true,
    Value.isNull_iff]

theorem override?_eq_none_iff {overrides : Entries} (h : overrides.Unambiguous) {s : Setting} :
    overrides.override? s = none ↔ ∀ v, (.str s.key, v) ∈ overrides → v = .null := by
  rw [Option.eq_none_iff_forall_ne_some]
  simp only [ne_eq, override?_eq_some_iff h, not_and, not_not]

/-- Every setting has one effective value, or none, and it is the one that is computed. -/
theorem effective_iff {mapping overrides : Entries} (hm : mapping.Unambiguous)
    (ho : overrides.Unambiguous) {s : Setting} {v? : Option Value} :
    Effective mapping overrides s v? ↔ effective mapping overrides s = v? := by
  rw [effective_eq]
  constructor
  · intro h
    cases h with
    | override given value => rw [(override?_eq_some_iff ho).mpr ⟨given, value⟩]; rfl
    | mapping silent given =>
      rw [(override?_eq_none_iff ho).mpr silent, (Entries.value?_eq_some_iff hm).mpr given]
      rfl
    | nothing silent absent =>
      rw [(override?_eq_none_iff ho).mpr silent, Entries.value?_eq_none_iff.mpr absent]
      rfl
  · rintro rfl
    cases hover : overrides.override? s with
    | some v =>
      obtain ⟨hgiven, hvalue⟩ := (override?_eq_some_iff ho).mp hover
      exact .override hgiven hvalue
    | none =>
      have hsilent := (override?_eq_none_iff ho).mp hover
      cases hmap : mapping.value? s with
      | some v => exact .mapping hsilent (Entries.mem_of_value?_eq_some hmap)
      | none => exact .nothing hsilent (Entries.value?_eq_none_iff.mp hmap)

/-! ### What writing the overrides changes -/

theorem value?_put (s t : Setting) (v : Value) (es : Entries) :
    (es.put s v).value? t = if t = s then some v else es.value? t := by
  have hne : t ≠ s → Scalar.str s.key ≠ .str t.key := by
    intro h hkey
    exact h (Setting.key_injective (Text.ofString_inj.mp (Scalar.str.inj hkey))).symm
  induction es with
  | nil =>
    unfold Entries.put
    split
    · next h => rw [h, Entries.value?_cons_self]
    · next h => rw [Entries.value?_cons_of_ne (hne h)]
  | cons e es ih =>
    obtain ⟨k, w⟩ := e
    unfold Entries.put
    by_cases hk : k.isStr s.key = true
    · obtain rfl := Scalar.isStr_iff.mp hk
      rw [if_pos hk]
      split
      · next h => rw [h, Entries.value?_cons_self]
      · next h => rw [Entries.value?_cons_of_ne (hne h), Entries.value?_cons_of_ne (hne h)]
    · rw [if_neg hk]
      by_cases hkt : k = .str t.key
      · subst hkt
        have hts : t ≠ s := by
          rintro rfl
          exact hk (Scalar.isStr_iff.mpr rfl)
        rw [Entries.value?_cons_self, Entries.value?_cons_self, if_neg hts]
      · rw [Entries.value?_cons_of_ne hkt, Entries.value?_cons_of_ne hkt, ih]

theorem warnings_cons_setting (s : Setting) (v : Value) (es : Entries) :
    Entries.warnings ((.str s.key, v) :: es) = es.warnings := by
  have hknown : (Scalar.str s.key).isKnown = true := Scalar.isKnown_iff.mpr ⟨s, rfl⟩
  simp [Entries.warnings, hknown]

theorem warnings_cons_of_ne {k : Scalar} (h : ∀ s : Setting, k ≠ .str s.key) (v : Value)
    (es : Entries) : Entries.warnings ((k, v) :: es) = unknownKeyRecord k :: es.warnings := by
  have hunknown : k.isKnown = false := by
    rw [← Bool.not_eq_true, Scalar.isKnown_iff]
    exact not_exists.mpr h
  simp [Entries.warnings, hunknown]

theorem warnings_put (s : Setting) (v : Value) (es : Entries) : (es.put s v).warnings = es.warnings := by
  induction es with
  | nil => exact warnings_cons_setting s v []
  | cons e es ih =>
    obtain ⟨k, w⟩ := e
    unfold Entries.put
    split
    · next hk =>
      obtain rfl := Scalar.isStr_iff.mp hk
      rw [warnings_cons_setting, warnings_cons_setting]
    · by_cases hk : ∃ t : Setting, k = .str t.key
      · obtain ⟨t, rfl⟩ := hk
        rw [warnings_cons_setting, warnings_cons_setting, ih]
      · have hne : ∀ t : Setting, k ≠ .str t.key := not_exists.mp hk
        rw [warnings_cons_of_ne hne, warnings_cons_of_ne hne, ih]

theorem putOverride_setting (es : Entries) (s : Setting) (v : Value) :
    es.putOverride (.str s.key) v = if v.isNull then es else es.put s v := by
  unfold Entries.putOverride
  rw [Scalar.setting?_eq_some_iff.mpr rfl]

theorem value?_putOverride_of_ne (es : Entries) {k : Scalar} {s : Setting} (h : k ≠ .str s.key)
    (v : Value) : (es.putOverride k v).value? s = es.value? s := by
  unfold Entries.putOverride
  split
  · next t ht =>
    have hst : s ≠ t := by
      rintro rfl
      exact h (Scalar.setting?_eq_some_iff.mp ht)
    split
    · rfl
    · rw [value?_put, if_neg hst]
  · rfl

theorem warnings_putOverride (es : Entries) (k : Scalar) (v : Value) :
    (es.putOverride k v).warnings = es.warnings := by
  unfold Entries.putOverride
  split
  · split
    · rfl
    · exact warnings_put _ v es
  · rfl

theorem overridden_cons (mapping : Entries) (k : Scalar) (v : Value) (overrides : Entries) :
    mapping.overridden ((k, v) :: overrides) = (mapping.putOverride k v).overridden overrides := rfl

/-- The overrides are written one after the other, so the last one about a setting stays. -/
theorem value?_overridden {overrides : Entries} (h : overrides.Unambiguous) (mapping : Entries)
    (s : Setting) : (mapping.overridden overrides).value? s = effective mapping overrides s := by
  rw [effective_eq]
  induction overrides generalizing mapping with
  | nil => rfl
  | cons e overrides ih =>
    obtain ⟨k, v⟩ := e
    rw [overridden_cons, ih h.of_cons]
    unfold Entries.override?
    by_cases hk : k = .str s.key
    · subst hk
      rw [Entries.value?_cons_self, putOverride_setting]
      cases hnull : v.isNull with
      | true => rcases h.value?_tail with htail | htail <;> simp [Option.filter, htail, hnull]
      | false => rcases h.value?_tail with htail | htail <;> simp [Option.filter, htail, hnull, value?_put]
    · rw [Entries.value?_cons_of_ne hk, value?_putOverride_of_ne mapping hk]

theorem warnings_overridden (mapping overrides : Entries) :
    (mapping.overridden overrides).warnings = mapping.warnings := by
  induction overrides generalizing mapping with
  | nil => rfl
  | cons e overrides ih => rw [overridden_cons, ih, warnings_putOverride]

/-- Where nothing is overridden the mapping is effective. -/
theorem effective_of_null {overrides : Entries} {s : Setting}
    (h : ∀ v, overrides.value? s = some v → v.isNull = true) (mapping : Entries) :
    effective mapping overrides s = mapping.value? s := by
  rw [effective_eq]
  unfold Entries.override?
  cases hvalue : overrides.value? s with
  | none => rfl
  | some v => simp [Option.filter, h v hvalue]

/-! ### Warnings and requests -/

theorem warned_warnings (es : Entries) : Warned es es.warnings := by
  induction es with
  | nil => exact .nil
  | cons e es ih =>
    obtain ⟨k, v⟩ := e
    by_cases hk : ∃ s : Setting, k = .str s.key
    · obtain ⟨s, rfl⟩ := hk
      rw [warnings_cons_setting]
      exact .known s v ih
    · have hne : ∀ s : Setting, k ≠ .str s.key := not_exists.mp hk
      rw [warnings_cons_of_ne hne]
      exact .unknown v hne ih

theorem unambiguous_overrides (r : Command.Request) : r.overrides.Unambiguous := by
  have hvalue : ∀ (s : Setting) (v : Value), (.str s.key, v) ∈ r.overrides → v = r.value s := by
    intro s v hv
    simp only [Command.Request.overrides, List.mem_cons, Prod.mk.injEq, Scalar.str.injEq,
      List.not_mem_nil, or_false] at hv
    rcases hv with ⟨hs, rfl⟩ | ⟨hs, rfl⟩ | ⟨hs, rfl⟩ | ⟨hs, rfl⟩ | ⟨hs, rfl⟩ <;>
      (obtain rfl := Setting.key_injective (Text.ofString_inj.mp hs); rfl)
  intro s v w hv hw
  rw [hvalue s v hv, hvalue s w hw]

/-! ### Main statement -/

/-- **Settings depend on effective values alone**, be they settings or a fault.  To pass overrides is to
write them into the mapping, on the command line too, and there is one warning for each key of the
mapping that names no setting. -/
theorem resolved_by_effective_values (room : Nat) :
    (∀ mapping overrides mapping' overrides' : Entries, mapping.Unambiguous → overrides.Unambiguous →
      mapping'.Unambiguous → overrides'.Unambiguous →
      (∀ s v?, Effective mapping overrides s v? ↔ Effective mapping' overrides' s v?) →
      (resolve room mapping overrides).result = (resolve room mapping' overrides').result) ∧
    (∀ mapping overrides : Entries, overrides.Unambiguous →
      resolve room (mapping.overridden overrides) [] = resolve room mapping overrides) ∧
    (∀ (mapping : Entries) (r silent : Command.Request), (∀ s, silent.value s = .null) →
      resolve room (mapping.overridden r.overrides) silent.overrides = resolve room mapping r.overrides) ∧
    (∀ mapping overrides : Entries, Warned mapping (resolve room mapping overrides).log) := by
  -- Without overrides, and with those that say nothing, the overridden mapping is all there is.
  have hwritten : ∀ mapping overrides nothing : Entries, overrides.Unambiguous →
      (∀ s v, nothing.value? s = some v → v.isNull = true) →
      resolve room (mapping.overridden overrides) nothing = resolve room mapping overrides := by
    intro mapping overrides nothing ho hnothing
    have hvalues : effective (mapping.overridden overrides) nothing = effective mapping overrides := by
      funext s
      rw [effective_of_null (hnothing s), value?_overridden ho]
    unfold resolve
    rw [hvalues, warnings_overridden]
  refine ⟨?_, ?_, ?_, ?_⟩
  · intro mapping overrides mapping' overrides' hm ho hm' ho' hsame
    have hvalues : effective mapping overrides = effective mapping' overrides' := by
      funext s
      have hvalue := (hsame s _).mp ((effective_iff hm ho).mpr rfl)
      exact ((effective_iff hm' ho').mp hvalue).symm
    exact congrArg (Settings.ofValues room) hvalues
  · intro mapping overrides ho
    exact hwritten mapping overrides [] ho nofun
  · intro mapping r silent hsilent
    refine hwritten mapping r.overrides silent.overrides (unambiguous_overrides r) ?_
    intro s v hv
    rw [value?_overrides, hsilent s] at hv
    cases hv
    rfl
  · intro mapping overrides
    exact warned_warnings mapping

/-- A left job that is no path, and a key that names no setting. -/
def strangeMapping : Entries :=
  [(.str "threads", .scalar (.int 4)), (.str "left_job", .list []), (.str "right_job", .null)]

/-- A request that names the left job only. -/
def leftRequest : Command.Request :=
  ⟨some "a", none, none, none, none, none, false, false, none⟩

/-- What is wrong in the mapping is overridden, and the request might as well stand in the file. -/
theorem resolved_by_effective_values_strangeMapping :
    (∃ c, (resolve Value.usualRoom strangeMapping leftRequest.overrides).result = .ok c) ∧
      (resolve Value.usualRoom strangeMapping leftRequest.overrides).result =
        (resolve Value.usualRoom [(.str "right_job", .null), (.str "left_job", .str "a")] []).result ∧
      resolve Value.usualRoom (strangeMapping.overridden leftRequest.overrides) configRequest.overrides =
        resolve Value.usualRoom strangeMapping leftRequest.overrides := by
  obtain ⟨hsame, -, hrequest, -⟩ := resolved_by_effective_values Value.usualRoom
  have hstrange : strangeMapping.Unambiguous :=
    Entries.unambiguous_of_nodup (by simp [strangeMapping])
  have hplain : Entries.Unambiguous [(.str "right_job", .null), (.str "left_job", .str "a")] :=
    Entries.unambiguous_of_nodup (by simp)
  have hempty : Entries.Unambiguous [] := Entries.unambiguous_of_nodup List.nodup_nil
  have hsilent : ∀ s, configRequest.value s = .null := by
    intro s
    cases s <;> rfl
  have hvalues : ∀ s v?, Effective strangeMapping leftRequest.overrides s v? ↔
      Effective [(.str "right_job", .null), (.str "left_job", .str "a")] [] s v? := by
    intro s v?
    rw [effective_iff hstrange (unambiguous_overrides leftRequest), effective_iff hplain hempty]
    cases s <;> exact Iff.rfl
  refine ⟨⟨_, rfl⟩, ?_, hrequest strangeMapping leftRequest configRequest hsilent⟩
  exact hsame _ _ _ _ hstrange (unambiguous_overrides leftRequest) hplain hempty hvalues

end BenchCompare
