import BenchCompare.Proofs.File.Path
import BenchCompare.Proofs.Settings.Precedence

/-! # Settings that are resolved once more

  Settings that were made can be written as a mapping: each path as its text, the
  count as an integer, and the format as it is.  The same settings are made of this
  mapping, without a warning.  For the paths this is so since they are kept in
  normal form.

  * `Settings.value? c s`: the value of one of the settings, as it is written.
  * `Settings.entries c`: the mapping that holds all of them.

  Main statement: `settings_resolved_again`.
-/

namespace BenchCompare

namespace Settings

/-- A path as a value. -/
def pathValue (p : Path) : Value := .str p.text

/-- The value of one of the settings; a path that is not there has none. -/
def value? (c : Settings) : Setting → Option Value
  | .leftJob => c.leftJob.map pathValue
  | .rightJob => c.rightJob.map pathValue
  | .minCount => some (.scalar (.int c.minCount))
  | .format => some (.str c.format)
  | .output => c.output.map pathValue

/-- The mapping that holds the settings. -/
def entries (c : Settings) : Entries :=
  Setting.all.filterMap fun s => (c.value? s).map fun v => (.str s.key, v)

variable {c : Settings} {es : Entries}

/-! ### The mapping of settings -/

theorem mem_entries {k : Scalar} {v : Value} :
    (k, v) ∈ c.entries ↔ ∃ s : Setting, k = .str s.key ∧ c.value? s = some v := by
  simp only [entries, List.mem_filterMap, Option.map_eq_some_iff, Prod.mk.injEq]
  constructor
  · rintro ⟨s, -, _, hv, rfl, rfl⟩
    exact ⟨s, rfl, hv⟩
  · rintro ⟨s, rfl, hv⟩
    exact ⟨s, s.mem_all, v, hv, rfl, rfl⟩

theorem mem_entries_iff {s : Setting} {v : Value} :
    (.str s.key, v) ∈ c.entries ↔ c.value? s = some v := by
  rw [mem_entries]
  constructor
  · rintro ⟨s', hkey, hv⟩
    rwa [Setting.key_injective (Text.ofString_inj.mp (Scalar.str.inj hkey))]
  · exact fun hv => ⟨s, rfl, hv⟩

/-- The order of the entries makes no difference. -/
theorem value?_of_perm (h : es.Perm c.entries) (s : Setting) : es.value? s = c.value? s := by
  have hmem : ∀ (s : Setting) (v : Value), (.str s.key, v) ∈ es ↔ c.value? s = some v := by
    intro s v
    rw [h.mem_iff, mem_entries_iff]
  have hes : es.Unambiguous := by
    intro s v w hv hw
    exact Option.some.inj (((hmem s v).mp hv).symm.trans ((hmem s w).mp hw))
  ext v
  rw [Entries.value?_eq_some_iff hes, hmem]

/-- All keys name settings. -/
theorem warnings_of_perm (h : es.Perm c.entries) : es.warnings = [] := by
  unfold Entries.warnings
  rw [List.map_eq_nil_iff, List.filter_eq_nil_iff]
  rintro ⟨k, v⟩ hmem
  obtain ⟨s, rfl, -⟩ := mem_entries.mp (h.mem_iff.mp hmem)
  simpa using Scalar.isKnown_iff.mpr ⟨s, rfl⟩

/-! ### Values that are read again -/

/-- A path that was read is read again from its text. -/
theorem readPath_pathValue {v : Value} {p? : Option Path} (h : readPath v = .ok p?) :
    readPath ((p?.map pathValue).getD .null) = .ok p? := by
  unfold readPath at h
  split at h
  · cases h
    rfl
  · next s =>
    cases h
    show Except.ok (some (Path.ofText (Path.ofText s).text)) = _
    rw [Path.ofText_text_ofText]
  · cases h

/-- Settings that were made of values are made of their own values. -/
theorem ofValues_value? {room : Nat} {values : Setting → Option Value}
    (h : ofValues room values = .ok c) : ofValues room c.value? = .ok c := by
  obtain ⟨hleft, hright, houtput, -, -⟩ := ofValues_eq_ok_iff.mp h
  rw [ofValues_eq_ok_iff]
  exact ⟨readPath_pathValue hleft, readPath_pathValue hright, readPath_pathValue houtput, rfl, rfl⟩

end Settings

/-! ### Main statement -/

/-- **Settings are made of their own values again**, without a warning and with the same problems, and
paths are kept in the one form that is read back as it is. -/
theorem settings_resolved_again (room : Nat) (mapping overrides : Entries) (c : Settings)
    (h : (resolve room mapping overrides).result = .ok c) :
    (∀ es : Entries, es.Perm c.entries → resolve room es [] = ⟨[], .ok c⟩ ∧
      ∀ c', (resolve room es []).result = .ok c' →
        c'.problems = c.problems ∧ c'.canBeWorded = c.canBeWorded) ∧
    (∀ s p, Path.ofText s = p ↔ Path.NormalForm s p) ∧
    ∀ s p, Path.NormalForm s p → Path.NormalForm p.text p := by
  refine ⟨?_, fun _ _ => Path.ofText_eq_iff, ?_⟩
  · intro es hperm
    -- Without overrides the mapping is effective.
    have hsilent : ∀ (s : Setting) (v : Value), Entries.value? [] s = some v → v.isNull = true := nofun
    have hvalues : effective es [] = c.value? := by
      funext s
      rw [effective_of_null (hsilent s), Settings.value?_of_perm hperm]
    have hresolve : resolve room es [] = ⟨[], .ok c⟩ := by
      unfold resolve
      rw [hvalues, Settings.ofValues_value? h, Settings.warnings_of_perm hperm]
    refine ⟨hresolve, ?_⟩
    intro c' hc'
    rw [hresolve] at hc'
    cases hc'
    exact ⟨rfl, rfl⟩
  · rintro s p hform
    obtain rfl := Path.ofText_eq_iff.mpr hform
    exact Path.ofText_eq_iff.mp (Path.ofText_text_ofText s)

/-- A mapping with values that are not in the form they are kept in. -/
def looseMapping : Entries :=
  [(.str "output", .str ""), (.str "threads", .null), (.str "output_format", .scalar (.bool true)),
    (.str "min_allowed_request_count", .str " 1_0 "), (.str "left_job", .str "///a//./../b/")]

/-- Overrides with a path that has exactly two slashes in front. -/
def looseOverrides : Entries := [(.str "right_job", .str "//b"), (.str "output", .null)]

/-- The settings that are made of both. -/
def looseSettings : Settings :=
  ⟨some ⟨1, ["a", "..", "b"]⟩, some ⟨2, ["b"]⟩, 10, "True", some ⟨0, []⟩⟩

theorem settings_resolved_again_looseSettings :
    (resolve Value.usualRoom looseMapping looseOverrides).result = .ok looseSettings ∧
      resolve Value.usualRoom [(.str "output", .str "."), (.str "output_format", .str "True"),
        (.str "min_allowed_request_count", .scalar (.int 10)), (.str "right_job", .str "//b"),
        (.str "left_job", .str "/a/../b")] [] = ⟨[], .ok looseSettings⟩ := by
  have hresolve : (resolve Value.usualRoom looseMapping looseOverrides).result = .ok looseSettings := by
    cbv
  obtain ⟨hagain, -⟩ := settings_resolved_again Value.usualRoom looseMapping looseOverrides
    looseSettings hresolve
  refine ⟨hresolve, ?_⟩
  have hentries : looseSettings.entries.reverse = [(.str "output", .str "."),
      (.str "output_format", .str "True"), (.str "min_allowed_request_count", .scalar (.int 10)),
      (.str "right_job", .str "//b"), (.str "left_job", .str "/a/../b")] := by
    cbv
  rw [← hentries]
  exact (hagain _ (List.reverse_perm _)).1

end BenchCompare
