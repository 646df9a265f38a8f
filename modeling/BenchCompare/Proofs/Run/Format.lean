import BenchCompare.Proofs.Decimal.Overflow
import BenchCompare.Run.Decode

/-! # The format of run documents

  The decoder of runs is lenient: it asks what a value can be used as, and tells
  the kinds of values apart only where it must.  Here the format that comes out
  of this is written down without the decoder, twice:

  * what a document says: `Json.Number`, `Json.Item`, `Json.Group`, `Json.Tests`
    relate values to what they are read as,
  * which documents are runs: `Json.IsNumber`, `Json.IsItem`, `Json.IsGroup`,
    `Json.IsRun`.

  Main statement: `Run.decode_exact`.  A document is decoded exactly if it is a
  run, the result is what it says, and fields that the format does not know make
  no difference.
-/

namespace BenchCompare

namespace Json

/-! ### What a document says -/

/-- A value that counts as missing. -/
inductive Missing : Json → Prop
  | null : Missing .null
  | false : Missing (.bool .false)
  | int : Missing (.int 0)
  | float {x : Float} (zero : (x == 0) = true) : Missing (.float x)
  | str : Missing (.str "")
  | arr : Missing (.arr [])
  | obj : Missing (.obj [])

/-- A value is read as a number. -/
inductive Number : Json → Float → Prop
  | null : Number .null nan
  | bool (b : Bool) : Number (.bool b) (if b then 1 else 0)
  | int {n : Int} (bounded : n.natAbs < Decimal.overflow) :
      Number (.int n) (if n < 0 then -Float.ofNat n.natAbs else Float.ofNat n.natAbs)
  | float (x : Float) : Number (.float x) x
  | str {s : String} {x : Float} (numeral : Decimal.readNumber s = some x) : Number (.str s) x

/-- A value is read as a label. -/
inductive Label : Json → Text → Prop
  | null : Label .null ""
  | text {j : Json} (given : j ≠ .null) : Label j j.text

/-- A value is read as named entries, one for each field, in the same order. -/
inductive Entries {β : Type} (R : Json → β → Prop) : Json → List (Text × β) → Prop
  | missing {j : Json} (h : j.Missing) : Entries R j []
  | fields {es : List (Text × Json)} {xs : List (Text × β)}
      (each : List.Forall₂ (fun e x => e.1 = x.1 ∧ R e.2 x.2) es xs) : Entries R (.obj es) xs

/-- A value is read as a list, one element for each of its own. -/
inductive Elements {β : Type} (R : Json → β → Prop) : Json → List β → Prop
  | missing {j : Json} (h : j.Missing) : Elements R j []
  | items {js : List Json} {xs : List β} (each : List.Forall₂ R js xs) : Elements R (.arr js) xs

/-- A value is taken as it is, or as something else if it is missing. -/
inductive Given {β : Type} (otherwise : β) (taken : Json → β) : Json → β → Prop
  | missing {j : Json} (h : j.Missing) : Given otherwise taken j otherwise
  | given {j : Json} (h : ¬ j.Missing) : Given otherwise taken j (taken j)

/-- An object is read as a data item. -/
inductive Item : Json → DataItem → Prop
  | fields {es : List (Text × Json)} {item : DataItem}
      (values : Entries Number (lookup "data" es) item.values)
      (unit : Given (.str "") id (lookup "unit" es) item.unit)
      (labels : Entries Label (lookup "labels" es) item.labels) : Item (.obj es) item

/-- An object is read as a group of data items. -/
inductive Group : Json → PerfData → Prop
  | fields {es : List (Text × Json)} {group : PerfData}
      (version : Given ("" : Text) text (lookup "version" es) group.version)
      (items : Elements Item (lookup "dataItems" es) group.items)
      (labels : Entries Label (lookup "labels" es) group.labels) : Group (.obj es) group

/-- A value is read as the groups of a test.  A single group may stand for a list of one. -/
inductive Groups : Json → List PerfData → Prop
  | single {es : List (Text × Json)} {group : PerfData} (h : Group (.obj es) group) :
      Groups (.obj es) [group]
  | list {js : List Json} {groups : List PerfData} (each : List.Forall₂ Group js groups) :
      Groups (.arr js) groups

/-- An object is read as a run, one test for each field, in the same order. -/
inductive Tests : Json → Run → Prop
  | fields {es : List (Text × Json)} {run : Run}
      (each : List.Forall₂ (fun e x => e.1 = x.1 ∧ Groups e.2 x.2) es run) : Tests (.obj es) run

/-! ### Which documents are runs -/

/-- A value that can be read as a number. -/
inductive IsNumber : Json → Prop
  | null : IsNumber .null
  | bool (b : Bool) : IsNumber (.bool b)
  | int {n : Int} (bounded : n.natAbs < Decimal.overflow) : IsNumber (.int n)
  | float (x : Float) : IsNumber (.float x)
  | str {s : String} (numeral : (Decimal.readNumber s).isSome) : IsNumber (.str s)

/-- An object whose values are all of a sort, or a missing value. -/
def IsEntries (P : Json → Prop) (j : Json) : Prop :=
  j.Missing ∨ ∃ es, j = .obj es ∧ ∀ e ∈ es, P e.2

/-- An array whose elements are all of a sort, or a missing value. -/
def IsElements (P : Json → Prop) (j : Json) : Prop :=
  j.Missing ∨ ∃ js, j = .arr js ∧ ∀ x ∈ js, P x

/-- An object that can be read as a data item. -/
def IsItem (j : Json) : Prop :=
  ∃ es, j = .obj es ∧ IsEntries IsNumber (lookup "data" es) ∧
    IsEntries (fun _ => True) (lookup "labels" es)

/-- An object that can be read as a group of data items. -/
def IsGroup (j : Json) : Prop :=
  ∃ es, j = .obj es ∧ IsElements IsItem (lookup "dataItems" es) ∧
    IsEntries (fun _ => True) (lookup "labels" es)

/-- An object that can be read as a run. -/
def IsRun (j : Json) : Prop :=
  ∃ es, j = .obj es ∧ ∀ e ∈ es, e.2.IsGroup ∨ ∃ js, e.2 = .arr js ∧ ∀ x ∈ js, x.IsGroup

/-! ### Fields that the format does not know -/

/-- An object without its other fields. -/
def restrict (names : List Text) : Json → Json
  | .obj es => .obj (es.filter fun e => e.1 ∈ names)
  | j => j

/-- An array with each element changed. -/
def mapElements (f : Json → Json) : Json → Json
  | .arr js => .arr (js.map f)
  | j => j

/-- An object with each value changed. -/
def mapFields (f : Text → Json → Json) : Json → Json
  | .obj es => .obj (es.map fun e => (e.1, f e.1 e.2))
  | j => j

/-- A data item without unknown fields. -/
def itemEssence : Json → Json := restrict ["data", "unit", "labels"]

/-- A field of a group, without unknown fields in data items. -/
def groupField (name : Text) (v : Json) : Json :=
  if name = "dataItems" then v.mapElements itemEssence else v

/-- A group without unknown fields. -/
def groupEssence (j : Json) : Json :=
  (j.restrict ["version", "dataItems", "labels"]).mapFields groupField

/-- A run without unknown fields. -/
def essence : Json → Json :=
  mapFields fun _ v => (v.mapElements groupEssence).groupEssence

end Json

/-! ### Decoding in sequence -/

theorem bind_eq_ok {ε α β : Type} {x : Except ε α} {f : α → Except ε β} {b : β} :
    (x >>= f) = .ok b ↔ ∃ a, x = .ok a ∧ f a = .ok b := by
  cases x with
  | ok a => exact ⟨fun h => ⟨a, rfl, h⟩, fun ⟨_, ha, h⟩ => by cases ha; exact h⟩
  | error e => exact ⟨nofun, fun ⟨_, ha, _⟩ => nomatch ha⟩

/-- A list is decoded as its elements are. -/
theorem mapM_eq_ok {ε α β : Type} {f : α → Except ε β} {R : α → β → Prop}
    (hf : ∀ a b, f a = .ok b ↔ R a b) (as : List α) (bs : List β) :
    as.mapM f = .ok bs ↔ List.Forall₂ R as bs := by
  induction as generalizing bs with
  | nil =>
    rw [List.mapM_nil, List.forall₂_nil_left_iff]
    exact ⟨fun h => by cases h; rfl, fun h => by rw [h]; rfl⟩
  | cons a as ih =>
    rw [List.mapM_cons, List.forall₂_cons_left_iff, bind_eq_ok]
    constructor
    · intro h
      obtain ⟨b, hb, h⟩ := h
      obtain ⟨bs', hbs, h⟩ := bind_eq_ok.mp h
      cases h
      exact ⟨b, bs', (hf a b).mp hb, (ih bs').mp hbs, rfl⟩
    · intro h
      obtain ⟨b, bs', hb, hbs, rfl⟩ := h
      refine ⟨b, (hf a b).mpr hb, ?_⟩
      rw [(ih bs').mpr hbs]
      rfl

/-- Each result has a value that it comes from. -/
theorem exists_mem_of_forall₂ {α β : Type} {R : α → β → Prop} {as : List α} {bs : List β}
    (h : List.Forall₂ R as bs) {b : β} (hb : b ∈ bs) : ∃ a ∈ as, R a b := by
  induction h with
  | nil => cases hb
  | cons hhead _ ih =>
    rcases List.mem_cons.mp hb with rfl | hb
    · exact ⟨_, List.mem_cons_self, hhead⟩
    · obtain ⟨a, ha, hab⟩ := ih hb
      exact ⟨a, List.mem_cons_of_mem _ ha, hab⟩

/-- The values of an object are decoded under their names. -/
theorem mapM_fields_eq_ok {ε β : Type} {f : Text → Json → Except ε β} {R : Json → β → Prop}
    (hf : ∀ name j x, f name j = .ok x ↔ R j x) (es : List (Text × Json))
    (xs : List (Text × β)) :
    (es.mapM fun e => return (e.1, ← f e.1 e.2)) = .ok xs ↔
      List.Forall₂ (fun e x => e.1 = x.1 ∧ R e.2 x.2) es xs := by
  apply mapM_eq_ok
  intro e x
  obtain ⟨name, j⟩ := e
  obtain ⟨name', x⟩ := x
  rw [bind_eq_ok]
  constructor
  · intro h
    obtain ⟨y, hy, h⟩ := h
    cases h
    exact ⟨rfl, (hf name j x).mp hy⟩
  · intro h
    obtain ⟨hname, hx⟩ := h
    obtain rfl : name = name' := hname
    exact ⟨x, (hf name j x).mpr hx, rfl⟩

/-! ### Parts of records -/

theorem Json.missing_iff (j : Json) : j.Missing ↔ j.isBlank = true := by
  constructor
  · intro h
    cases h with
    | float zero => exact zero
    | _ => rfl
  · intro h
    cases j with
    | null => exact .null
    | bool b =>
      cases b with
      | false => exact .false
      | true => cases h
    | int n =>
      obtain rfl : n = 0 := of_decide_eq_true h
      exact .int
    | float x => exact .float h
    | str s =>
      obtain rfl : s = "" := Text.isEmpty_iff.mp h
      exact .str
    | arr js =>
      obtain rfl : js = [] := List.isEmpty_iff.mp h
      exact .arr
    | obj es =>
      obtain rfl : es = [] := List.isEmpty_iff.mp h
      exact .obj

theorem nearestFloat_eq_ok (n : Int) (x : Float) :
    nearestFloat n = .ok x ↔ Json.Number (.int n) x := by
  unfold nearestFloat
  dsimp only
  split
  · next hinf =>
    rw [Decimal.isInf_ofNat_iff] at hinf
    refine ⟨nofun, ?_⟩
    intro h
    cases h with
    | int bounded => omega
  · next hfin =>
    rw [Decimal.isInf_ofNat_iff] at hfin
    constructor
    · intro h
      cases h
      exact .int (by omega)
    · intro h
      cases h with
      | int bounded => rfl

theorem decodeNumber_eq_ok (j : Json) (x : Float) : decodeNumber j = .ok x ↔ j.Number x := by
  cases j with
  | null => exact ⟨fun h => by cases h; exact .null, fun h => by cases h; rfl⟩
  | bool b => exact ⟨fun h => by cases h; exact .bool b, fun h => by cases h; rfl⟩
  | int n => exact nearestFloat_eq_ok n x
  | float y => exact ⟨fun h => by cases h; exact .float _, fun h => by cases h; rfl⟩
  | str s =>
    simp only [decodeNumber]
    constructor
    · intro h
      cases hs : s.encode.toOption.bind Decimal.readNumber with
      | some y =>
        rw [hs] at h
        cases h
        obtain ⟨numeral, hnumeral, hy⟩ := Option.bind_eq_some_iff.mp hs
        rw [Text.toOption_encode_eq_some_iff] at hnumeral
        subst hnumeral
        exact .str hy
      | none =>
        rw [hs] at h
        cases h
    · intro h
      cases h with
      | str hs => rw [Text.encode_ofString, Except.toOption, Option.bind_some, hs]
  | arr js => exact iff_of_false (fun h => by cases h) (fun h => by cases h)
  | obj es => exact iff_of_false (fun h => by cases h) (fun h => by cases h)

theorem label_iff (j : Json) (s : Text) : j.Label s ↔ labelText j = s := by
  cases j with
  | null =>
    constructor
    · intro h
      cases h with
      | null => rfl
      | text given => exact absurd rfl given
    · intro h
      subst h
      exact .null
  | _ =>
    constructor
    · intro h
      cases h
      rfl
    · intro h
      subst h
      exact .text nofun

/-- Named entries are decoded as the fields of an object, which may be missing. -/
theorem decodeEntries_bind_eq_ok {β : Type} {R : Json → β → Prop}
    {f : List (Text × Json) → Except RecordFault (List (Text × β))}
    (hf : ∀ es xs, f es = .ok xs ↔ List.Forall₂ (fun e x => e.1 = x.1 ∧ R e.2 x.2) es xs)
    (j : Json) (xs : List (Text × β)) : (decodeEntries j >>= f) = .ok xs ↔ j.Entries R xs := by
  rw [bind_eq_ok]
  unfold decodeEntries
  constructor
  · intro h
    obtain ⟨es, hes, hxs⟩ := h
    rw [hf] at hxs
    split at hes
    · next hblank =>
      cases hes
      cases hxs
      exact .missing (j.missing_iff.mpr hblank)
    · cases j with
      | obj es' =>
        cases hes
        exact .fields hxs
      | _ => cases hes
  · intro h
    cases h with
    | missing hj => exact ⟨[], if_pos (j.missing_iff.mp hj), (hf [] []).mpr .nil⟩
    | @fields es _ each =>
      refine ⟨es, ?_, (hf es xs).mpr each⟩
      cases es <;> rfl

theorem decodeValues_eq_ok (j : Json) (xs : List (Text × Float)) :
    decodeValues j = .ok xs ↔ j.Entries Json.Number xs :=
  decodeEntries_bind_eq_ok (mapM_fields_eq_ok fun _ => decodeNumber_eq_ok) j xs

theorem decodeLabels_eq_ok (j : Json) (xs : List (Text × Text)) :
    decodeLabels j = .ok xs ↔ j.Entries Json.Label xs := by
  apply decodeEntries_bind_eq_ok
  intro es xs
  have heq : ∀ (e : Text × Json) (x : Text × Text),
      (e.1, labelText e.2) = x ↔ e.1 = x.1 ∧ e.2.Label x.2 := by
    intro e x
    obtain ⟨name, text⟩ := x
    rw [Prod.mk.injEq, label_iff]
  simp only [← heq]
  rw [← List.forall₂_map_left_iff, List.forall₂_eq_eq_eq]
  exact ⟨fun h => by cases h; rfl, fun h => congrArg Except.ok h⟩

theorem given_iff {β : Type} (otherwise : β) (taken : Json → β) (j : Json) (b : β) :
    j.Given otherwise taken b ↔ (if j.isBlank then otherwise else taken j) = b := by
  constructor
  · intro h
    cases h with
    | missing hj => exact if_pos (j.missing_iff.mp hj)
    | given hj => exact if_neg (mt j.missing_iff.mpr hj)
  · intro h
    subst h
    split
    · next hblank => exact .missing (j.missing_iff.mpr hblank)
    · next hgiven => exact .given (mt j.missing_iff.mp hgiven)

/-! ### Records -/

theorem DataItem.decode_eq_ok (j : Json) (item : DataItem) :
    DataItem.decode j = .ok item ↔ j.Item item := by
  cases j with
  | obj es =>
    simp only [DataItem.decode, bind_eq_ok, decodeValues_eq_ok, decodeLabels_eq_ok]
    constructor
    · intro h
      obtain ⟨values, hvalues, labels, hlabels, h⟩ := h
      cases h
      exact .fields hvalues ((given_iff _ _ _ _).mpr rfl) hlabels
    · intro h
      obtain ⟨hvalues, hunit, hlabels⟩ := h
      refine ⟨item.values, hvalues, item.labels, hlabels, ?_⟩
      rw [given_iff] at hunit
      simp only [id] at hunit
      rw [hunit]
      rfl
  | _ => exact ⟨nofun, nofun⟩

theorem decodeItems_eq_ok (j : Json) (items : List DataItem) :
    decodeItems j = .ok items ↔ j.Elements Json.Item items := by
  have hmapM := mapM_eq_ok DataItem.decode_eq_ok
  unfold decodeItems
  constructor
  · intro h
    split at h
    · next hblank =>
      cases h
      exact .missing (j.missing_iff.mpr hblank)
    · cases j with
      | arr js => exact .items ((hmapM js items).mp h)
      | _ => cases h
  · intro h
    cases h with
    | missing hj => exact if_pos (j.missing_iff.mp hj)
    | @items js _ each =>
      rw [← hmapM] at each
      cases js with
      | nil => exact each
      | cons j js => exact each

theorem PerfData.decode_eq_ok (j : Json) (group : PerfData) :
    PerfData.decode j = .ok group ↔ j.Group group := by
  cases j with
  | obj es =>
    simp only [PerfData.decode, bind_eq_ok, decodeItems_eq_ok, decodeLabels_eq_ok]
    constructor
    · intro h
      obtain ⟨items, hitems, labels, hlabels, h⟩ := h
      cases h
      exact .fields ((given_iff _ _ _ _).mpr rfl) hitems hlabels
    · intro h
      obtain ⟨hversion, hitems, hlabels⟩ := h
      refine ⟨group.items, hitems, group.labels, hlabels, ?_⟩
      rw [given_iff] at hversion
      rw [hversion]
      rfl
  | _ => exact ⟨nofun, nofun⟩

theorem decodeGroup_eq_ok (test : Text) (j : Json) (group : PerfData) :
    decodeGroup test j = .ok group ↔ j.Group group := by
  cases j with
  | obj es =>
    rw [← PerfData.decode_eq_ok]
    simp only [decodeGroup]
    cases PerfData.decode (.obj es) with
    | ok g => exact ⟨fun h => by cases h; rfl, fun h => by cases h; rfl⟩
    | error e => exact ⟨nofun, nofun⟩
  | _ => exact ⟨nofun, nofun⟩

theorem decodeGroups_eq_ok (test : Text) (j : Json) (groups : List PerfData) :
    decodeGroups test j = .ok groups ↔ j.Groups groups := by
  cases j with
  | obj es =>
    simp only [decodeGroups, bind_eq_ok, decodeGroup_eq_ok]
    constructor
    · intro h
      obtain ⟨group, hgroup, h⟩ := h
      cases h
      exact .single hgroup
    · intro h
      cases h with
      | single hgroup => exact ⟨_, hgroup, rfl⟩
  | arr js =>
    rw [show decodeGroups test (.arr js) = js.mapM (decodeGroup test) from rfl,
      mapM_eq_ok (decodeGroup_eq_ok test)]
    constructor
    · exact .list
    · intro h
      cases h with
      | list each => exact each
  | _ => exact ⟨nofun, nofun⟩

/-- The decoder returns what the document says. -/
theorem Run.decode_eq_ok (j : Json) (run : Run) : Run.decode j = .ok run ↔ j.Tests run := by
  cases j with
  | obj es =>
    rw [show Run.decode (.obj es) = es.mapM fun e => return (e.1, ← decodeGroups e.1 e.2) from rfl,
      mapM_fields_eq_ok decodeGroups_eq_ok]
    constructor
    · exact .fields
    · intro h
      cases h with
      | fields each => exact each
  | _ => exact ⟨nofun, nofun⟩

/-! ### Acceptance -/

theorem exists_forall₂_iff {α β : Type} {R : α → β → Prop} (as : List α) :
    (∃ bs, List.Forall₂ R as bs) ↔ ∀ a ∈ as, ∃ b, R a b := by
  induction as with
  | nil => exact iff_of_true ⟨[], .nil⟩ nofun
  | cons a as ih =>
    rw [List.forall_mem_cons, ← ih]
    constructor
    · intro h
      obtain ⟨_, _ | ⟨hb, hbs⟩⟩ := h
      exact ⟨⟨_, hb⟩, _, hbs⟩
    · intro h
      obtain ⟨⟨b, hb⟩, bs, hbs⟩ := h
      exact ⟨b :: bs, .cons hb hbs⟩

theorem exists_forall₂_fields_iff {β : Type} {R : Json → β → Prop} (es : List (Text × Json)) :
    (∃ xs : List (Text × β), List.Forall₂ (fun e x => e.1 = x.1 ∧ R e.2 x.2) es xs) ↔
      ∀ e ∈ es, ∃ x, R e.2 x := by
  rw [exists_forall₂_iff]
  constructor
  · intro h e he
    obtain ⟨x, -, hx⟩ := h e he
    exact ⟨x.2, hx⟩
  · intro h e he
    obtain ⟨x, hx⟩ := h e he
    exact ⟨(e.1, x), rfl, hx⟩

namespace Json

theorem exists_number_iff (j : Json) : (∃ x, j.Number x) ↔ j.IsNumber := by
  constructor
  · intro h
    obtain ⟨x, hx⟩ := h
    cases hx with
    | null => exact .null
    | bool b => exact .bool b
    | int hbounded => exact .int hbounded
    | float => exact .float x
    | str hs => exact .str (Option.isSome_of_eq_some hs)
  · intro h
    cases h with
    | null => exact ⟨_, .null⟩
    | bool b => exact ⟨_, .bool b⟩
    | int hbounded => exact ⟨_, .int hbounded⟩
    | float x => exact ⟨_, .float x⟩
    | str hs =>
      obtain ⟨x, hx⟩ := Option.isSome_iff_exists.mp hs
      exact ⟨x, .str hx⟩

theorem exists_label_iff (j : Json) : (∃ s, j.Label s) ↔ True :=
  iff_true_intro ⟨labelText j, (label_iff j _).mpr rfl⟩

theorem exists_given {β : Type} (otherwise : β) (taken : Json → β) (j : Json) :
    ∃ b, j.Given otherwise taken b := ⟨_, (given_iff otherwise taken j _).mpr rfl⟩

theorem exists_entries_iff {β : Type} {R : Json → β → Prop} {P : Json → Prop}
    (h : ∀ j, (∃ x, R j x) ↔ P j) (j : Json) : (∃ xs, j.Entries R xs) ↔ j.IsEntries P := by
  constructor
  · intro hj
    obtain ⟨xs, hxs⟩ := hj
    cases hxs with
    | missing hj => exact .inl hj
    | @fields es _ each =>
      have hes := (exists_forall₂_fields_iff es).mp ⟨xs, each⟩
      exact .inr ⟨es, rfl, fun e he => (h e.2).mp (hes e he)⟩
  · intro hj
    rcases hj with hj | ⟨es, rfl, hes⟩
    · exact ⟨[], .missing hj⟩
    · obtain ⟨xs, each⟩ :=
        (exists_forall₂_fields_iff es).mpr fun e he => (h e.2).mpr (hes e he)
      exact ⟨xs, .fields each⟩

theorem exists_elements_iff {β : Type} {R : Json → β → Prop} {P : Json → Prop}
    (h : ∀ j, (∃ x, R j x) ↔ P j) (j : Json) : (∃ xs, j.Elements R xs) ↔ j.IsElements P := by
  constructor
  · intro hj
    obtain ⟨xs, hxs⟩ := hj
    cases hxs with
    | missing hj => exact .inl hj
    | @items js _ each =>
      have hjs := (exists_forall₂_iff js).mp ⟨xs, each⟩
      exact .inr ⟨js, rfl, fun x hx => (h x).mp (hjs x hx)⟩
  · intro hj
    rcases hj with hj | ⟨js, rfl, hjs⟩
    · exact ⟨[], .missing hj⟩
    · obtain ⟨xs, each⟩ := (exists_forall₂_iff js).mpr fun x hx => (h x).mpr (hjs x hx)
      exact ⟨xs, .items each⟩

theorem exists_item_iff (j : Json) : (∃ item, j.Item item) ↔ j.IsItem := by
  unfold IsItem
  simp only [← exists_entries_iff exists_number_iff, ← exists_entries_iff exists_label_iff]
  constructor
  · intro h
    obtain ⟨item, hvalues, -, hlabels⟩ := h
    exact ⟨_, rfl, ⟨_, hvalues⟩, _, hlabels⟩
  · intro h
    obtain ⟨es, rfl, ⟨values, hvalues⟩, labels, hlabels⟩ := h
    obtain ⟨unit, hunit⟩ := exists_given (.str "") id (lookup "unit" es)
    exact ⟨⟨values, unit, labels⟩, .fields hvalues hunit hlabels⟩

theorem exists_group_iff (j : Json) : (∃ group, j.Group group) ↔ j.IsGroup := by
  unfold IsGroup
  simp only [← exists_elements_iff exists_item_iff, ← exists_entries_iff exists_label_iff]
  constructor
  · intro h
    obtain ⟨group, -, hitems, hlabels⟩ := h
    exact ⟨_, rfl, ⟨_, hitems⟩, _, hlabels⟩
  · intro h
    obtain ⟨es, rfl, ⟨items, hitems⟩, labels, hlabels⟩ := h
    obtain ⟨version, hversion⟩ := exists_given ("" : Text) text (lookup "version" es)
    exact ⟨⟨version, items, labels⟩, .fields hversion hitems hlabels⟩

theorem exists_groups_iff (j : Json) :
    (∃ groups, j.Groups groups) ↔ j.IsGroup ∨ ∃ js, j = .arr js ∧ ∀ x ∈ js, x.IsGroup := by
  simp only [← exists_group_iff]
  constructor
  · intro h
    obtain ⟨groups, hgroups⟩ := h
    cases hgroups with
    | single hgroup => exact .inl ⟨_, hgroup⟩
    | list each => exact .inr ⟨_, rfl, (exists_forall₂_iff _).mp ⟨_, each⟩⟩
  · intro h
    rcases h with ⟨group, hgroup⟩ | ⟨js, rfl, hjs⟩
    · cases hgroup with
      | fields hversion hitems hlabels => exact ⟨[group], .single (.fields hversion hitems hlabels)⟩
    · obtain ⟨groups, each⟩ := (exists_forall₂_iff js).mpr hjs
      exact ⟨groups, .list each⟩

theorem exists_tests_iff (j : Json) : (∃ run, j.Tests run) ↔ j.IsRun := by
  unfold IsRun
  simp only [← exists_groups_iff]
  constructor
  · intro h
    obtain ⟨run, ⟨each⟩⟩ := h
    exact ⟨_, rfl, (exists_forall₂_fields_iff _).mp ⟨_, each⟩⟩
  · intro h
    obtain ⟨es, rfl, hes⟩ := h
    obtain ⟨run, each⟩ := (exists_forall₂_fields_iff es).mpr hes
    exact ⟨run, .fields each⟩

/-! ### Unknown fields -/

theorem lookup_filter {names : List Text} {name : Text} (h : name ∈ names)
    (es : List (Text × Json)) :
    lookup name (es.filter fun e => e.1 ∈ names) = lookup name es := by
  unfold lookup
  congr 1
  induction es with
  | nil => rfl
  | cons e es ih =>
    obtain ⟨name', v⟩ := e
    by_cases hmem : name' ∈ names
    · rw [List.filter_cons_of_pos (by simpa using hmem), List.lookup_cons, List.lookup_cons, ih]
    · have hne : (name == name') = false := beq_false_of_ne fun heq => hmem (heq ▸ h)
      rw [List.filter_cons_of_neg (by simpa using hmem), List.lookup_cons, hne, ih]

theorem lookup_map (f : Text → Json → Json) {name : Text} (h : f name null = null)
    (es : List (Text × Json)) :
    lookup name (es.map fun e => (e.1, f e.1 e.2)) = f name (lookup name es) := by
  unfold lookup
  induction es with
  | nil => exact h.symm
  | cons e es ih =>
    obtain ⟨name', v⟩ := e
    rw [List.map_cons, List.lookup_cons, List.lookup_cons]
    by_cases heq : name = name'
    · subst heq
      rw [beq_self_eq_true]
      rfl
    · rw [beq_false_of_ne heq]
      exact ih

theorem lookup_groupField {names : List Text} {name : Text} (h : name ∈ names)
    (es : List (Text × Json)) :
    lookup name ((es.filter fun e => e.1 ∈ names).map fun e => (e.1, groupField e.1 e.2)) =
      groupField name (lookup name es) := by
  have hnull : groupField name null = null := by
    unfold groupField
    split <;> rfl
  rw [lookup_map groupField hnull, lookup_filter h]

theorem isBlank_mapElements (f : Json → Json) (j : Json) :
    (j.mapElements f).isBlank = j.isBlank := by
  cases j with
  | arr js => cases js <;> rfl
  | _ => rfl

end Json

theorem DataItem.decode_itemEssence (j : Json) :
    DataItem.decode j.itemEssence = DataItem.decode j := by
  cases j with
  | obj es =>
    simp only [Json.itemEssence, Json.restrict, DataItem.decode]
    rw [Json.lookup_filter (by decide), Json.lookup_filter (by decide),
      Json.lookup_filter (by decide)]
  | _ => rfl

theorem decodeItems_mapElements (j : Json) :
    decodeItems (j.mapElements Json.itemEssence) = decodeItems j := by
  unfold decodeItems
  rw [Json.isBlank_mapElements]
  cases j with
  | arr js =>
    simp only [Json.mapElements, List.mapM_map]
    rw [show DataItem.decode ∘ Json.itemEssence = DataItem.decode from
      funext DataItem.decode_itemEssence]
  | _ => rfl

theorem PerfData.decode_groupEssence (j : Json) :
    PerfData.decode j.groupEssence = PerfData.decode j := by
  cases j with
  | obj es =>
    have hversion : ∀ v, Json.groupField "version" v = v := fun v => if_neg (by decide)
    have hitems : ∀ v, Json.groupField "dataItems" v = v.mapElements Json.itemEssence :=
      fun v => if_pos rfl
    have hlabels : ∀ v, Json.groupField "labels" v = v := fun v => if_neg (by decide)
    simp only [Json.groupEssence, Json.restrict, Json.mapFields, PerfData.decode]
    rw [Json.lookup_groupField (by decide), Json.lookup_groupField (by decide),
      Json.lookup_groupField (by decide), hversion, hitems, hlabels, decodeItems_mapElements]
  | _ => rfl

theorem decodeGroup_groupEssence (test : Text) (j : Json) :
    decodeGroup test j.groupEssence = decodeGroup test j := by
  cases j with
  | obj es => exact congrArg (Except.mapError _) (PerfData.decode_groupEssence (.obj es))
  | _ => rfl

theorem decodeGroups_essence (test : Text) (j : Json) :
    decodeGroups test (j.mapElements Json.groupEssence).groupEssence = decodeGroups test j := by
  cases j with
  | obj es =>
    have h := decodeGroup_groupEssence test (.obj es)
    show (do return [← decodeGroup test (Json.obj es).groupEssence]) = _
    rw [h]
    rfl
  | arr js =>
    show (js.map Json.groupEssence).mapM (decodeGroup test) = js.mapM (decodeGroup test)
    rw [List.mapM_map]
    exact congrArg (js.mapM ·) (funext (decodeGroup_groupEssence test))
  | _ => rfl

/-- Fields that the format does not know make no difference, not even to the fault. -/
theorem Run.decode_essence (j : Json) : Run.decode j.essence = Run.decode j := by
  cases j with
  | obj es =>
    simp only [Json.essence, Json.mapFields, Run.decode, List.mapM_map, Function.comp_def,
      decodeGroups_essence]
  | _ => rfl

/-! ### Main statement -/

/-- **Runs are decoded exactly**: a document is accepted if and only if it is a run, what is returned
is what the document says, and unknown fields make no difference. -/
theorem Run.decode_exact (j : Json) :
    ((∃ run, Run.decode j = .ok run) ↔ j.IsRun) ∧
    (∀ run, Run.decode j = .ok run ↔ j.Tests run) ∧
    (∀ j', j'.essence = j.essence → Run.decode j' = Run.decode j) := by
  refine ⟨?_, Run.decode_eq_ok j, ?_⟩
  · simp only [Run.decode_eq_ok]
    exact j.exists_tests_iff
  · intro j' h
    rw [← Run.decode_essence j', h, Run.decode_essence j]

/-- A single group instead of a list, `false` instead of a list of items, and an unknown field. -/
def lenientRun : Json := .obj [("T", .obj [("dataItems", .bool false), ("more", .int 1)])]

theorem decode_exact_lenientRun : lenientRun.IsRun ∧
    lenientRun.Tests [("T", [⟨"", [], []⟩])] ∧
    Run.decode lenientRun = Run.decode (.obj [("T", .obj [("dataItems", .bool false)])]) := by
  have hdecode : Run.decode lenientRun = .ok [("T", [⟨"", [], []⟩])] := rfl
  obtain ⟨haccepted, hmeaning, hunknown⟩ := Run.decode_exact lenientRun
  exact ⟨haccepted.mp ⟨_, hdecode⟩, (hmeaning _).mp hdecode, (hunknown _ rfl).symm⟩

end BenchCompare
