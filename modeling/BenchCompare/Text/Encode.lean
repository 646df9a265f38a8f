import BenchCompare.Text.Basic
import BenchCompare.Text.Utf8

/-!
# Encoding texts

  A file takes bytes, so a text that is written is encoded first.  That works
  for strings alone: a half has no bytes.  The console shows each half as an
  escape instead.

  A path is encoded before anything is looked up at it, and here some halves
  have bytes.  A name of a file may be no UTF-8.  When such a name is listed,
  each of its bytes that belongs to no character becomes a half of a certain
  range, and from such a half the byte is made again.
-/

namespace BenchCompare.Text

/-! ### Faults -/

/-- A place where a text cannot be encoded. -/
structure EncodeFault where
  /-- The index of a half without bytes. -/
  index : Nat
  /-- The number of halves from there on. -/
  length : Nat
  /-- The half. -/
  half : Fin 0x800
  deriving DecidableEq, Repr

/-- The wording of a fault. -/
def EncodeFault.message (f : EncodeFault) : String :=
  let code := '\\' :: 'u' :: hex 4 (CodePoint.half f.half).toNat
  let place :=
    if f.length = 1 then s!"character '{String.ofList code}' in position {f.index}"
    else s!"characters in position {f.index}-{f.index + f.length - 1}"
  s!"'utf-8' codec can't encode {place}: surrogates not allowed"

/-- The first place with a half that has no bytes.  `index` is the index of the first code point. -/
def encodeFaultFrom? (hasByte : Fin 0x800 → Bool) (index : Nat) : List CodePoint → Option EncodeFault
  | [] => none
  | .char _ :: rest => encodeFaultFrom? hasByte (index + 1) rest
  | .half n :: rest =>
    if hasByte n then encodeFaultFrom? hasByte (index + 1) rest
    else some ⟨index, 1 + (rest.takeWhile CodePoint.isHalf).length, n⟩

/-! ### Encoding -/

/-- The characters of a text. -/
def chars (t : Text) : List Char := t.toList.filterMap CodePoint.char?

/-- The string that a text is, or the place where it is none. -/
def encode (t : Text) : Except EncodeFault String :=
  match encodeFaultFrom? (fun _ => false) 0 t.toList with
  | none => .ok (String.ofList t.chars)
  | some f => .error f

theorem encodeFaultFrom?_eq_none_iff {hasByte : Fin 0x800 → Bool} {cs : List CodePoint} (index : Nat) :
    encodeFaultFrom? hasByte index cs = none ↔ ∀ n, .half n ∈ cs → hasByte n = true := by
  induction cs generalizing index with
  | nil => simp [encodeFaultFrom?]
  | cons c rest ih =>
    cases c with
    | char c => simp [encodeFaultFrom?, ih]
    | half n => by_cases h : hasByte n = true <;> simp [encodeFaultFrom?, h, ih]

@[simp] theorem chars_ofString (s : String) : chars s = s.toList := by
  simp [chars, List.filterMap_map, Function.comp_def, CodePoint.char?]

theorem map_char_chars {t : Text} (h : ∀ n, .half n ∉ t.toList) : t.chars.map .char = t.toList := by
  unfold chars
  generalize t.toList = cs at h
  induction cs with
  | nil => rfl
  | cons c rest ih =>
    have hrest := ih fun n hn => h n (List.mem_cons_of_mem _ hn)
    cases c with
    | char c => exact congrArg (CodePoint.char c :: ·) hrest
    | half n => exact absurd List.mem_cons_self (h n)

@[simp] theorem encode_ofString (s : String) : encode s = .ok s := by
  have hfault : encodeFaultFrom? (fun _ => false) 0 (s : Text).toList = none := by
    simp [encodeFaultFrom?_eq_none_iff]
  simp only [encode, hfault, chars_ofString, String.ofList_toList]

/-- A text is encoded as the string that it is. -/
theorem encode_eq_ok_iff {t : Text} {s : String} : t.encode = .ok s ↔ t = s := by
  refine ⟨fun h => ?_, fun h => h ▸ encode_ofString s⟩
  unfold encode at h
  split at h
  · next hfault =>
    cases h
    have hchars := map_char_chars fun n hn => by simpa using (encodeFaultFrom?_eq_none_iff 0).mp hfault n hn
    exact toList_injective (by simp [hchars])
  · cases h

/-- The texts without halves are the strings. -/
theorem exists_string_iff {t : Text} : (∃ s : String, t = s) ↔ ∀ n, .half n ∉ t.toList := by
  constructor
  · rintro ⟨s, rfl⟩ n
    simp
  · intro h
    exact ⟨String.ofList t.chars, toList_injective (by simp [map_char_chars h])⟩

/-- Every other text has a place where it cannot be encoded. -/
theorem exists_encode_error_iff {t : Text} : (∃ fault, t.encode = .error fault) ↔ ∃ n, .half n ∈ t.toList := by
  have hok : (∃ s, t.encode = .ok s) ↔ ∀ n, .half n ∉ t.toList := by
    simp only [encode_eq_ok_iff]
    exact exists_string_iff
  cases hencode : t.encode with
  | ok s => simpa [hencode] using hok
  | error fault => simpa [hencode] using hok

theorem toOption_encode_eq_some_iff {t : Text} {s : String} : t.encode.toOption = some s ↔ t = s := by
  rw [← encode_eq_ok_iff]
  cases t.encode <;> simp [Except.toOption]

/-- A text as the console shows it. -/
def escaped (t : Text) : String := String.ofList (t.toList.flatMap fun
  | .char c => [c]
  | .half n => '\\' :: 'u' :: hex 4 (CodePoint.half n).toNat)

/-! ### Names of files -/

/-- Whether a half stands for a byte in the name of a file. -/
def isNameByte (n : Fin 0x800) : Bool := 0x480 ≤ n.val && n.val ≤ 0x4ff

/-- Why a text is no path, if it cannot be encoded. -/
def nameFault? (t : Text) : Option EncodeFault := encodeFaultFrom? isNameByte 0 t.toList

/-- The bytes of a code point in a path. -/
def pointBytes : CodePoint → List UInt8
  | .char c => String.utf8EncodeChar c
  | .half n => [UInt8.ofNat (n.val - 0x400)]

/-- The bytes of a text in a path. -/
def nameBytes (t : Text) : List UInt8 := t.toList.flatMap pointBytes

theorem nameBytes_append (s t : Text) : (s ++ t).nameBytes = s.nameBytes ++ t.nameBytes :=
  List.flatMap_append

/-- A byte of a name as a half. -/
def byteHalf (b : UInt8) : CodePoint := .ofNat (0xdc00 + b.toNat)

/-- The code points of a name that is listed. -/
def listedPoints : List UInt8 → List CodePoint
  | [] => []
  | lead :: rest =>
    match announced lead.toNat with
    | none => byteHalf lead :: listedPoints rest
    | some (bits, ranges) =>
      match continued bits 1 ranges rest with
      | .ok code => .char (Char.ofNat code) :: listedPoints (rest.drop ranges.length)
      | .error _ => byteHalf lead :: listedPoints rest
termination_by bytes => bytes.length

/-- The name under which a file is listed that was made under a name. -/
def listed (t : Text) : Text :=
  match t.encode with
  | .ok _ => t
  | .error _ => ⟨listedPoints t.nameBytes⟩

@[simp] theorem listed_ofString (s : String) : listed s = s := by
  unfold listed
  rw [encode_ofString]

example : listed ⟨[.half 0x4c3, .half 0x4a9, .half 0x4a9]⟩ = ⟨[.char 'é', .half 0x4a9]⟩ := by decide +kernel

end BenchCompare.Text
