import BenchCompare.Text.Lines
import BenchCompare.Text.Utf8

/-! # ASCII texts in files

  A text of ASCII characters is written with one byte for each of them.  It is
  read back as it was, unless its lines end in something else than line feeds.

  Main statements: `decode_asciiFile`, `unifyLines_of_plain`.
-/

namespace BenchCompare.Text

/-- The bytes of a text of ASCII characters. -/
def asciiFile (cs : List Char) : ByteArray := ⟨(cs.map fun c => UInt8.ofNat c.toNat).toArray⟩

theorem toList_loop (bytes : ByteArray) (i : Nat) (before : List UInt8) :
    ByteArray.toList.loop bytes i before = before.reverse ++ bytes.data.toList.drop i := by
  fun_induction ByteArray.toList.loop bytes i before with
  | case1 i before h ih =>
    have hi : i < bytes.data.toList.length := h
    have hget : bytes.get! i = bytes.data.toList[i] := getElem!_pos bytes.data i h
    rw [ih, List.drop_eq_getElem_cons hi, hget, List.reverse_cons, List.append_assoc]
    rfl
  | case2 i before h =>
    have hi : bytes.data.toList.length ≤ i := Nat.le_of_not_lt h
    rw [List.drop_of_length_le hi, List.append_nil]

theorem toList_asciiFile (cs : List Char) :
    (asciiFile cs).toList = cs.map fun c => UInt8.ofNat c.toNat := toList_loop _ 0 []

theorem decodeFrom_ascii {cs : List Char} (h : ∀ c ∈ cs, c.toNat < 0x80) (index : Nat)
    (before : List Char) :
    decodeFrom index before (cs.map fun c => UInt8.ofNat c.toNat) = .ok (before.reverse ++ cs) := by
  induction cs generalizing index before with
  | nil => rw [List.map_nil, decodeFrom, List.append_nil]
  | cons c cs ih =>
    obtain ⟨hc, hcs⟩ := List.forall_mem_cons.mp h
    have hlead : (UInt8.ofNat c.toNat).toNat = c.toNat := by
      rw [UInt8.toNat_ofNat']
      omega
    have hsole : announced c.toNat = some (c.toNat, []) := if_pos hc
    rw [List.map_cons, decodeFrom, hlead, hsole]
    simp only [continued, List.length_nil, List.drop_zero, Nat.add_zero]
    rw [Char.ofNat_toNat, ih hcs, List.reverse_cons, List.append_assoc]
    rfl

/-- A text of ASCII characters is read back as it was. -/
theorem decode_asciiFile {cs : List Char} (h : ∀ c ∈ cs, c.toNat < 0x80) :
    decode (asciiFile cs) = .ok cs := by
  unfold decode
  rw [toList_asciiFile, decodeFrom_ascii h]
  rfl

/-- A text without carriage returns has its line ends in one form. -/
theorem unifyLines_of_plain {cs : List Char} (h : ∀ c ∈ cs, c ≠ '\r') : unifyLines cs = cs := by
  fun_induction unifyLines cs with
  | case1 => rfl
  | case2 => exact absurd rfl (h _ List.mem_cons_self)
  | case3 => exact absurd rfl (h _ List.mem_cons_self)
  | case4 c rest _ _ ih => rw [ih (List.forall_mem_cons.mp h).2]

end BenchCompare.Text
