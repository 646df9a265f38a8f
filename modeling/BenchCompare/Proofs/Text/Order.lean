import BenchCompare.Text.Basic
import Mathlib.Data.List.Lex

/-! # The order of texts

  Code points are ordered by their numbers, and texts by the first code points that
  differ.  Both orders are linear.
-/

namespace BenchCompare

namespace CodePoint

/-- A half is no character: the numbers of the halves lie between those of characters. -/
theorem toNat_injective : Function.Injective toNat := by
  have hdisjoint : ∀ (c : Char) (n : Fin 0x800), c.toNat ≠ 0xd800 + n := by
    intro c n h
    have hvalid : c.toNat < 0xd800 ∨ 0xdfff < c.toNat ∧ c.toNat < 0x110000 := c.valid
    have hn := n.isLt
    omega
  intro a b h
  cases a with
  | char c =>
    cases b with
    | char d => exact congrArg char (Char.toNat_inj.mp h)
    | half n => exact absurd h (hdisjoint c n)
  | half m =>
    cases b with
    | char d => exact absurd h.symm (hdisjoint d m)
    | half n => exact congrArg half (Fin.ext (Nat.add_left_cancel h))

instance : LinearOrder CodePoint := LinearOrder.lift' toNat toNat_injective

end CodePoint

namespace Text

theorem le_iff_toList {s t : Text} : s ≤ t ↔ s.toList ≤ t.toList := by
  show ¬ t.toList < s.toList ↔ s.toList ≤ t.toList
  exact not_lt

instance : LinearOrder Text where
  le_refl s := le_iff_toList.mpr (le_refl s.toList)
  le_trans s t u hst htu := le_iff_toList.mpr ((le_iff_toList.mp hst).trans (le_iff_toList.mp htu))
  lt_iff_le_not_ge s t := by
    rw [le_iff_toList, le_iff_toList]
    exact lt_iff_le_not_ge (a := s.toList)
  le_antisymm s t hst hts :=
    toList_injective ((le_iff_toList.mp hst).antisymm (le_iff_toList.mp hts))
  le_total s t := by
    rw [le_iff_toList, le_iff_toList]
    exact le_total s.toList t.toList
  toDecidableLE := inferInstance
  toDecidableEq := inferInstance
  toDecidableLT := inferInstance

end Text

end BenchCompare
