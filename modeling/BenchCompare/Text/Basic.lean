/-!
# Texts

  A text is a sequence of code points.  Most of them are characters.  The others
  are *halves*: an escape of sixteen bits is too short for a character beyond
  them, so such a character is written as two halves, each with a code of its
  own that no character has.  A half without its partner is no character, and
  it stays in the text that it was read into.

  A text without halves is a string, and every string is a text.  Only such a
  text can be encoded, that is, written to a file.
-/

namespace BenchCompare

/-! ### Code points -/

/-- A code point. -/
inductive CodePoint
  /-- A character. -/
  | char (c : Char)
  /-- The half of a character, counted from the first one on. -/
  | half (n : Fin 0x800)
  deriving DecidableEq, Repr

namespace CodePoint

instance : Inhabited CodePoint := ⟨char default⟩

instance : Coe Char CodePoint := ⟨char⟩

/-- The space. -/
abbrev space : CodePoint := char ' '

/-- The line feed. -/
abbrev lineFeed : CodePoint := char '\n'

/-- The number of a code point. -/
def toNat : CodePoint → Nat
  | char c => c.toNat
  | half n => 0xd800 + n

/-- The code point with a number. -/
def ofNat (n : Nat) : CodePoint :=
  if 0xd800 ≤ n ∧ n ≤ 0xdfff then half (Fin.ofNat 0x800 (n - 0xd800)) else char (Char.ofNat n)

/-- Code points are ordered by their numbers. -/
instance : LT CodePoint := ⟨fun a b => a.toNat < b.toNat⟩

instance (a b : CodePoint) : Decidable (a < b) := inferInstanceAs (Decidable (a.toNat < b.toNat))

/-- Whether a code point is a character with a property. -/
def fits (p : Char → Bool) : CodePoint → Bool
  | char c => p c
  | half _ => false

@[simp] theorem fits_char (p : Char → Bool) (c : Char) : (char c).fits p = p c := rfl

@[simp] theorem fits_half (p : Char → Bool) (n : Fin 0x800) : (half n).fits p = false := rfl

theorem fits_eq_true_iff {p : Char → Bool} {a : CodePoint} :
    a.fits p = true ↔ ∃ c, a = char c ∧ p c = true := by
  cases a <;> simp

/-- The character that a code point is, if it is one. -/
def char? : CodePoint → Option Char
  | char c => some c
  | half _ => none

/-- Whether a code point is a half. -/
def isHalf (c : CodePoint) : Bool := c.char?.isNone

end CodePoint

/-! ### Texts -/

/-- A text. -/
structure Text where
  /-- The text of code points. -/
  ofList ::
  /-- Its code points. -/
  toList : List CodePoint
  deriving DecidableEq, Repr

namespace Text

/-- A string as a text. -/
@[coe] def ofString (s : String) : Text := ⟨s.toList.map .char⟩

instance : Coe String Text := ⟨ofString⟩

instance : Inhabited Text := ⟨""⟩

/-- A text with another one behind it. -/
protected def append (s t : Text) : Text := ⟨s.toList ++ t.toList⟩

instance : Append Text := ⟨Text.append⟩

/-- The number of code points. -/
def length (t : Text) : Nat := t.toList.length

/-- Whether there are no code points. -/
def isEmpty (t : Text) : Bool := t.toList.isEmpty

/-- Texts with a text between each one and the next. -/
def intercalate (separator : Text) (ts : List Text) : Text :=
  ⟨separator.toList.intercalate (ts.map toList)⟩

/-- Texts are ordered by their first code points that differ. -/
instance : LT Text := ⟨fun s t => s.toList < t.toList⟩

instance (s t : Text) : Decidable (s < t) := inferInstanceAs (Decidable (s.toList < t.toList))

/-- A text is at most another one if that is not below it. -/
instance : LE Text := ⟨fun s t => ¬ t < s⟩

instance (s t : Text) : Decidable (s ≤ t) := inferInstanceAs (Decidable (¬ t < s))

@[simp] theorem toList_append (s t : Text) : (s ++ t).toList = s.toList ++ t.toList := rfl

@[simp] theorem toList_intercalate (separator : Text) (ts : List Text) :
    (intercalate separator ts).toList = separator.toList.intercalate (ts.map toList) := rfl

@[simp] theorem length_toList (t : Text) : t.toList.length = t.length := rfl

theorem toList_injective {s t : Text} (h : s.toList = t.toList) : s = t := congrArg ofList h

theorem toList_inj {s t : Text} : s.toList = t.toList ↔ s = t := ⟨toList_injective, congrArg toList⟩

@[simp] theorem toList_ofString (s : String) : (s : Text).toList = s.toList.map .char := rfl

@[simp] theorem ofString_append (s t : String) : ((s ++ t : String) : Text) = s ++ t :=
  toList_injective (by simp)

@[simp] theorem ofString_inj {s t : String} : (s : Text) = t ↔ s = t := by
  refine ⟨fun h => ?_, congrArg ofString⟩
  have hlist : s.toList.map CodePoint.char = t.toList.map CodePoint.char := congrArg toList h
  exact String.toList_injective ((List.map_inj_right fun _ _ => CodePoint.char.inj).mp hlist)

theorem toList_eq_nil_iff {t : Text} : t.toList = [] ↔ t = "" := toList_inj (t := "")

theorem isEmpty_iff {t : Text} : t.isEmpty = true ↔ t = "" := by
  rw [← toList_eq_nil_iff]
  exact List.isEmpty_iff

theorem append_assoc (s t u : Text) : s ++ t ++ u = s ++ (t ++ u) :=
  toList_injective (List.append_assoc ..)

@[simp] theorem append_empty (t : Text) : t ++ ("" : Text) = t := toList_injective (List.append_nil _)

@[simp] theorem empty_append (t : Text) : ("" : Text) ++ t = t := rfl

end Text

end BenchCompare
