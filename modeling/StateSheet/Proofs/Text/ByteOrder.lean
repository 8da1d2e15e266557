import StateSheet.Text.Basic
import Mathlib.Data.List.Basic

/-!
# The order of bytes

Texts are compared by the code points of their characters. A smaller text has
the smaller UTF-8 bytes (`bytes_lt_bytes`), so a table that is sorted by its keys
is also sorted by the bytes of its keys.

The encodings of two characters differ in a byte before either of them ends
(`encoded_append_lt`): no encoding is the beginning of another, and a greater
character has the greater byte there. So texts start with one another exactly when their
bytes do (`isPrefix_of_bytes`).
-/

set_option autoImplicit false

namespace StateSheet.Text

/-- Lists of bytes are compared by the numbers at their heads first. -/
theorem ofNat_cons_lt_iff {first second : Nat} {more others : List UInt8} (small : first < 256)
    (alsoSmall : second < 256) :
    UInt8.ofNat first :: more < UInt8.ofNat second :: others ↔
      first < second ∨ first = second ∧ more < others := by
  rw [List.cons_lt_cons_iff, UInt8.lt_iff_toNat_lt, ← UInt8.toNat_inj, UInt8.toNat_ofNat',
    UInt8.toNat_ofNat', Nat.mod_eq_of_lt small, Nat.mod_eq_of_lt alsoSmall]

/-- **A greater character has the greater bytes, whatever follows them.** -/
theorem encoded_append_lt {c d : Char} (below : c < d) (more others : List UInt8) :
    String.utf8EncodeChar c ++ more < String.utf8EncodeChar d ++ others := by
  have codes : c.val.toNat < d.val.toNat := below
  have top : d.val.toNat < 0x110000 := by
    have valid := d.valid
    simp only [UInt32.isValidChar, Nat.isValidChar] at valid
    omega
  unfold String.utf8EncodeChar
  generalize c.val.toNat = lower at *
  generalize d.val.toNat = upper at *
  -- Two long encodings are told apart by the bits above the last two bytes, or else below them.
  have halves : lower / 4096 < upper / 4096 ∨
      lower / 4096 = upper / 4096 ∧ lower % 4096 < upper % 4096 := by omega
  simp only
  repeat' split
  all_goals
    simp (disch := omega) only [List.cons_append, List.nil_append, ofNat_cons_lt_iff]
    rcases halves with high | low <;> omega

theorem bytes_cons (c : Char) (text : Text) :
    bytes (c :: text) = String.utf8EncodeChar c ++ bytes text :=
  List.flatMap_cons

/-- **Texts are ordered as their UTF-8 bytes are.** -/
theorem bytes_lt_bytes {first second : Text} (below : first < second) :
    first.bytes < second.bytes := by
  induction first generalizing second with
  | nil =>
      cases second with
      | nil => exact absurd below (List.lt_irrefl _)
      | cons d others =>
          rw [bytes_cons]
          cases encoded : String.utf8EncodeChar d with
          | nil => exact absurd encoded String.utf8EncodeChar_ne_nil
          | cons byte more => exact List.nil_lt_cons _ _
  | cons c more ih =>
      cases second with
      | nil => exact absurd below (List.not_lt_nil _)
      | cons d others =>
          rw [bytes_cons, bytes_cons]
          rcases List.cons_lt_cons_iff.mp below with smaller | ⟨rfl, later⟩
          · exact encoded_append_lt smaller _ _
          · exact List.append_left_lt (ih later)

/-! ## Starts of texts -/

/-- Encodings that start alike are those of one character. -/
theorem eq_of_encoded_append {c d : Char} {more others : List UInt8}
    (same : String.utf8EncodeChar c ++ more = String.utf8EncodeChar d ++ others) : c = d := by
  rcases Std.lt_trichotomy c d with smaller | rfl | greater
  · exact absurd (same ▸ encoded_append_lt smaller more others) (List.lt_irrefl _)
  · rfl
  · exact absurd (same ▸ encoded_append_lt greater others more) (List.lt_irrefl _)

/-- **A text starts with another one if its bytes start with the bytes of that.** -/
theorem isPrefix_of_bytes {first second : Text} (starts : first.bytes <+: second.bytes) :
    first <+: second := by
  induction first generalizing second with
  | nil => exact List.nil_prefix
  | cons c more ih =>
      obtain ⟨rest, whole⟩ := starts
      rw [bytes_cons, List.append_assoc] at whole
      cases second with
      | nil =>
          obtain ⟨empty, _⟩ := List.append_eq_nil_iff.mp whole
          exact absurd empty String.utf8EncodeChar_ne_nil
      | cons d others =>
          rw [bytes_cons] at whole
          obtain rfl := eq_of_encoded_append whole
          exact List.cons_prefix_cons.mpr ⟨rfl, ih ⟨rest, List.append_cancel_left whole⟩⟩

theorem bytes_injective {first second : Text} (same : first.bytes = second.bytes) :
    first = second := by
  have starts : first <+: second := isPrefix_of_bytes (same ▸ List.prefix_refl _)
  have startsToo : second <+: first := isPrefix_of_bytes (same ▸ List.prefix_refl _)
  exact starts.eq_of_length_le startsToo.length_le

end StateSheet.Text
