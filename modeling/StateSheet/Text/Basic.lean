/-!
# Texts

A text is the list of its Unicode characters, so that every reader of the
library recurses on the text it reads. This module holds the operations that
know nothing of what a text means: dropping a given beginning, cutting at a
character, splitting at every occurrence of a character, and passing to the
UTF-8 bytes on which globs are matched.

Texts are ordered by the code points of their characters, which is also the
order of their UTF-8 bytes.

Cutting loses nothing and cuts at the first occurrence (`eq_of_cut?_eq_some`,
`not_mem_of_cut?_eq_some`), and splitting is undone by joining
(`intercalate_pieces`).
-/

set_option autoImplicit false

namespace StateSheet

/-- A text, as the list of its characters. -/
abbrev Text := List Char

namespace Text

/-! ## Beginnings -/

/-- What follows the given beginning in a text that has it. -/
def dropPrefix? : Text → Text → Option Text
  | [], text => some text
  | _ :: _, [] => none
  | expected :: beginning, found :: text =>
      if expected = found then dropPrefix? beginning text else none

/-- A text has a beginning exactly when it is the beginning and what follows. -/
theorem dropPrefix?_eq_some_iff {beginning text rest : Text} :
    dropPrefix? beginning text = some rest ↔ text = beginning ++ rest := by
  induction beginning generalizing text with
  | nil => simp [dropPrefix?, eq_comm]
  | cons expected beginning ih =>
      cases text with
      | nil => simp [dropPrefix?]
      | cons found text =>
          by_cases same : expected = found
          · simp [dropPrefix?, same, ih]
          · simp [dropPrefix?, same, Ne.symm same]

/-- A beginning is found in front of whatever follows it. -/
@[simp] theorem dropPrefix?_append (beginning rest : Text) :
    dropPrefix? beginning (beginning ++ rest) = some rest :=
  dropPrefix?_eq_some_iff.mpr rfl

/-! ## Cutting and splitting at a character -/

/-- The parts of a text before and after the first occurrence of a separator. -/
def cut? (separator : Char) : Text → Option (Text × Text)
  | [] => none
  | c :: rest =>
      if c = separator then some ([], rest)
      else (cut? separator rest).map fun parts => (c :: parts.1, parts.2)

/-- The two parts and the separator make up the text. -/
theorem eq_of_cut?_eq_some {separator : Char} {text before after : Text}
    (found : cut? separator text = some (before, after)) :
    text = before ++ separator :: after := by
  induction text generalizing before with
  | nil => simp [cut?] at found
  | cons c rest ih =>
      by_cases here : c = separator
      · simp only [cut?, here, if_true, Option.some.injEq, Prod.mk.injEq] at found
        simp [here, ← found.1, ← found.2]
      · simp only [cut?, here, if_false, Option.map_eq_some_iff, Prod.mk.injEq] at found
        obtain ⟨⟨first, second⟩, cutRest, rfl, rfl⟩ := found
        simp [ih cutRest]

/-- The part before the cut is free of the separator. -/
theorem not_mem_of_cut?_eq_some {separator : Char} {text before after : Text}
    (found : cut? separator text = some (before, after)) : separator ∉ before := by
  induction text generalizing before with
  | nil => simp [cut?] at found
  | cons c rest ih =>
      by_cases here : c = separator
      · simp only [cut?, here, if_true, Option.some.injEq, Prod.mk.injEq] at found
        simp [← found.1]
      · simp only [cut?, here, if_false, Option.map_eq_some_iff, Prod.mk.injEq] at found
        obtain ⟨⟨first, second⟩, cutRest, rfl, rfl⟩ := found
        simp [Ne.symm here, ih cutRest]

/-- The pieces of a text between the occurrences of a separator, with an empty
piece wherever nothing stands between two of them. -/
def pieces (separator : Char) : Text → List Text
  | [] => [[]]
  | c :: rest =>
      if c = separator then [] :: pieces separator rest
      else
        match pieces separator rest with
        | [] => [[c]]
        | piece :: more => (c :: piece) :: more

/-- There is always a piece. -/
theorem pieces_ne_nil (separator : Char) (text : Text) : pieces separator text ≠ [] := by
  cases text with
  | nil => simp [pieces]
  | cons c rest =>
      by_cases here : c = separator
      · simp [pieces, here]
      · simp only [pieces, here, if_false]
        split <;> simp

/-- Joining the pieces by the separator gives the text back. -/
theorem intercalate_pieces (separator : Char) (text : Text) :
    [separator].intercalate (pieces separator text) = text := by
  induction text with
  | nil => simp [pieces, List.intercalate]
  | cons c rest ih =>
      by_cases here : c = separator
      · cases shape : pieces separator rest with
        | nil => exact absurd shape (pieces_ne_nil separator rest)
        | cons piece more =>
            rw [shape] at ih
            simp only [pieces, here, if_true, shape]
            simpa [List.intercalate, List.intersperse] using ih
      · cases shape : pieces separator rest with
        | nil => exact absurd shape (pieces_ne_nil separator rest)
        | cons piece more =>
            rw [shape] at ih
            simp only [pieces, here, if_false, shape]
            cases more with
            | nil => simpa [List.intercalate, List.intersperse] using ih
            | cons second others =>
                simpa [List.intercalate, List.intersperse] using ih

/-- No piece holds the separator. -/
theorem not_mem_of_mem_pieces {separator : Char} {text piece : Text}
    (member : piece ∈ pieces separator text) : separator ∉ piece := by
  induction text generalizing piece with
  | nil =>
      simp only [pieces, List.mem_singleton] at member
      simp [member]
  | cons c rest ih =>
      by_cases here : c = separator
      · simp only [pieces, here, if_true, List.mem_cons] at member
        rcases member with rfl | later
        · simp
        · exact ih later
      · cases shape : pieces separator rest with
        | nil => exact absurd shape (pieces_ne_nil separator rest)
        | cons first more =>
            simp only [pieces, here, if_false, shape, List.mem_cons] at member
            rcases member with rfl | later
            · have clean : separator ∉ first := ih (by simp [shape])
              simp [Ne.symm here, clean]
            · exact ih (by simp [shape, later])

/-! ## Bytes -/

/-- The UTF-8 bytes of a text. -/
def bytes (text : Text) : List UInt8 := text.flatMap String.utf8EncodeChar

end Text

end StateSheet
