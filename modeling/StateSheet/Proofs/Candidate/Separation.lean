import StateSheet.Proofs.Candidate.ClassList
import StateSheet.Proofs.ClassName.Cut

/-!
# Separators of class lists

There is one way to lay a class list out in tokens, and the cut finds it
(`tokens_eq_iff_laidOut`). What is lost in the cut are the separators, the blanks where
neither counter is above zero (`LaidOut.flatten`). Any separators will do: with one space
between them, the tokens are laid out again (`LaidOut.intercalate`).

A separator is told by its position alone, without the cut. Since a layout begins every
token with nothing open, the separators of a class list are those of its parts
(`withoutSeparators_append`).
-/

set_option autoImplicit false

namespace StateSheet.Candidate

/-! ## The one layout -/

namespace LaidOut

variable {classList : Text} {list : List Text}

theorem tokens_eq (laidOut : LaidOut classList list) : tokens classList = list := by
  induction laidOut with
  | nil => rfl
  | blank isABlank _ ih =>
      rw [← ih]
      exact tokens_append_blank isABlank (Nesting.after_nil {}) _
  | last present hidden => exact tokens_of_hides hidden present
  | token present hidden closed isABlank _ ih =>
      rw [tokens_append_blank isABlank closed, tokens_of_hides hidden present, ih,
        List.singleton_append]

/-- **Tokens are laid out again with one space between them**, whatever separated them. -/
theorem intercalate (laidOut : LaidOut classList list) :
    LaidOut ([' '].intercalate list) list := by
  induction laidOut with
  | nil => exact LaidOut.nil
  | blank _ _ ih => exact ih
  | last present hidden =>
      rw [List.intercalate_singleton]
      exact LaidOut.last present hidden
  | @token token _ _ list present hidden closed _ _ ih =>
      cases list with
      | nil =>
          rw [List.intercalate_singleton]
          exact LaidOut.last present hidden
      | cons second others =>
          rw [List.intercalate_cons_cons, List.append_assoc, List.singleton_append]
          exact LaidOut.token present hidden closed rfl ih

end LaidOut

/-- **There is one way to lay a class list out**, and the cut finds it. -/
theorem tokens_eq_iff_laidOut {classList : Text} {list : List Text} :
    tokens classList = list ↔ LaidOut classList list := by
  constructor
  · rintro rfl
    exact laidOut_tokens classList
  · exact LaidOut.tokens_eq

/-- A token is its own only token. -/
theorem tokens_of_mem_tokens {classList token : Text} (among : token ∈ tokens classList) :
    tokens token = [token] := by
  have isToken : IsTokenOf classList token := isTokenOf_of_mem among
  exact tokens_of_hides isToken.hidden isToken.present

/-! ## Separators -/

/-- Is a character of a text, given with its position, a blank with both counters at zero
in front of it? -/
def separates (text : Text) (entry : Char × Nat) : Bool :=
  isBlank entry.1 &&
    openBehind '[' ']' 0 (text.take entry.2) == 0 && openBehind '(' ')' 0 (text.take entry.2) == 0

/-- A text without its separators. -/
def withoutSeparators (text : Text) : Text :=
  (text.zipIdx.filter (!separates text ·)).map Prod.fst

theorem separates_iff {text : Text} {c : Char} {position : Nat} :
    separates text (c, position) = true ↔
      isBlank c = true ∧ Nesting.after {} (text.take position) = {} := by
  rw [← Nesting.isTop_iff_eq, Nesting.isTop_iff, Nesting.after_eq_openBehind]
  simp [separates, and_assoc]

/-- Behind a text that leaves nothing open, a separator is one in its own right. -/
theorem separates_append {front : Text} (closed : Nesting.after {} front = {}) (rest : Text)
    (c : Char) (position : Nat) :
    separates (front ++ rest) (c, front.length + position) = separates rest (c, position) := by
  rw [Bool.eq_iff_iff, separates_iff, separates_iff, List.take_length_add_append,
    Nesting.after_append, closed]

/-- **Separators are found on both sides of a text that leaves nothing open.** -/
theorem withoutSeparators_append {front : Text} (closed : Nesting.after {} front = {})
    (rest : Text) :
    withoutSeparators (front ++ rest) = withoutSeparators front ++ withoutSeparators rest := by
  have inFront : front.zipIdx.filter (!separates (front ++ rest) ·) =
      front.zipIdx.filter (!separates front ·) := by
    refine List.filter_congr fun entry member => ?_
    have within : entry.2 < front.length := List.snd_lt_of_mem_zipIdx member
    rw [separates, separates, List.take_append_of_le_length (Nat.le_of_lt within)]
  have behind : ((rest.zipIdx front.length).filter (!separates (front ++ rest) ·)).map Prod.fst =
      withoutSeparators rest := by
    have shifted : (fun entry => !separates (front ++ rest) entry) ∘
        (fun entry : Char × Nat => (entry.1, front.length + entry.2)) =
          fun entry => !separates rest entry := by
      funext entry
      exact congrArg (!·) (separates_append closed rest entry.1 entry.2)
    rw [List.zipIdx_eq_map_add, List.filter_map, shifted, List.map_map]
    rfl
  rw [withoutSeparators, List.zipIdx_append, List.filter_append, List.map_append, inFront,
    Nat.zero_add, behind]
  rfl

/-- A text that hides its blanks has no separators. -/
theorem withoutSeparators_of_hides {text : Text}
    (hidden : Nesting.Hides {} (isBlank · = true) text) : withoutSeparators text = text := by
  have kept : text.zipIdx.filter (!separates text ·) = text.zipIdx := by
    refine List.filter_eq_self.mpr ?_
    rintro ⟨c, position⟩ member
    obtain ⟨within, stands⟩ :=
      List.getElem?_eq_some_iff.mp (List.mk_mem_zipIdx_iff_getElem?.mp member)
    have parts : text = text.take position ++ c :: text.drop (position + 1) := by
      rw [← stands, List.getElem_cons_drop, List.take_append_drop]
    rw [Bool.not_eq_true', ← Bool.not_eq_true, separates_iff, ← Nesting.isTop_iff_eq]
    rintro ⟨blank, atTop⟩
    have buried := hidden _ _ _ parts blank
    rw [atTop] at buried
    cases buried
  rw [withoutSeparators, kept, List.zipIdx_map_fst]

theorem withoutSeparators_blank_cons {b : Char} (isABlank : isBlank b = true) (rest : Text) :
    withoutSeparators (b :: rest) = withoutSeparators rest := by
  have closed : Nesting.after {} [b] = {} := step_of_isBlank isABlank
  have separator : withoutSeparators [b] = [] := by
    simp [withoutSeparators, separates, openBehind, isABlank]
  rw [← List.singleton_append, withoutSeparators_append closed, separator, List.nil_append]

/-- **The tokens of a layout are the class list without its separators.** -/
theorem LaidOut.flatten {classList : Text} {list : List Text} (laidOut : LaidOut classList list) :
    list.flatten = withoutSeparators classList := by
  induction laidOut with
  | nil => rfl
  | blank isABlank _ ih => rw [withoutSeparators_blank_cons isABlank, ih]
  | last present hidden => rw [List.flatten_singleton, withoutSeparators_of_hides hidden]
  | token present hidden closed isABlank _ ih =>
      rw [List.flatten_cons, withoutSeparators_append closed, withoutSeparators_of_hides hidden,
        withoutSeparators_blank_cons isABlank, ih]

/-- **Tokens keep all of a class list but its separators.** They are the one way to lay it out.
Each is not empty and is its own only token. One behind another they are the class list
without the blanks that stand where both counters are at zero, and with one space between
them they have the same tokens. -/
theorem tokens_keep_all_but_separators (classList : Text) :
    (∀ list, tokens classList = list ↔ LaidOut classList list) ∧
      (∀ token ∈ tokens classList, token ≠ [] ∧ tokens token = [token]) ∧
      (tokens classList).flatten = withoutSeparators classList ∧
      tokens ([' '].intercalate (tokens classList)) = tokens classList := by
  have laidOut : LaidOut classList (tokens classList) := laidOut_tokens classList
  refine ⟨fun list => tokens_eq_iff_laidOut, ?_, laidOut.flatten, laidOut.intercalate.tokens_eq⟩
  intro token among
  exact ⟨(isTokenOf_of_mem among).present, tokens_of_mem_tokens among⟩

/-- A parenthesis and a bracket that close nothing, a wide blank, and a last token that holds
blanks up to its end, since only a bracket closes its parenthesis. -/
theorem tokens_keep_all_but_separators_left_open :
    "](c d] e ".toList ∈ tokens "a)\u3000 b[x y] ](c d] e ".toList ∧
    LaidOut "a)\u3000 b[x y] ](c d] e ".toList
      ["a)".toList, "b[x y]".toList, "](c d] e ".toList] ∧
    ("](c d] e ".toList ≠ [] ∧ tokens "](c d] e ".toList = ["](c d] e ".toList]) ∧
    "a)b[x y]](c d] e ".toList = withoutSeparators "a)\u3000 b[x y] ](c d] e ".toList ∧
    tokens "a) b[x y] ](c d] e ".toList =
      ["a)".toList, "b[x y]".toList, "](c d] e ".toList] := by
  have cut : tokens "a)\u3000 b[x y] ](c d] e ".toList =
      ["a)".toList, "b[x y]".toList, "](c d] e ".toList] := by decide
  obtain ⟨unique, single, kept, again⟩ :=
    tokens_keep_all_but_separators "a)\u3000 b[x y] ](c d] e ".toList
  have among : "](c d] e ".toList ∈ tokens "a)\u3000 b[x y] ](c d] e ".toList := by
    rw [cut]
    decide
  rw [cut] at kept again
  exact ⟨among, (unique _).mp cut, single _ among, kept, again⟩

end StateSheet.Candidate
