import StateSheet.Proofs.Candidate.Attribute
import StateSheet.Proofs.Selector.Escape
import Mathlib.Algebra.Ring.Parity
import Mathlib.Data.List.Induction

/-!
# Escaped class names, read back

A style sheet is read from the left: a backslash makes the character behind it part
of a name and is itself dropped, and a colon without one ends the name (`readName`).
So the reader comes to the end of a text exactly when an odd number of backslashes
stands in front of every colon (`readName_rest_eq_nil_iff`).

Escaping puts one backslash in front of every colon and leaves the backslashes of a
class name as they are. A class name without them is read back whole, whatever stands
behind it (`readName_escape_append`). With one the name that is read is shorter
(`length_readName_escape_lt`), and a colon behind an odd number of backslashes is let
out of the name (`beforeColons_escape_iff`): the backslash of its escape is read as the
second of a pair (`backslash_lets_colon_out`).
-/

set_option autoImplicit false

namespace StateSheet.Selector

/-! ## Reading a name -/

/-- The name that a text goes on with, and the rest of the text from the colon that ends
it, when the character in front of the text is a backslash that escapes, or is not. -/
def readNameFrom : Bool → Text → Text × Text
  | _, [] => ([], [])
  | true, c :: rest => (c :: (readNameFrom false rest).1, (readNameFrom false rest).2)
  | false, c :: rest =>
      if c = '\\' then readNameFrom true rest
      else if c = ':' then ([], c :: rest)
      else (c :: (readNameFrom false rest).1, (readNameFrom false rest).2)

/-- The name that a text starts with, and the rest of the text from the colon that ends
it. -/
def readName (text : Text) : Text × Text := readNameFrom false text

theorem readNameFrom_escaped (c : Char) (rest : Text) :
    readNameFrom true (c :: rest) =
      (c :: (readNameFrom false rest).1, (readNameFrom false rest).2) := rfl

theorem readNameFrom_backslash (rest : Text) :
    readNameFrom false ('\\' :: rest) = readNameFrom true rest := rfl

theorem readNameFrom_colon (rest : Text) :
    readNameFrom false (':' :: rest) = ([], ':' :: rest) := rfl

theorem readNameFrom_plain {c : Char} (notBackslash : c ≠ '\\') (notColon : c ≠ ':')
    (rest : Text) :
    readNameFrom false (c :: rest) =
      (c :: (readNameFrom false rest).1, (readNameFrom false rest).2) := by
  rw [readNameFrom, if_neg notBackslash, if_neg notColon]

/-! ## What stands in front of the colons -/

/-- Does everything that stands in front of a colon of a text have a property? -/
def BeforeColons (held : Text → Prop) (text : Text) : Prop :=
  ∀ before after, text = before ++ ':' :: after → held before

theorem beforeColons_nil (held : Text → Prop) : BeforeColons held [] := by
  intro before after parts
  cases before <;> cases parts

theorem beforeColons_cons {held : Text → Prop} {c : Char} {rest : Text} :
    BeforeColons held (c :: rest) ↔
      (c = ':' → held []) ∧ BeforeColons (fun before => held (c :: before)) rest := by
  constructor
  · intro all
    refine ⟨?_, fun before after parts => all (c :: before) after (by rw [parts]; rfl)⟩
    rintro rfl
    exact all [] rest rfl
  · rintro ⟨first, others⟩ before after parts
    cases before with
    | nil => exact first (List.cons.inj parts).1
    | cons d more =>
        obtain ⟨rfl, restParts⟩ := List.cons.inj parts
        exact others more after restParts

/-- Is the character behind a text escaped, when the first of the text is or is not? -/
def escapedBehind (escaped : Bool) (text : Text) : Bool :=
  text.foldl (fun escaped c => !escaped && c == '\\') escaped

theorem escapedBehind_nil (escaped : Bool) : escapedBehind escaped [] = escaped := rfl

theorem escapedBehind_cons (escaped : Bool) (c : Char) (text : Text) :
    escapedBehind escaped (c :: text) = escapedBehind (!escaped && c == '\\') text := rfl

/-- How many backslashes a text ends in. -/
def backslashesAtEnd (text : Text) : Nat := (text.reverse.takeWhile (· == '\\')).length

theorem backslashesAtEnd_concat (text : Text) (c : Char) :
    backslashesAtEnd (text ++ [c]) = if c = '\\' then backslashesAtEnd text + 1 else 0 := by
  rw [backslashesAtEnd, List.reverse_concat, List.takeWhile_cons]
  by_cases backslash : c = '\\'
  · simp [backslash, backslashesAtEnd]
  · simp [backslash]

/-- **What stands behind an odd number of backslashes is escaped.** -/
theorem escapedBehind_iff (text : Text) :
    escapedBehind false text = true ↔ Odd (backslashesAtEnd text) := by
  induction text using List.reverseRecOn with
  | nil => decide
  | append_singleton text c ih =>
      rw [backslashesAtEnd_concat, escapedBehind, List.foldl_append, List.foldl_cons,
        List.foldl_nil]
      by_cases backslash : c = '\\'
      · rw [if_pos backslash, Nat.odd_add_one, ← ih]
        simp [backslash, escapedBehind]
      · rw [if_neg backslash]
        simp [backslash]

theorem escapedBehind_eq_false_iff (text : Text) :
    escapedBehind false text = false ↔ Even (backslashesAtEnd text) := by
  rw [← Bool.not_eq_true, escapedBehind_iff, Nat.not_odd_iff_even]

/-- The reader comes to the end exactly when every colon is escaped. -/
theorem readNameFrom_rest_eq_nil_iff {escaped : Bool} {text : Text} :
    (readNameFrom escaped text).2 = [] ↔
      BeforeColons (fun before => escapedBehind escaped before = true) text := by
  induction text generalizing escaped with
  | nil => exact iff_of_true (by cases escaped <;> rfl) (beforeColons_nil _)
  | cons c rest ih =>
      simp only [beforeColons_cons, escapedBehind_nil, escapedBehind_cons]
      cases escaped with
      | true => simp [readNameFrom_escaped, ih]
      | false =>
          by_cases backslash : c = '\\'
          · subst backslash
            simp [readNameFrom_backslash, ih]
          · by_cases colon : c = ':'
            · subst colon
              simp [readNameFrom_colon]
            · have unescaped : (c == '\\') = false := beq_eq_false_iff_ne.mpr backslash
              simp [readNameFrom_plain backslash colon, unescaped, colon, ih]

/-- **The reader comes to the end of a text exactly when an odd number of backslashes
stands in front of every colon.** -/
theorem readName_rest_eq_nil_iff {text : Text} :
    (readName text).2 = [] ↔
      BeforeColons (fun before => Odd (backslashesAtEnd before)) text := by
  rw [readName, readNameFrom_rest_eq_nil_iff]
  simp only [escapedBehind_iff]

/-! ## Reading an escaped name -/

theorem escape_colon (rest : Text) : escape (':' :: rest) = '\\' :: ':' :: escape rest := rfl

theorem escape_plain {c : Char} (notColon : c ≠ ':') (rest : Text) :
    escape (c :: rest) = c :: escape rest := by
  rw [escape_cons, if_neg notColon, List.singleton_append]

/-- **A class name without a backslash is read back whole**, and the reader goes on with
what stands behind it. -/
theorem readName_escape_append {className : Text} (plain : '\\' ∉ className) (behind : Text) :
    readName (escape className ++ behind) =
      (className ++ (readName behind).1, (readName behind).2) := by
  induction className with
  | nil => rfl
  | cons c rest ih =>
      obtain ⟨notBackslash, restPlain⟩ := not_or.mp (mt List.mem_cons.mpr plain)
      have onwards := ih restPlain
      unfold readName at onwards ⊢
      by_cases colon : c = ':'
      · subst colon
        rw [escape_colon, List.cons_append, List.cons_append, readNameFrom_backslash,
          readNameFrom_escaped, onwards, List.cons_append]
      · rw [escape_plain colon, List.cons_append,
          readNameFrom_plain (Ne.symm notBackslash) colon, onwards, List.cons_append]

/-- No more is read of an escaped name than the name has. -/
theorem length_readNameFrom_escape_le (escaped : Bool) (className : Text) :
    (readNameFrom escaped (escape className)).1.length ≤ className.length := by
  induction className generalizing escaped with
  | nil => cases escaped <;> exact Nat.le_refl 0
  | cons c rest ih =>
      by_cases colon : c = ':'
      · subst colon
        cases escaped with
        | true =>
            -- The backslash of the escape is escaped itself, and the colon ends the name.
            rw [escape_colon, readNameFrom_escaped, readNameFrom_colon]
            simp
        | false =>
            rw [escape_colon, readNameFrom_backslash, readNameFrom_escaped]
            exact Nat.succ_le_succ (ih false)
      · rw [escape_plain colon]
        cases escaped with
        | true => exact Nat.succ_le_succ (ih false)
        | false =>
            by_cases backslash : c = '\\'
            · subst backslash
              exact Nat.le_succ_of_le (ih true)
            · rw [readNameFrom_plain backslash colon]
              exact Nat.succ_le_succ (ih false)

/-- **What is read of an escaped name with a backslash is shorter than the name.** -/
theorem length_readName_escape_lt {className : Text} (member : '\\' ∈ className) :
    (readName (escape className)).1.length < className.length := by
  unfold readName
  induction className with
  | nil => cases member
  | cons c rest ih =>
      by_cases backslash : c = '\\'
      · subst backslash
        exact Nat.lt_succ_of_le (length_readNameFrom_escape_le true rest)
      · have onwards := ih ((List.mem_cons.mp member).resolve_left (Ne.symm backslash))
        by_cases colon : c = ':'
        · subst colon
          exact Nat.succ_lt_succ onwards
        · rw [escape_plain colon, readNameFrom_plain backslash colon]
          exact Nat.succ_lt_succ onwards

/-- The reader comes to the end of an escaped name exactly when no colon of the name is
escaped before it gets its own backslash. -/
theorem readNameFrom_escape_rest_eq_nil_iff {escaped : Bool} {className : Text} :
    (readNameFrom escaped (escape className)).2 = [] ↔
      BeforeColons (fun before => escapedBehind escaped before = false) className := by
  induction className generalizing escaped with
  | nil => exact iff_of_true (by cases escaped <;> rfl) (beforeColons_nil _)
  | cons c rest ih =>
      simp only [beforeColons_cons, escapedBehind_nil, escapedBehind_cons]
      by_cases colon : c = ':'
      · subst colon
        rw [escape_colon]
        cases escaped with
        | true => simp [readNameFrom_escaped, readNameFrom_colon]
        | false => simp [readNameFrom_backslash, readNameFrom_escaped, ih]
      · rw [escape_plain colon]
        cases escaped with
        | true => simp [readNameFrom_escaped, colon, ih]
        | false =>
            by_cases backslash : c = '\\'
            · subst backslash
              simp [readNameFrom_backslash, ih]
            · have unescaped : (c == '\\') = false := beq_eq_false_iff_ne.mpr backslash
              simp [readNameFrom_plain backslash colon, unescaped, colon, ih]

/-- **Escaping escapes every colon of a class name exactly when each stands behind an
even number of backslashes there.** -/
theorem beforeColons_escape_iff {className : Text} :
    BeforeColons (fun before => Odd (backslashesAtEnd before)) (escape className) ↔
      BeforeColons (fun before => Even (backslashesAtEnd before)) className := by
  rw [← readName_rest_eq_nil_iff, readName, readNameFrom_escape_rest_eq_nil_iff]
  simp only [escapedBehind_eq_false_iff]

/-! ## Escaped names in selectors -/

/-- The class part of a selector is its class name, escaped, behind a dot. -/
theorem exists_classPart (variant : Variant) (className : Text) :
    ∃ front behind, build variant className = front ++ '.' :: (escape className ++ behind) := by
  rcases variant with ⟨relation, negated, state⟩
  cases relation with
  | self => exact ⟨[], condition state negated, rfl⟩
  | group => exact ⟨".group".toList ++ condition state negated ++ [' '], [], by simp [build]⟩
  | peer => exact ⟨".peer".toList ++ condition state negated ++ " ~ ".toList, [], by simp [build]⟩

/-- **An escaped class name is read back exactly when the name has no backslash.** The
reader comes to the end of it, and every colon in it is escaped, exactly when each colon
of the class name stands behind an even number of backslashes. In a selector the class
part is read in the same way, and what follows it is read on its own. -/
theorem escaped_name_reads_back_iff (className : Text) :
    (readName (escape className) = (className, []) ↔ '\\' ∉ className) ∧
    ((readName (escape className)).2 = [] ↔
      BeforeColons (fun before => Even (backslashesAtEnd before)) className) ∧
    (BeforeColons (fun before => Odd (backslashesAtEnd before)) (escape className) ↔
      BeforeColons (fun before => Even (backslashesAtEnd before)) className) ∧
    ∀ variant, ∃ front behind,
      build variant className = front ++ '.' :: (escape className ++ behind) ∧
        ('\\' ∉ className → readName (escape className ++ behind) =
          (className ++ (readName behind).1, (readName behind).2)) := by
  refine ⟨⟨fun readBack member => ?_, fun plain => ?_⟩, ?_, beforeColons_escape_iff,
    fun variant => ?_⟩
  · have shorter := length_readName_escape_lt member
    rw [readBack] at shorter
    exact Nat.lt_irrefl _ shorter
  · have whole := readName_escape_append plain []
    have nothing : readName [] = ([], []) := rfl
    rwa [List.append_nil, nothing, List.append_nil] at whole
  · rw [readName_rest_eq_nil_iff, beforeColons_escape_iff]
  · obtain ⟨front, behind, parts⟩ := exists_classPart variant className
    exact ⟨front, behind, parts, fun plain => readName_escape_append plain behind⟩

/-- **A backslash in front of a colon lets the colon out of the name.** The class is
taken from its attribute with its backslash and has a selector; its first backslash and
the one of the escape are read as a pair, so the name that is read ends at the colon. -/
theorem backslash_lets_colon_out :
    "ui-open\\:block".toList ∈ Candidate.extract "<p class=\"ui-open\\:block\">".toList ∧
    ofClass? "ui-open\\:block".toList =
      some ".ui-open\\\\:block[data-state=\"open\\\"]".toList ∧
    readName (escape "ui-open\\:block".toList) = ("ui-open\\".toList, ":block".toList) ∧
    ¬ ∀ className, readName (escape className) = (className, []) := by
  have extracted : "ui-open\\:block".toList ∈
      Candidate.extract "<p class=\"ui-open\\:block\">".toList :=
    Candidate.mem_extract_iff.mpr
      ⟨"ui-open\\:block".toList, List.mem_append_left _ (by decide), by decide, by decide⟩
  refine ⟨extracted, by decide, by decide, fun all => ?_⟩
  exact absurd (all "ui-open\\:block".toList) (by decide)

end StateSheet.Selector
