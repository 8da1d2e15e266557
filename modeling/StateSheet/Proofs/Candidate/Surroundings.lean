import StateSheet.Proofs.Candidate.Attribute

/-!
# Nothing around an attribute hides its classes

Every valid token of a quoted value that is assigned to a class attribute is a
candidate of the text, whatever stands in front of the attribute and behind its
value (`surroundings_hide_no_candidate`). Stray quotes, other attributes and
unfinished markup make no difference.

An attribute is looked for at every place of a text. A search that goes on
behind each occurrence of the name, and so never looks inside one, finds the
same values (`attributeValuesApart_eq`): the first character of an attribute
name does not occur in it again, so no two occurrences overlap.
-/

set_option autoImplicit false

namespace StateSheet.Candidate

/-! ## Occurrences do not overlap -/

/-- The quoted values given to an attribute in a text that stands behind the
given character, when the search goes on behind each occurrence of the name.
`inside` counts the characters left of the occurrence found last. -/
def attributeValuesApart (name : Text) : Nat → Option Char → Text → List Text
  | _, _, [] => []
  | inside + 1, _, c :: rest => attributeValuesApart name inside (some c) rest
  | 0, behind, c :: rest =>
      match Text.dropPrefix? name (c :: rest) with
      | some _ =>
          (valueAt? name behind (c :: rest)).toList ++
            attributeValuesApart name (name.length - 1) (some c) rest
      | none => attributeValuesApart name 0 (some c) rest

theorem valueAt?_of_no_occurrence {name text : Text} (behind : Option Char)
    (absent : Text.dropPrefix? name text = none) : valueAt? name behind text = none := by
  rw [valueAt?, absent]

theorem attributeValuesBehind_cons (name : Text) (behind : Option Char) (c : Char)
    (rest : Text) :
    attributeValuesBehind name behind (c :: rest) =
      (valueAt? name behind (c :: rest)).toList ++ attributeValuesBehind name (some c) rest := by
  rw [attributeValuesBehind]
  cases valueAt? name behind (c :: rest) <;> rfl

/-- Where the first character of a name does not occur in it again, nothing is
found inside an occurrence. -/
theorem attributeValuesApart_eq_behind {first : Char} {more : Text} (once : first ∉ more)
    (inside : Nat) (behind : Option Char) (text : Text) (clear : first ∉ text.take inside) :
    attributeValuesApart (first :: more) inside behind text =
      attributeValuesBehind (first :: more) behind text := by
  induction text generalizing inside behind with
  | nil => cases inside <;> rfl
  | cons c rest ih =>
      rw [attributeValuesBehind_cons]
      cases inside with
      | succ left =>
          simp only [List.take_succ_cons, List.mem_cons, not_or] at clear
          have absent : Text.dropPrefix? (first :: more) (c :: rest) = none := by
            rw [Text.dropPrefix?, if_neg clear.1]
          rw [valueAt?_of_no_occurrence behind absent, attributeValuesApart]
          exact ih left (some c) clear.2
      | zero =>
          rw [attributeValuesApart]
          cases found : Text.dropPrefix? (first :: more) (c :: rest) with
          | none =>
              rw [valueAt?_of_no_occurrence behind found]
              exact ih 0 (some c) (by simp)
          | some after =>
              have occurs := Text.dropPrefix?_eq_some_iff.mp found
              simp only [List.cons_append, List.cons.injEq] at occurs
              have clearInside : first ∉ rest.take ((first :: more).length - 1) := by
                rw [occurs.2, List.length_cons, Nat.add_sub_cancel, List.take_left]
                exact once
              exact congrArg _ (ih _ (some c) clearInside)

/-- **The places of an attribute can be searched one behind another.** -/
theorem attributeValuesApart_eq {name : Text} (known : name ∈ attributeNames) (text : Text) :
    attributeValuesApart name 0 none text = attributeValues name text := by
  have once : ∃ first more, name = first :: more ∧ first ∉ more := by
    simp only [attributeNames, List.mem_cons, List.not_mem_nil, or_false] at known
    rcases known with rfl | rfl | rfl | rfl <;> exact ⟨_, _, rfl, by decide⟩
  obtain ⟨first, more, rfl, onceOnly⟩ := once
  exact attributeValuesApart_eq_behind onceOnly 0 none text (by simp)

/-! ## The surroundings -/

theorem QuotedBody.append {quote : Char} {first second : Text} (front : QuotedBody quote first)
    (back : QuotedBody quote second) : QuotedBody quote (first ++ second) := by
  induction front with
  | nil => exact back
  | plain notEscape notQuote keepsLine _ ih => exact .plain notEscape notQuote keepsLine ih
  | escaped _ ih => exact .escaped ih

/-- **The text around an attribute never hides its classes.** The name has to
stand at the start or behind a blank or a character that opens markup or an
expression. Then every valid token of the quoted body assigned to it is a
candidate of the whole text. -/
theorem surroundings_hide_no_candidate {name : Text}
    (holdsClasses : name ∈ attributeNames) (before : Text)
    (standsAlone : ∀ c ∈ before.getLast?, isBlank c = true ∨ c ∈ ['<', '\x7b', '(', ','])
    {first second : Text} (firstBlank : ∀ c ∈ first, isBlank c = true)
    (secondBlank : ∀ c ∈ second, isBlank c = true) {quote : Char}
    (isAQuote : quote ∈ ['"', '\'', '`']) {body : Text} (quoted : QuotedBody quote body)
    (rest : Text) {token : Text} (among : token ∈ tokens body)
    (valid : isValid token = true) :
    token ∈ extract (before ++
      (name ++ (first ++ '=' :: (second ++ quote :: (body ++ quote :: rest))))) := by
  have opened : opensAttribute before.getLast? = true := by
    cases last : before.getLast? with
    | none => rfl
    | some c =>
        have allowed := standsAlone c last
        simpa [opensAttribute, or_assoc] using allowed
  have quotes : isQuote quote = true := by
    simpa [isQuote_iff] using isAQuote
  have listed := mem_classLists_of_assigned holdsClasses opened firstBlank secondBlank quotes
    quoted rest
  exact mem_extract_iff.mpr ⟨body, listed, among, valid⟩

/-- A value in backticks that runs over two lines and holds an escaped backtick,
behind an unfinished attribute and in front of a stray quote. -/
theorem surroundings_hide_no_candidate_over_lines :
    QuotedBody '`' "p-2\n ui-open:w-[\\`] ui-closed:hidden".toList ∧
    "ui-open:w-[\\`]".toList ∈ extract
      "it's class=\"<p className = `p-2\n ui-open:w-[\\`] ui-closed:hidden` id='".toList := by
  have quoted : QuotedBody '`' "p-2\n ui-open:w-[\\`] ui-closed:hidden".toList := by
    have behindEscape : QuotedBody '`' "] ui-closed:hidden".toList := .of_forall (by simp)
    have secondLine : QuotedBody '`' " ui-open:w-[".toList := .of_forall (by simp)
    have firstLine : QuotedBody '`' "p-2".toList := .of_forall (by simp)
    have lines : "p-2\n ui-open:w-[\\`] ui-closed:hidden".toList = "p-2".toList ++
        '\n' :: (" ui-open:w-[".toList ++ '\\' :: '`' :: "] ui-closed:hidden".toList) := by
      decide
    rw [lines]
    exact firstLine.append
      (.plain (by decide) (by decide) (fun _ => rfl) (secondLine.append (.escaped behindEscape)))
  have standsAlone : ∀ c ∈ "it's class=\"<p ".toList.getLast?,
      isBlank c = true ∨ c ∈ ['<', '\x7b', '(', ','] := by
    rintro c ⟨⟩
    exact Or.inl rfl
  have holdsClasses : "className".toList ∈ attributeNames := by decide
  have oneBlank : ∀ c ∈ [' '], isBlank c = true := List.forall_mem_singleton.mpr (by decide)
  have isAQuote : '`' ∈ ['"', '\'', '`'] := by decide
  have among : "ui-open:w-[\\`]".toList ∈
      tokens "p-2\n ui-open:w-[\\`] ui-closed:hidden".toList := by decide
  have valid : isValid "ui-open:w-[\\`]".toList = true := by decide
  have assigned :
      "it's class=\"<p className = `p-2\n ui-open:w-[\\`] ui-closed:hidden` id='".toList =
        "it's class=\"<p ".toList ++ ("className".toList ++ ([' '] ++ '=' :: ([' '] ++
          '`' :: ("p-2\n ui-open:w-[\\`] ui-closed:hidden".toList ++ '`' :: " id='".toList)))) := by
    decide
  rw [assigned]
  exact ⟨quoted, surroundings_hide_no_candidate holdsClasses _ standsAlone oneBlank oneBlank
    isAQuote quoted _ among valid⟩

end StateSheet.Candidate
