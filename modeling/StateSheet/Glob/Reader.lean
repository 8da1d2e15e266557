import StateSheet.Glob.Token

/-!
# Reading globs

A glob is read from the left into its tokens. A backslash takes away the
meaning of the character behind it, brackets hold a class, and braces hold
alternatives between commas, which may nest. What two stars stand for depends
on the characters on both sides of them.

Two dialects are read. In path filters a wildcard passes over separators. In
ignore files it does not, and a bracket that is never closed stands for itself.
-/

set_option autoImplicit false

namespace StateSheet.Glob

/-! ## Faults -/

/-- Why a text is not a glob. -/
inductive Fault where
  /-- A bracket opens a class that is never closed. -/
  | unclosedClass
  /-- A range of a class runs downwards. -/
  | invalidRange (lower upper : Char)
  /-- A brace closes a group that was never opened. -/
  | unopenedGroup
  /-- A brace opens a group that is never closed. -/
  | unclosedGroup
  /-- A backslash stands at the end. -/
  | danglingEscape
deriving DecidableEq, Repr

/-- The wording of a fault. -/
def Fault.message : Fault → Text
  | .unclosedClass => "unclosed character class; missing ']'".toList
  | .invalidRange lower upper =>
      "invalid range; '".toList ++ [lower] ++ "' > '".toList ++ [upper] ++ ['\'']
  | .unopenedGroup =>
      "unopened alternate group; missing '\x7b' (maybe escape '\x7d' with '[\x7d]'?)".toList
  | .unclosedGroup =>
      "unclosed alternate group; missing '\x7d' (maybe escape '\x7b' with '[\x7b]'?)".toList
  | .danglingEscape => "dangling '\\'".toList

/-! ## Classes -/

/-- The ranges of characters read so far in a class (the latest first), and
whether a range has been begun. -/
structure ClassState where
  ranges : List (Char × Char)
  inRange : Bool

/-- The latest range with its upper end moved. -/
def ClassState.extend (state : ClassState) (c : Char) : Except Fault ClassState :=
  match state.ranges with
  | [] => .ok ⟨[(c, c)], false⟩
  | (lower, _) :: earlier =>
      if c < lower then .error (.invalidRange lower c)
      else .ok ⟨(lower, c) :: earlier, false⟩

/-- A class from a given point on: its ranges and the text behind its closing
bracket. The first character of a class is never special. -/
def readRanges (first : Bool) (state : ClassState) :
    Text → Except Fault (List (Char × Char) × Text)
  | [] => .error .unclosedClass
  | c :: rest =>
      if c = ']' ∧ first = false then
        let ranges := if state.inRange then ('-', '-') :: state.ranges else state.ranges
        .ok (ranges.reverse, rest)
      else if first then readRanges false ⟨[(c, c)], false⟩ rest
      else if state.inRange then
        match state.extend c with
        | .error fault => .error fault
        | .ok extended => readRanges false extended rest
      else if c = '-' then readRanges false { state with inRange := true } rest
      else readRanges false ⟨(c, c) :: state.ranges, false⟩ rest

/-- What follows a class is shorter than what it was read from. -/
theorem length_lt_of_readRanges {first : Bool} {state : ClassState} {text rest : Text}
    {ranges : List (Char × Char)} (read : readRanges first state text = .ok (ranges, rest)) :
    rest.length < text.length := by
  fun_induction readRanges first state text with
  | case1 => simp at read
  | case2 state c after closes ranges' =>
      simp only [Except.ok.injEq, Prod.mk.injEq] at read
      simp [← read.2]
  | case3 state c after closes ih =>
      have shorter := ih read
      simp only [List.length_cons]; omega
  | case4 => simp at read
  | case5 first state c after closes later begun extended found ih =>
      have shorter := ih read
      simp only [List.length_cons]; omega
  | case6 first state after closes later begun ih =>
      have shorter := ih read
      simp only [List.length_cons]; omega
  | case7 first state c after closes later begun dash ih =>
      have shorter := ih read
      simp only [List.length_cons]; omega

/-- The class behind an opening bracket, and the text behind the closing one. -/
def readClass (text : Text) : Except Fault (Token × Text) :=
  let negated := text.head? = some '!' ∨ text.head? = some '^'
  match readRanges true ⟨[], false⟩ (if negated then text.tail else text) with
  | .error fault => .error fault
  | .ok (ranges, rest) => .ok (.oneOf (decide negated) ranges, rest)

/-- What follows a class is shorter than what it was read from. -/
theorem length_lt_of_readClass {text rest : Text} {token : Token}
    (read : readClass text = .ok (token, rest)) : rest.length < text.length := by
  simp only [readClass] at read
  split at read
  · simp at read
  · rename_i ranges after found
    simp only [Except.ok.injEq, Prod.mk.injEq] at read
    have shorter := length_lt_of_readRanges found
    rw [← read.2]
    split at shorter
    · have : text.tail.length ≤ text.length := by simp
      omega
    · exact shorter

/-! ## Two stars -/

/-- The tokens (in reverse) after the token in front of two stars that make up
a component has given way to them. -/
def replaceLast (replacement : Token) : List Token → List Token
  | .leadingDirectories :: earlier => .leadingDirectories :: earlier
  | .trailingEntries :: earlier => .trailingEntries :: earlier
  | _ :: earlier => replacement :: earlier
  | [] => [replacement]

/-- The tokens (in reverse) after two stars, and the text that remains. What
the stars stand for depends on the characters on both sides of them: `behind`
is the character in front of the stars, `inGroup` says whether they stand in a
group, and `text` is what follows. -/
def readTwoStars (inGroup : Bool) (behind : Option Char) (tokens : List Token) (text : Text) :
    List Token × Text :=
  let plainStars := (.many :: .many :: tokens, text)
  if tokens.isEmpty then
    match text with
    | [] => ([.leadingDirectories], [])
    | '/' :: rest => ([.leadingDirectories], rest)
    | _ => plainStars
  else if behind = some '/' ∨ (inGroup ∧ (behind = some ',' ∨ behind = some '\x7b')) then
    match text with
    | [] => (replaceLast .trailingEntries tokens, [])
    | '/' :: rest => (replaceLast .innerDirectories tokens, rest)
    | c :: _ =>
        if inGroup ∧ (c = ',' ∨ c = '\x7d') then (replaceLast .trailingEntries tokens, text)
        else plainStars
  else plainStars

/-- Two stars take nothing from the text behind them but one separator. -/
theorem length_readTwoStars_le (inGroup : Bool) (behind : Option Char) (tokens : List Token)
    (text : Text) : (readTwoStars inGroup behind tokens text).2.length ≤ text.length := by
  unfold readTwoStars
  split
  · split <;> simp
  · split
    · split
      · simp
      · simp
      · split <;> simp
    · simp

/-! ## Globs -/

/-- A group that is being read: the tokens in front of it and the alternatives
read so far, both in reverse. -/
structure OpenGroup where
  outer : List Token
  alternatives : List (List Token)

/-- The tokens of a glob in reverse, read from a given point on. `groups` are the open groups
from the inside out, `tokens` the tokens read so far of the innermost
alternative (in reverse), `behind` the character read last, and `loose` says
that a bracket stands for itself from here on. -/
def readTokens (dialect : Dialect) (groups : List OpenGroup) (tokens : List Token)
    (behind : Option Char) (loose : Bool) (text : Text) : Except Fault (List Token) :=
  match text with
  | [] => if groups.isEmpty then .ok tokens else .error .unclosedGroup
  | '?' :: rest =>
      readTokens dialect groups (.one :: tokens) (some '?') loose rest
  | '*' :: '*' :: rest =>
      have := length_readTwoStars_le (!groups.isEmpty) behind tokens rest
      let stars := readTwoStars (!groups.isEmpty) behind tokens rest
      let last := if stars.2.length < rest.length then '/' else '*'
      readTokens dialect groups stars.1 (some last) loose stars.2
  | '*' :: rest =>
      readTokens dialect groups (.many :: tokens) (some '*') loose rest
  | '[' :: rest =>
      if loose then
        readTokens dialect groups (.literal '[' :: tokens) (some '[') loose rest
      else
        match found : readClass rest with
        | .ok (token, after) =>
            have : after.length < rest.length := length_lt_of_readClass found
            readTokens dialect groups (token :: tokens) (some ']') loose after
        | .error .unclosedClass =>
            if dialect.looseBrackets then
              readTokens dialect groups (.literal '[' :: tokens) (some '[') true rest
            else .error .unclosedClass
        | .error fault => .error fault
  | '\x7b' :: rest =>
      readTokens dialect (⟨tokens, []⟩ :: groups) [] (some '\x7b') loose rest
  | '\x7d' :: rest =>
      match groups with
      | [] => .error .unopenedGroup
      | group :: outerGroups =>
          let alternatives := (tokens.reverse :: group.alternatives).reverse
          readTokens dialect outerGroups (.group alternatives :: group.outer) (some '\x7d') loose
            rest
  | ',' :: rest =>
      match groups with
      | [] => readTokens dialect [] (.literal ',' :: tokens) (some ',') loose rest
      | group :: outerGroups =>
          let alternatives := tokens.reverse :: group.alternatives
          readTokens dialect (⟨group.outer, alternatives⟩ :: outerGroups) [] (some ',') loose rest
  | ['\\'] => .error .danglingEscape
  | '\\' :: c :: rest =>
      readTokens dialect groups (.literal c :: tokens) (some c) loose rest
  | c :: rest =>
      readTokens dialect groups (.literal c :: tokens) (some c) loose rest
termination_by text.length

/-- The tokens that a glob is read into. -/
def read (dialect : Dialect) (text : Text) : Except Fault (List Token) :=
  (readTokens dialect [] [] none false text).map List.reverse

end StateSheet.Glob
