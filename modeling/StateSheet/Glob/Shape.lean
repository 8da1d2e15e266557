import StateSheet.Text.Basic

/-!
# Shapes of byte strings

What a glob stands for: single bytes and runs of bytes out of a class, one
shape behind another, and the choice of two shapes.

Matching is decided by sweeping over the bytes once for every part of the
shape. The sweep carries a mark for each position of the bytes, which says
whether the rest of the shape matches from there; a part turns the marks of
what follows it into its own. So the work is the size of the shape times the
number of bytes. The sweep decides the relation that the parts define
(`accepts_iff`).
-/

set_option autoImplicit false

namespace StateSheet.Glob

/-! ## Classes of bytes -/

/-- The bytes inside some ranges, or all others. -/
structure ByteClass where
  negated : Bool
  ranges : List (UInt8 × UInt8)
deriving DecidableEq, Repr

namespace ByteClass

/-- Is a byte in the class? -/
def contains (bytes : ByteClass) (b : UInt8) : Bool :=
  bytes.negated != bytes.ranges.any fun range => range.1 ≤ b && b ≤ range.2

/-- The class of a single byte. -/
def single (b : UInt8) : ByteClass := ⟨false, [(b, b)]⟩

/-- The class of all bytes. -/
def any : ByteClass := ⟨true, []⟩

/-- The byte that separates the components of a path. -/
def slash : UInt8 := 47

/-- The class of the bytes of a name. -/
def name : ByteClass := ⟨true, [(slash, slash)]⟩

end ByteClass

/-! ## Shapes -/

/-- A shape that byte strings can have. -/
inductive Shape where
  /-- No byte. -/
  | empty
  /-- One byte of a class. -/
  | one (bytes : ByteClass)
  /-- Any number of bytes of a class. -/
  | many (bytes : ByteClass)
  /-- One shape behind another. -/
  | append (first second : Shape)
  /-- One of two shapes. -/
  | either (first second : Shape)
deriving DecidableEq, Repr

namespace Shape

/-- The byte strings that have a shape. -/
def Matches : Shape → List UInt8 → Prop
  | empty, input => input = []
  | one bytes, input => ∃ b, input = [b] ∧ bytes.contains b = true
  | many bytes, input => ∀ b ∈ input, bytes.contains b = true
  | append first second, input =>
      ∃ front back, input = front ++ back ∧ first.Matches front ∧ second.Matches back
  | either first second, input => first.Matches input ∨ second.Matches input

/-- Shapes one behind another. -/
def sequence (shapes : List Shape) : Shape := shapes.foldr append empty

/-- Does a shape hold nothing but empty parts? -/
def isVoid : Shape → Bool
  | empty => true
  | append first second => first.isVoid && second.isVoid
  | one _ | many _ | either _ _ => false

/-- The choice of several shapes, of which void ones do not count. With none
left, the choice is empty. -/
def choice (shapes : List Shape) : Shape :=
  match (shapes.filter fun shape => !shape.isVoid).reverse with
  | [] => empty
  | last :: others => others.foldl (fun rest shape => either shape rest) last

/-! ## Marks -/

/-- A mark for every position of the input, from its start to its end. -/
def marks (test : List UInt8 → Bool) : List UInt8 → List Bool
  | [] => [test []]
  | b :: rest => test (b :: rest) :: marks test rest

/-- The marks of one byte of a class before the given marks. -/
def sweepOne (bytes : ByteClass) : List UInt8 → List Bool → List Bool
  | b :: rest, _ :: later => (bytes.contains b && later.headD false) :: sweepOne bytes rest later
  | _, _ => [false]

/-- The marks of a run of bytes of a class before the given marks. -/
def sweepMany (bytes : ByteClass) : List UInt8 → List Bool → List Bool
  | b :: rest, here :: later =>
      let swept := sweepMany bytes rest later
      (here || (bytes.contains b && swept.headD false)) :: swept
  | _, ends => ends

/-- The marks of a shape before the given marks. -/
def sweep : Shape → List UInt8 → List Bool → List Bool
  | empty, _, after => after
  | one bytes, input, after => sweepOne bytes input after
  | many bytes, input, after => sweepMany bytes input after
  | append first second, input, after => first.sweep input (second.sweep input after)
  | either first second, input, after =>
      List.zipWith (· || ·) (first.sweep input after) (second.sweep input after)

/-- Do the bytes have the shape? -/
def accepts (shape : Shape) (input : List UInt8) : Bool :=
  (shape.sweep input (marks List.isEmpty input)).headD false

/-! ## What the sweep decides -/

/-- A shape in front of what a test asks of the rest. -/
def before (shape : Shape) (test : List UInt8 → Bool) : List UInt8 → Bool :=
  match shape with
  | empty => test
  | one bytes => fun
      | [] => false
      | b :: rest => bytes.contains b && test rest
  | many bytes =>
      let rec run : List UInt8 → Bool
        | [] => test []
        | b :: rest => test (b :: rest) || (bytes.contains b && run rest)
      run
  | append first second => first.before (second.before test)
  | either first second => fun input => first.before test input || second.before test input

@[simp] theorem headD_marks (test : List UInt8 → Bool) (input : List UInt8) :
    (marks test input).headD false = test input := by
  cases input <;> rfl

theorem zipWith_marks (first second : List UInt8 → Bool) (input : List UInt8) :
    List.zipWith (· || ·) (marks first input) (marks second input) =
      marks (fun rest => first rest || second rest) input := by
  induction input with
  | nil => rfl
  | cons b rest ih => simp [marks, ih]

/-- The sweep turns the marks of a test into the marks of the shape in front of
that test. -/
theorem sweep_marks (shape : Shape) (test : List UInt8 → Bool) (input : List UInt8) :
    shape.sweep input (marks test input) = marks (shape.before test) input := by
  induction shape generalizing test with
  | empty => rfl
  | one bytes =>
      induction input with
      | nil => rfl
      | cons b rest ih =>
          simp only [sweep] at ih
          simp only [sweep, sweepOne, marks, ih, headD_marks]
          rfl
  | many bytes =>
      induction input with
      | nil => rfl
      | cons b rest ih =>
          simp only [sweep] at ih
          simp only [sweep, sweepMany, marks, ih, headD_marks]
          rfl
  | append first second firstIh secondIh => simp [sweep, before, firstIh, secondIh]
  | either first second firstIh secondIh =>
      simp [sweep, before, firstIh, secondIh, zipWith_marks]

/-- A shape stands in front of a test where the input divides into a front
with the shape and a rest that passes. -/
theorem before_iff (shape : Shape) (test : List UInt8 → Bool) (input : List UInt8) :
    shape.before test input = true ↔
      ∃ front back, input = front ++ back ∧ shape.Matches front ∧ test back = true := by
  induction shape generalizing test input with
  | empty =>
      simp only [before, Matches]
      constructor
      · exact fun passes => ⟨[], input, rfl, rfl, passes⟩
      · rintro ⟨_, back, rfl, rfl, passes⟩
        exact passes
  | one bytes =>
      cases input with
      | nil => simp [before, Matches]
      | cons b rest =>
          simp only [before, Matches, Bool.and_eq_true]
          constructor
          · exact fun held => ⟨[b], rest, rfl, ⟨b, rfl, held.1⟩, held.2⟩
          · rintro ⟨_, back, split, ⟨c, rfl, inClass⟩, passes⟩
            simp only [List.singleton_append, List.cons.injEq] at split
            obtain ⟨rfl, rfl⟩ := split
            exact ⟨inClass, passes⟩
  | many bytes =>
      change before.run test bytes input = true ↔ _
      induction input with
      | nil =>
          simp only [before.run, Matches]
          constructor
          · exact fun passes => ⟨[], [], rfl, by simp, passes⟩
          · rintro ⟨front, back, split, _, passes⟩
            obtain ⟨rfl, rfl⟩ := List.append_eq_nil_iff.mp split.symm
            exact passes
      | cons b rest ih =>
          simp only [before.run, Bool.or_eq_true, Bool.and_eq_true, ih, Matches]
          constructor
          · rintro (passes | ⟨inClass, front, back, rfl, inFront, passes⟩)
            · exact ⟨[], b :: rest, rfl, by simp, passes⟩
            · exact ⟨b :: front, back, rfl, by simpa using ⟨inClass, inFront⟩, passes⟩
          · rintro ⟨front, back, split, inFront, passes⟩
            cases front with
            | nil => exact Or.inl (by simpa [split] using passes)
            | cons c front =>
                simp only [List.cons_append, List.cons.injEq] at split
                obtain ⟨rfl, rfl⟩ := split
                simp only [List.mem_cons, forall_eq_or_imp] at inFront
                exact Or.inr ⟨inFront.1, front, back, rfl, inFront.2, passes⟩
  | append first second firstIh secondIh =>
      simp only [before, firstIh, secondIh, Matches]
      constructor
      · rintro ⟨front, _, rfl, firstMatches, middle, back, rfl, secondMatches, passes⟩
        exact ⟨front ++ middle, back, by simp, ⟨front, middle, rfl, firstMatches, secondMatches⟩,
          passes⟩
      · rintro ⟨_, back, rfl, ⟨front, middle, rfl, firstMatches, secondMatches⟩, passes⟩
        exact ⟨front, middle ++ back, by simp, firstMatches, middle, back, rfl, secondMatches,
          passes⟩
  | either first second firstIh secondIh =>
      simp only [before, Bool.or_eq_true, firstIh, secondIh, Matches]
      constructor
      · rintro (⟨front, back, split, held, passes⟩ | ⟨front, back, split, held, passes⟩)
        · exact ⟨front, back, split, Or.inl held, passes⟩
        · exact ⟨front, back, split, Or.inr held, passes⟩
      · rintro ⟨front, back, split, held | held, passes⟩
        · exact Or.inl ⟨front, back, split, held, passes⟩
        · exact Or.inr ⟨front, back, split, held, passes⟩

/-- The sweep accepts exactly the bytes that have the shape. -/
theorem accepts_iff (shape : Shape) (input : List UInt8) :
    shape.accepts input = true ↔ shape.Matches input := by
  rw [accepts, sweep_marks, headD_marks, before_iff]
  constructor
  · rintro ⟨front, back, rfl, held, isEnd⟩
    simpa [List.isEmpty_iff.mp isEnd] using held
  · exact fun held => ⟨input, [], by simp, held, rfl⟩

end Shape

end StateSheet.Glob
