import StateSheet.Command.Arguments
import StateSheet.Proofs.Traversal
import Mathlib.Data.List.Basic

/-!
# The grammar of arguments

The arguments behind the name of a command are a run of segments in any order: an input,
or an option, with the value behind it if it takes one (`Segment`). A value is whatever
argument stands there, so it may look like an option itself.

A run of segments adds to a build order what its segments say, and sets the options that
only some commands know aside (`readOrder_segments`). The other way round, whatever is
read without a fault is a run of segments, but for a polling interval at the end that
lacks its value (`leavesOver_of_readOrder`). A build order leaves nothing aside, so
it is read from the segments that `build` knows, and `scan` knows two kinds of these
(`arguments_are_runs_of_segments`).
-/

set_option autoImplicit false

namespace StateSheet

/-! ## Segments -/

/-- The options that `build` and `watch` read in their first pass. -/
def knownOptions : List Text :=
  outputOptions ++ configOptions ++ ignoreOptions ++ minifyOptions ++ [intervalOption]

/-- A part of the arguments that is read at once: an input, or an option with its
value. -/
inductive Segment where
  | input (text : Text) (plain : looksLikeOption text = false)
  | output (option : Text) (known : option ∈ outputOptions) (value : Text)
  | config (option : Text) (known : option ∈ configOptions) (value : Text)
  | ignore (option : Text) (known : option ∈ ignoreOptions) (value : Text)
  | minify (option : Text) (known : option ∈ minifyOptions)
  | interval (value : Text)
  | foreign (option : Text) (dashed : looksLikeOption option = true)
      (unknown : option ∉ knownOptions)

namespace Segment

/-- The arguments of a segment. -/
def written : Segment → List Text
  | input text _ => [text]
  | output option _ value | config option _ value | ignore option _ value => [option, value]
  | minify option _ | foreign option _ _ => [option]
  | interval value => [intervalOption, value]

/-- The arguments that the first pass of `build` and `watch` leaves of a segment. -/
def leftOver : Segment → List Text
  | interval value => [intervalOption, value]
  | foreign option _ _ => [option]
  | _ => []

/-- Does `build` know a segment? -/
def builds : Segment → Bool
  | interval _ | foreign .. => false
  | _ => true

/-- Does `scan` know a segment? -/
def selects : Segment → Bool
  | input .. | ignore .. => true
  | _ => false

/-- The input that a segment gives. -/
def input? : Segment → Option Text
  | input text _ => some text
  | _ => none

/-- The ignore glob that a segment gives. -/
def ignore? : Segment → Option Text
  | ignore _ _ value => some value
  | _ => none

/-- The place for the stylesheet that a segment gives. -/
def output? : Segment → Option Text
  | output _ _ value => some value
  | _ => none

/-- The place of the settings that a segment gives. -/
def config? : Segment → Option Text
  | config _ _ value => some value
  | _ => none

/-- Does a segment ask to minify? -/
def minifies : Segment → Bool
  | minify .. => true
  | _ => false

theorem leftOver_eq_nil_iff {segment : Segment} :
    segment.leftOver = [] ↔ segment.builds = true := by
  cases segment <;> simp [leftOver, builds]

end Segment

/-! ## What segments add -/

/-- The selection with what segments add to it. -/
def Selection.extended (selection : Selection) (segments : List Segment) : Selection where
  inputs := selection.inputs ++ segments.filterMap Segment.input?
  ignore := selection.ignore ++ segments.filterMap Segment.ignore?

/-- The build order with what segments add to it. Of several outputs or settings the last
counts. -/
def BuildOrder.extended (order : BuildOrder) (segments : List Segment) : BuildOrder where
  selection := order.selection.extended segments
  output? := (segments.filterMap Segment.output?).getLast?.or order.output?
  config? := (segments.filterMap Segment.config?).getLast?.or order.config?
  minify := order.minify || segments.any Segment.minifies

theorem Selection.extended_nil (selection : Selection) : selection.extended [] = selection := by
  simp [extended]

theorem BuildOrder.extended_nil (order : BuildOrder) : order.extended [] = order := by
  simp [extended, Selection.extended_nil]

theorem Selection.extended_append (selection : Selection) (first second : List Segment) :
    selection.extended (first ++ second) = (selection.extended first).extended second := by
  simp [extended]

theorem BuildOrder.extended_append (order : BuildOrder) (first second : List Segment) :
    order.extended (first ++ second) = (order.extended first).extended second := by
  simp [extended, Selection.extended_append, Option.or_assoc, Bool.or_assoc]

/-- The build order with what one segment adds to it. -/
def BuildOrder.add (order : BuildOrder) : Segment → BuildOrder
  | .input text _ => order.addInput text
  | .output _ _ value => { order with output? := some value }
  | .config _ _ value => { order with config? := some value }
  | .ignore _ _ value => order.addIgnore value
  | .minify .. => { order with minify := true }
  | .interval _ | .foreign .. => order

theorem BuildOrder.extended_singleton (order : BuildOrder) (segment : Segment) :
    order.extended [segment] = order.add segment := by
  cases segment <;>
    simp [extended, add, addInput, addIgnore, Selection.extended, List.filterMap_cons,
      Segment.input?, Segment.ignore?, Segment.output?, Segment.config?, Segment.minifies]

theorem BuildOrder.extended_cons (order : BuildOrder) (segment : Segment)
    (segments : List Segment) :
    order.extended (segment :: segments) = (order.add segment).extended segments := by
  rw [← extended_singleton, ← extended_append, List.singleton_append]

/-! ## Reading a run of segments -/

theorem looksLikeOption_of_known : ∀ option ∈ knownOptions, looksLikeOption option = true := by
  decide

/-- What is no known option is none of its kinds. -/
theorem not_mem_knownOptions_iff {option : Text} :
    option ∉ knownOptions ↔ option ∉ outputOptions ∧ option ∉ configOptions ∧
      option ∉ ignoreOptions ∧ option ∉ minifyOptions ∧ option ≠ intervalOption := by
  simp only [knownOptions, List.mem_append, List.mem_singleton, not_or, and_assoc, ne_eq]

theorem not_mem_knownOptions_of_plain {text : Text} (plain : looksLikeOption text = false) :
    text ∉ knownOptions := by
  intro known
  rw [looksLikeOption_of_known text known] at plain
  cases plain

variable {verb : Verb}

/-- **A segment in front is read whole**, and what it leaves over is set aside. -/
theorem readOrder_segment (order : BuildOrder) (aside : List Text) (segment : Segment)
    (rest : List Text) :
    readOrder verb order aside (segment.written ++ rest) =
      readOrder verb (order.add segment) (aside ++ segment.leftOver) rest := by
  cases segment with
  | input text plain =>
      obtain ⟨notOutput, notConfig, notIgnore, notMinify, notInterval⟩ :=
        not_mem_knownOptions_iff.mp (not_mem_knownOptions_of_plain plain)
      change readOrder verb order aside (text :: rest) =
        readOrder verb (order.addInput text) (aside ++ []) rest
      rw [List.append_nil, readOrder.eq_def]
      simp only [if_neg notOutput, if_neg notConfig, if_neg notIgnore, if_neg notMinify,
        if_neg notInterval, plain, Bool.false_eq_true, if_false]
  | output option known value =>
      change readOrder verb order aside (option :: value :: rest) =
        readOrder verb { order with output? := some value } (aside ++ []) rest
      rw [List.append_nil, readOrder, if_pos known]
  | config option known value =>
      have notOutput : option ∉ outputOptions := by
        revert option
        decide
      change readOrder verb order aside (option :: value :: rest) =
        readOrder verb { order with config? := some value } (aside ++ []) rest
      rw [List.append_nil, readOrder, if_neg notOutput, if_pos known]
  | ignore option known value =>
      have other : option ∉ outputOptions ∧ option ∉ configOptions := by
        revert option
        decide
      change readOrder verb order aside (option :: value :: rest) =
        readOrder verb (order.addIgnore value) (aside ++ []) rest
      rw [List.append_nil, readOrder, if_neg other.1, if_neg other.2, if_pos known]
  | minify option known =>
      have other : option ∉ outputOptions ∧ option ∉ configOptions ∧ option ∉ ignoreOptions := by
        revert option
        decide
      change readOrder verb order aside (option :: rest) =
        readOrder verb { order with minify := true } (aside ++ []) rest
      rw [List.append_nil, readOrder.eq_def]
      simp only [if_neg other.1, if_neg other.2.1, if_neg other.2.2, if_pos known]
  | interval value =>
      have other : intervalOption ∉ outputOptions ∧ intervalOption ∉ configOptions ∧
          intervalOption ∉ ignoreOptions ∧ intervalOption ∉ minifyOptions := by
        decide
      change readOrder verb order aside (intervalOption :: value :: rest) =
        readOrder verb order (aside ++ [intervalOption, value]) rest
      rw [readOrder, if_neg other.1, if_neg other.2.1, if_neg other.2.2.1, if_neg other.2.2.2,
        if_pos rfl]
  | foreign option dashed unknown =>
      obtain ⟨notOutput, notConfig, notIgnore, notMinify, notInterval⟩ :=
        not_mem_knownOptions_iff.mp unknown
      change readOrder verb order aside (option :: rest) =
        readOrder verb order (aside ++ [option]) rest
      rw [readOrder.eq_def]
      simp only [if_neg notOutput, if_neg notConfig, if_neg notIgnore, if_neg notMinify,
        if_neg notInterval, if_pos dashed]

/-- **A run of segments is read segment by segment**, whatever stands behind it. -/
theorem readOrder_segments (order : BuildOrder) (aside : List Text) (segments : List Segment)
    (rest : List Text) :
    readOrder verb order aside (segments.flatMap Segment.written ++ rest) =
      readOrder verb (order.extended segments) (aside ++ segments.flatMap Segment.leftOver)
        rest := by
  induction segments generalizing order aside with
  | nil => simp [BuildOrder.extended_nil]
  | cons segment more ih =>
      rw [List.flatMap_cons, List.append_assoc, readOrder_segment, ih,
        BuildOrder.extended_cons, List.flatMap_cons, List.append_assoc]

/-! ## What is read is a run of segments -/

/-- Arguments that are a run of segments which leave something over, but for a polling
interval at the end that lacks its value. -/
inductive LeavesOver : List Text → List Text → Prop where
  | run (segments : List Segment) :
      LeavesOver (segments.flatMap Segment.written) (segments.flatMap Segment.leftOver)
  | cut (segments : List Segment) :
      LeavesOver (segments.flatMap Segment.written ++ [intervalOption])
        (segments.flatMap Segment.leftOver ++ [intervalOption])

theorem LeavesOver.behind (segment : Segment) {arguments left : List Text}
    (leaves : LeavesOver arguments left) :
    LeavesOver (segment.written ++ arguments) (segment.leftOver ++ left) := by
  cases leaves with
  | run segments => exact .run (segment :: segments)
  | cut segments =>
      rw [← List.append_assoc, ← List.append_assoc]
      exact .cut (segment :: segments)

/-- **Whatever is read without a fault is a run of segments**, and what they leave over is
set aside. -/
theorem leavesOver_of_readOrder {order found : BuildOrder} {aside arguments kept : List Text}
    (read : readOrder verb order aside arguments = .ok (found, kept)) :
    ∃ left, kept = aside ++ left ∧ LeavesOver arguments left := by
  fun_induction readOrder verb order aside arguments with
  | case1 | case3 | case5 | case7 => cases read
  | case2 order aside =>
      cases read
      exact ⟨[], (List.append_nil _).symm, .run []⟩
  | case4 order aside option known value rest ih =>
      obtain ⟨left, rfl, leaves⟩ := ih read
      exact ⟨left, rfl, leaves.behind (.output option known value)⟩
  | case6 order aside option _ known value rest ih =>
      obtain ⟨left, rfl, leaves⟩ := ih read
      exact ⟨left, rfl, leaves.behind (.config option known value)⟩
  | case8 order aside option _ _ known value rest ih =>
      obtain ⟨left, rfl, leaves⟩ := ih read
      exact ⟨left, rfl, leaves.behind (.ignore option known value)⟩
  | case9 order aside option rest _ _ _ known ih =>
      obtain ⟨left, rfl, leaves⟩ := ih read
      exact ⟨left, rfl, leaves.behind (.minify option known)⟩
  | case10 order aside =>
      rw [readOrder] at read
      split at read
      · cases read
      · cases read
        exact ⟨[intervalOption], rfl, .cut []⟩
  | case11 order aside value rest _ _ _ _ ih =>
      obtain ⟨left, rfl, leaves⟩ := ih read
      exact ⟨[intervalOption, value] ++ left, List.append_assoc _ _ _,
        leaves.behind (.interval value)⟩
  | case12 order aside option rest notOutput notConfig notIgnore notMinify notInterval dashed ih =>
      have unknown : option ∉ knownOptions :=
        not_mem_knownOptions_iff.mpr ⟨notOutput, notConfig, notIgnore, notMinify, notInterval⟩
      obtain ⟨left, rfl, leaves⟩ := ih read
      exact ⟨[option] ++ left, List.append_assoc _ _ _,
        leaves.behind (.foreign option dashed unknown)⟩
  | case13 order aside text rest _ _ _ _ _ notDashed ih =>
      obtain ⟨left, rfl, leaves⟩ := ih read
      exact ⟨left, rfl, leaves.behind (.input text (Bool.not_eq_true _ ▸ notDashed))⟩

/-- A run of segments is read whole when it has an input. -/
theorem readOrder_run (order : BuildOrder) (segments : List Segment) :
    readOrder verb order [] (segments.flatMap Segment.written) =
      if (order.extended segments).selection.inputs = [] then .error (.missingInput verb)
      else .ok (order.extended segments, segments.flatMap Segment.leftOver) := by
  rw [← List.append_nil (segments.flatMap Segment.written), readOrder_segments, List.nil_append,
    readOrder]

/-- **`build` reads the runs of segments that it knows and that have an input.** -/
theorem readBuild_eq_ok_iff {arguments : List Text} {order : BuildOrder} :
    readBuild arguments = .ok order ↔
      ∃ segments : List Segment, (∀ segment ∈ segments, segment.builds = true) ∧
        arguments = segments.flatMap Segment.written ∧
        segments.filterMap Segment.input? ≠ [] ∧
        order = ({} : BuildOrder).extended segments := by
  constructor
  · intro built
    unfold readBuild at built
    split at built
    · cases built
    · next found read =>
        cases built
        obtain ⟨left, nothing, leaves⟩ := leavesOver_of_readOrder read
        cases leaves with
        | run segments =>
            have known : ∀ segment ∈ segments, segment.builds = true := fun segment member =>
              Segment.leftOver_eq_nil_iff.mp
                (List.flatMap_eq_nil_iff.mp nothing.symm segment member)
            rw [readOrder_run] at read
            split at read
            · cases read
            · next present =>
                obtain ⟨rfl, -⟩ := Prod.mk.inj (Except.ok.inj read)
                exact ⟨segments, known, rfl, present, rfl⟩
        | cut segments => simp at nothing
    · cases built
  · rintro ⟨segments, known, rfl, present, rfl⟩
    have nothing : segments.flatMap Segment.leftOver = [] :=
      List.flatMap_eq_nil_iff.mpr fun segment member =>
        Segment.leftOver_eq_nil_iff.mpr (known segment member)
    have inputs : (({} : BuildOrder).extended segments).selection.inputs ≠ [] := present
    rw [readBuild, readOrder_run, if_neg inputs, nothing]

/-! ## The arguments of `scan` -/

/-- A segment that `scan` knows is read whole. -/
theorem readSelection_segment (selection : Selection) {segment : Segment}
    (known : segment.selects = true) (rest : List Text) :
    readSelection selection (segment.written ++ rest) =
      readSelection (selection.extended [segment]) rest := by
  cases segment with
  | input text plain =>
      have unknown := not_mem_knownOptions_iff.mp (not_mem_knownOptions_of_plain plain)
      have notIgnore : text ∉ ignoreOptions := unknown.2.2.1
      cases rest <;>
        simp [Segment.written, readSelection, notIgnore, plain, Selection.extended,
          Segment.input?, Segment.ignore?, List.filterMap_cons]
  | ignore option among value =>
      simp [Segment.written, readSelection, among, Selection.extended, Segment.input?,
        Segment.ignore?, List.filterMap_cons]
  | output | config | minify | interval | foreign => cases known

theorem readSelection_run (selection : Selection) {segments : List Segment}
    (known : ∀ segment ∈ segments, segment.selects = true) :
    readSelection selection (segments.flatMap Segment.written) =
      if (selection.extended segments).inputs = [] then .error (.missingInput .scan)
      else .ok (selection.extended segments) := by
  induction segments generalizing selection with
  | nil => rw [List.flatMap_nil, readSelection, Selection.extended_nil]
  | cons segment more ih =>
      obtain ⟨first, others⟩ := List.forall_mem_cons.mp known
      rw [List.flatMap_cons, readSelection_segment selection first, ih _ others,
        ← Selection.extended_append, List.singleton_append]

theorem exists_segments_of_readSelection {selection found : Selection} {arguments : List Text}
    (read : readSelection selection arguments = .ok found) :
    ∃ segments : List Segment, (∀ segment ∈ segments, segment.selects = true) ∧
      arguments = segments.flatMap Segment.written := by
  fun_induction readSelection selection arguments with
  | case1 | case3 | case5 => cases read
  | case2 => exact ⟨[], List.forall_mem_nil _, rfl⟩
  | case4 selection option among value rest ih =>
      obtain ⟨segments, known, rfl⟩ := ih read
      exact ⟨.ignore option among value :: segments, List.forall_mem_cons.mpr ⟨rfl, known⟩, rfl⟩
  | case6 selection text rest _ notDashed ih =>
      obtain ⟨segments, known, rfl⟩ := ih read
      exact ⟨.input text (Bool.not_eq_true _ ▸ notDashed) :: segments,
        List.forall_mem_cons.mpr ⟨rfl, known⟩, rfl⟩

/-- **`scan` reads the runs of segments that it knows and that have an input.** -/
theorem readSelection_eq_ok_iff {arguments : List Text} {selection : Selection} :
    readSelection {} arguments = .ok selection ↔
      ∃ segments : List Segment, (∀ segment ∈ segments, segment.selects = true) ∧
        arguments = segments.flatMap Segment.written ∧
        segments.filterMap Segment.input? ≠ [] ∧
        selection = ({} : Selection).extended segments := by
  constructor
  · intro read
    obtain ⟨segments, known, rfl⟩ := exists_segments_of_readSelection read
    rw [readSelection_run {} known] at read
    split at read
    · cases read
    · next present => exact ⟨segments, known, rfl, present, (Except.ok.inj read).symm⟩
  · rintro ⟨segments, known, rfl, present, rfl⟩
    have inputs : (({} : Selection).extended segments).inputs ≠ [] := present
    rw [readSelection_run {} known, if_neg inputs]

/-! ## Both commands -/

theorem Command.read_build (arguments : List Text) :
    Command.read (Verb.build.name :: arguments) = (readBuild arguments).map .build := by
  rw [Command.read, if_neg (by decide), if_pos rfl]

theorem Command.read_scan (arguments : List Text) :
    Command.read (Verb.scan.name :: arguments) = (readSelection {} arguments).map .scan := by
  rw [Command.read, if_pos rfl]

/-- **The arguments of `build` and `scan` are the runs of segments with an input.** Inputs
and ignore globs are taken in their order, of the outputs and of the settings the last
counts, and the stylesheet is minified when some segment asks for it, however the segments
are mixed. Inputs and ignore globs are all that `scan` takes. Nothing else is read as
arguments of the two commands. -/
theorem arguments_are_runs_of_segments (arguments : List Text) (command : Command) :
    (Command.read (Verb.build.name :: arguments) = .ok command ↔
      ∃ segments : List Segment, (∀ segment ∈ segments, segment.builds = true) ∧
        arguments = segments.flatMap Segment.written ∧
        segments.filterMap Segment.input? ≠ [] ∧
        command = .build
          { selection :=
              { inputs := segments.filterMap Segment.input?
                ignore := segments.filterMap Segment.ignore? }
            output? := (segments.filterMap Segment.output?).getLast?
            config? := (segments.filterMap Segment.config?).getLast?
            minify := segments.any Segment.minifies }) ∧
    (Command.read (Verb.scan.name :: arguments) = .ok command ↔
      ∃ segments : List Segment, (∀ segment ∈ segments, segment.selects = true) ∧
        arguments = segments.flatMap Segment.written ∧
        segments.filterMap Segment.input? ≠ [] ∧
        command = .scan
          { inputs := segments.filterMap Segment.input?
            ignore := segments.filterMap Segment.ignore? }) := by
  constructor
  · rw [Command.read_build, map_eq_ok_iff]
    constructor
    · rintro ⟨order, built, rfl⟩
      obtain ⟨segments, known, written, present, rfl⟩ := readBuild_eq_ok_iff.mp built
      exact ⟨segments, known, written, present, by simp [BuildOrder.extended, Selection.extended]⟩
    · rintro ⟨segments, known, written, present, rfl⟩
      exact ⟨_, readBuild_eq_ok_iff.mpr ⟨segments, known, written, present, rfl⟩,
        by simp [BuildOrder.extended, Selection.extended]⟩
  · rw [Command.read_scan, map_eq_ok_iff]
    constructor
    · rintro ⟨selection, read, rfl⟩
      obtain ⟨segments, known, written, present, rfl⟩ := readSelection_eq_ok_iff.mp read
      exact ⟨segments, known, written, present, rfl⟩
    · rintro ⟨segments, known, written, present, rfl⟩
      exact ⟨_, readSelection_eq_ok_iff.mpr ⟨segments, known, written, present, rfl⟩, rfl⟩

/-- A value is taken as it stands, whatever option it spells. -/
example :
    Command.read (["build", "-c", "-m", "a.html", "-o", "-I"].map String.toList) =
      .ok (.build
        { selection := { inputs := ["a.html".toList] }
          output? := some "-I".toList
          config? := some "-m".toList }) := by
  rfl

end StateSheet
