import StateSheet.Proofs.Command.Grammar
import Mathlib.Data.List.Induction
import Mathlib.Data.Nat.Digits.Defs

/-!
# The arguments of `watch`

What `watch` takes beside the arguments of `build` are two kinds of segments: the option to
poll, and the interval with its value (`Segment.watches`). They go through two passes. The
first one sets them aside, each interval with its value, and so leaves a run of the same
segments for the second one to read (`readPolling_run`). Whatever the second pass reads
consists of them (`watches_of_readPolling`), and an interval without a value, which the first
pass lets through at the end, is refused there.

So a run of segments makes an order to watch exactly when it makes one to build without the
segments about polling, and every interval in it is a number
(`watch_agrees_with_build`). A number of milliseconds is written in decimal digits, perhaps
behind a plus sign, and fits into 64 bits (`WritesInterval`).
-/

set_option autoImplicit false

namespace StateSheet

/-! ## Numbers of milliseconds -/

/-- The number that decimal digits write, the last of them counting once. -/
def decimalValue (digits : Text) : Nat :=
  Nat.ofDigits 10 (digits.reverse.map fun digit => digit.toNat - '0'.toNat)

/-- A text writes a number of milliseconds: decimal digits, perhaps behind a plus sign, of a
value that fits into 64 bits. -/
def WritesInterval (text : Text) (interval : Nat) : Prop :=
  ∃ sign digits, text = sign ++ digits ∧ (sign = [] ∨ sign = ['+']) ∧ digits ≠ [] ∧
    (∀ digit ∈ digits, digit.isDigit = true) ∧ interval = decimalValue digits ∧ interval < 2 ^ 64

theorem decimalValue_concat (digits : Text) (digit : Char) :
    decimalValue (digits ++ [digit]) =
      10 * decimalValue digits + (digit.toNat - '0'.toNat) := by
  rw [decimalValue, List.reverse_append, List.reverse_singleton, List.singleton_append,
    List.map_cons, Nat.ofDigits_cons, Nat.add_comm]
  rfl

theorem foldl_digits (digits : Text) :
    digits.foldl (fun value digit => 10 * value + (digit.toNat - '0'.toNat)) 0 =
      decimalValue digits := by
  induction digits using List.reverseRecOn with
  | nil => rfl
  | append_singleton front last ih =>
      rw [List.foldl_append, List.foldl_cons, List.foldl_nil, ih, decimalValue_concat]

theorem readDigits?_eq_some_iff {digits : Text} {value : Nat} :
    readDigits? digits = some value ↔
      digits ≠ [] ∧ (∀ digit ∈ digits, digit.isDigit = true) ∧ value = decimalValue digits := by
  unfold readDigits?
  rw [foldl_digits]
  split
  · next given =>
      constructor
      · intro read
        cases read
        exact ⟨given.1, List.all_eq_true.mp given.2, rfl⟩
      · rintro ⟨-, -, rfl⟩
        rfl
  · next refused =>
      constructor
      · intro read
        cases read
      · rintro ⟨present, digits, -⟩
        exact absurd ⟨present, List.all_eq_true.mpr digits⟩ refused

/-- **A number of milliseconds is read from the texts that write it.** -/
theorem readInterval?_eq_some_iff {text : Text} {interval : Nat} :
    readInterval? text = some interval ↔ WritesInterval text interval := by
  have size : UInt64.size = 2 ^ 64 := rfl
  rw [readInterval?, Option.filter_eq_some_iff, readDigits?_eq_some_iff, decide_eq_true_eq, size]
  constructor
  · rintro ⟨⟨present, digits, value⟩, fits⟩
    split at present
    · next signed =>
        rw [if_pos signed] at digits value
        obtain ⟨rest, rfl⟩ := List.head?_eq_some_iff.mp signed
        exact ⟨['+'], rest, rfl, .inr rfl, present, digits, value, fits⟩
    · next unsigned =>
        rw [if_neg unsigned] at digits value
        exact ⟨[], text, rfl, .inl rfl, present, digits, value, fits⟩
  · rintro ⟨sign, digits, rfl, rfl | rfl, present, isDigits, value, fits⟩
    · have unsigned : ¬ digits.head? = some '+' := by
        intro signed
        obtain ⟨rest, rfl⟩ := List.head?_eq_some_iff.mp signed
        exact absurd (isDigits '+' List.mem_cons_self) (by decide)
      rw [List.nil_append, if_neg unsigned]
      exact ⟨⟨present, isDigits, value⟩, fits⟩
    · exact ⟨⟨present, isDigits, value⟩, fits⟩

/-! ## Segments about polling -/

namespace Segment

/-- Does `watch` know a segment? -/
def watches : Segment → Bool
  | foreign option _ _ => option = pollOption
  | _ => true

/-- Does a segment ask to poll? -/
def polls : Segment → Bool
  | foreign option _ _ => option = pollOption
  | _ => false

/-- The text of the interval that a segment gives. -/
def interval? : Segment → Option Text
  | interval value => some value
  | _ => none

end Segment

/-- The segments that `build` does not know add nothing to a build order. -/
theorem BuildOrder.extended_filter_builds (order : BuildOrder) (segments : List Segment) :
    order.extended (segments.filter Segment.builds) = order.extended segments := by
  induction segments generalizing order with
  | nil => rfl
  | cons segment more ih =>
      cases known : segment.builds with
      | true => rw [List.filter_cons_of_pos known, extended_cons, extended_cons, ih]
      | false =>
          have nothing : order.add segment = order := by
            cases segment with
            | input | output | config | ignore | minify => cases known
            | interval | foreign => rfl
          rw [List.filter_cons_of_neg (by simp [known]), extended_cons, nothing, ih]

/-! ## The second pass -/

theorem readPolling_poll (polling : Polling) (rest : List Text) :
    readPolling polling (pollOption :: rest) = readPolling { polling with enabled := true } rest := by
  rw [readPolling.eq_def]
  exact if_pos rfl

theorem readPolling_interval (polling : Polling) (value : Text) (rest : List Text) :
    readPolling polling (intervalOption :: value :: rest) =
      match readInterval? value with
      | none => .error (.badInterval value)
      | some interval => readPolling { polling with interval } rest := by
  have notPoll : intervalOption ≠ pollOption := by decide
  rw [readPolling, if_neg notPoll]
  exact if_pos rfl

theorem readPolling_foreign {option : Text} (notPoll : option ≠ pollOption)
    (notInterval : option ≠ intervalOption) (polling : Polling) (rest : List Text) :
    readPolling polling (option :: rest) = .error (.unknownOption .watch option) := by
  rw [readPolling.eq_def]
  simp only [if_neg notPoll, if_neg notInterval]

/-- **What the first pass leaves of a run of segments is read segment by segment**: the
segments about polling that `watch` knows, with a number in every interval. -/
theorem readPolling_run {segments : List Segment}
    (known : ∀ segment ∈ segments, segment.watches = true) (polling found : Polling) :
    readPolling polling (segments.flatMap Segment.leftOver) = .ok found ↔
      ∃ intervals : List Nat,
        List.Forall₂ WritesInterval (segments.filterMap Segment.interval?) intervals ∧
          found =
            { enabled := polling.enabled || segments.any Segment.polls
              interval := intervals.getLast?.getD polling.interval } := by
  induction segments generalizing polling with
  | nil => simp [readPolling, eq_comm]
  | cons segment more ih =>
      obtain ⟨first, others⟩ := List.forall_mem_cons.mp known
      rw [List.flatMap_cons, List.filterMap_cons, List.any_cons]
      cases segment with
      | input | output | config | ignore | minify => exact ih others polling
      | foreign option dashed unknown =>
          obtain rfl : option = pollOption := of_decide_eq_true first
          rw [Segment.leftOver, List.singleton_append, readPolling_poll, ih others]
          simp [Segment.interval?, Segment.polls]
      | interval value =>
          rw [Segment.leftOver, List.cons_append, List.singleton_append, readPolling_interval]
          simp only [Segment.interval?, Segment.polls, Bool.false_or, List.forall₂_cons_left_iff]
          cases read : readInterval? value with
          | none =>
              constructor
              · intro refused
                cases refused
              · rintro ⟨_, ⟨interval, _, written, _, _⟩, _⟩
                rw [readInterval?_eq_some_iff.mpr written] at read
                cases read
          | some interval =>
              rw [ih others { polling with interval }]
              constructor
              · rintro ⟨intervals, written, rfl⟩
                exact ⟨interval :: intervals,
                  ⟨interval, intervals, readInterval?_eq_some_iff.mp read, written, rfl⟩,
                  by simp [List.getLast?_cons]⟩
              · rintro ⟨_, ⟨other, intervals, isOther, written, rfl⟩, rfl⟩
                rw [← readInterval?_eq_some_iff, read, Option.some.injEq] at isOther
                subst isOther
                exact ⟨intervals, written, by simp [List.getLast?_cons]⟩

/-- **Whatever the second pass reads consists of segments that `watch` knows**, in front of
any other arguments that it reads. -/
theorem watches_of_readPolling {segments : List Segment} {polling found : Polling}
    {rest : List Text}
    (read : readPolling polling (segments.flatMap Segment.leftOver ++ rest) = .ok found) :
    (∀ segment ∈ segments, segment.watches = true) ∧
      ∃ between, readPolling between rest = .ok found := by
  induction segments generalizing polling with
  | nil => exact ⟨List.forall_mem_nil _, polling, read⟩
  | cons segment more ih =>
      rw [List.flatMap_cons, List.append_assoc] at read
      cases segment with
      | input | output | config | ignore | minify =>
          obtain ⟨known, between⟩ := ih read
          exact ⟨List.forall_mem_cons.mpr ⟨rfl, known⟩, between⟩
      | foreign option dashed unknown =>
          rw [Segment.leftOver, List.singleton_append] at read
          by_cases asksToPoll : option = pollOption
          · rw [asksToPoll, readPolling_poll] at read
            obtain ⟨known, between⟩ := ih read
            exact ⟨List.forall_mem_cons.mpr ⟨decide_eq_true asksToPoll, known⟩, between⟩
          · have notInterval : option ≠ intervalOption :=
              (not_mem_knownOptions_iff.mp unknown).2.2.2.2
            rw [readPolling_foreign asksToPoll notInterval] at read
            cases read
      | interval value =>
          rw [Segment.leftOver, List.cons_append, List.singleton_append, readPolling_interval]
            at read
          split at read
          · cases read
          · obtain ⟨known, between⟩ := ih read
            exact ⟨List.forall_mem_cons.mpr ⟨rfl, known⟩, between⟩

/-! ## Both passes -/

theorem Command.read_watch (arguments : List Text) :
    Command.read (Verb.watch.name :: arguments) =
      (readWatch arguments).map fun order => .watch order.1 order.2 := by
  rw [Command.read, if_neg (by decide), if_neg (by decide), if_pos rfl]

/-- Without the segments that it does not know, `build` reads a run of segments that has an
input. -/
theorem readBuild_filter_builds (segments : List Segment) :
    readBuild ((segments.filter Segment.builds).flatMap Segment.written) =
      if (({} : BuildOrder).extended segments).selection.inputs = [] then
        .error (.missingInput .build)
      else .ok (({} : BuildOrder).extended segments) := by
  have nothing : (segments.filter Segment.builds).flatMap Segment.leftOver = [] :=
    List.flatMap_eq_nil_iff.mpr fun segment member =>
      Segment.leftOver_eq_nil_iff.mpr (List.mem_filter.mp member).2
  rw [readBuild, readOrder_run, BuildOrder.extended_filter_builds, nothing]
  by_cases bare : (({} : BuildOrder).extended segments).selection.inputs = []
  · rw [if_pos bare, if_pos bare]
  · rw [if_neg bare, if_neg bare]

/-- A run of segments is read by `watch` when it has an input and the second pass reads what
the first one leaves. -/
theorem readWatch_run (segments : List Segment) :
    readWatch (segments.flatMap Segment.written) =
      if (({} : BuildOrder).extended segments).selection.inputs = [] then
        .error (.missingInput .watch)
      else (readPolling {} (segments.flatMap Segment.leftOver)).map fun polling =>
        (({} : BuildOrder).extended segments, polling) := by
  rw [readWatch, readOrder_run]
  by_cases bare : (({} : BuildOrder).extended segments).selection.inputs = []
  · rw [if_pos bare, if_pos bare]
  · rw [if_neg bare, if_neg bare]

/-- What `watch` reads is a run of segments that it knows. -/
theorem exists_segments_of_readWatch {arguments : List Text} {found : BuildOrder × Polling}
    (read : readWatch arguments = .ok found) :
    ∃ segments : List Segment, (∀ segment ∈ segments, segment.watches = true) ∧
      arguments = segments.flatMap Segment.written := by
  unfold readWatch at read
  split at read
  · cases read
  · next order aside passed =>
      obtain ⟨polling, secondPass, -⟩ := map_eq_ok_iff.mp read
      obtain ⟨left, rfl, leaves⟩ := leavesOver_of_readOrder passed
      cases leaves with
      | run segments =>
          rw [← List.append_nil (segments.flatMap _)] at secondPass
          exact ⟨segments, (watches_of_readPolling secondPass).1, rfl⟩
      | cut segments =>
          -- The interval at the end lacks its value, and the second pass asks for it.
          obtain ⟨-, _, refused⟩ := watches_of_readPolling secondPass
          cases refused

/-- **`watch` takes what `build` takes, with segments about polling anywhere between.** A
run of segments is read by `watch` exactly when `build` reads it without the segments about
polling and every interval is a number. The order to build is then the same, polling is
asked for when some segment asks for it, and the last interval counts, or else half a
second. Nothing else is read as arguments of `watch`. -/
theorem watch_agrees_with_build {segments : List Segment}
    (known : ∀ segment ∈ segments, segment.watches = true) :
    (∀ command, Command.read (Verb.watch.name :: segments.flatMap Segment.written) = .ok command ↔
      ∃ (order : BuildOrder) (intervals : List Nat),
        Command.read (Verb.build.name ::
          (segments.filter Segment.builds).flatMap Segment.written) = .ok (.build order) ∧
        List.Forall₂ WritesInterval (segments.filterMap Segment.interval?) intervals ∧
        command = .watch order
          { enabled := segments.any Segment.polls, interval := intervals.getLast?.getD 500 }) ∧
    ∀ arguments command, Command.read (Verb.watch.name :: arguments) = .ok command →
      ∃ others : List Segment, (∀ segment ∈ others, segment.watches = true) ∧
        arguments = others.flatMap Segment.written := by
  refine ⟨fun command => ?_, fun arguments command read => ?_⟩
  · rw [Command.read_watch, Command.read_build, readWatch_run, readBuild_filter_builds]
    split
    · simp [Except.map]
    · rw [map_eq_ok_iff]
      constructor
      · rintro ⟨_, read, rfl⟩
        obtain ⟨polling, secondPass, rfl⟩ := map_eq_ok_iff.mp read
        obtain ⟨intervals, written, rfl⟩ := (readPolling_run known _ _).mp secondPass
        exact ⟨_, intervals, rfl, written, rfl⟩
      · rintro ⟨order, intervals, built, written, rfl⟩
        cases built
        exact ⟨_, map_eq_ok_iff.mpr
          ⟨_, (readPolling_run known _ _).mpr ⟨intervals, written, rfl⟩, rfl⟩, rfl⟩
  · rw [Command.read_watch, map_eq_ok_iff] at read
    obtain ⟨_, read, -⟩ := read
    exact exists_segments_of_readWatch read

/-- Values that look like the options about polling, and two intervals, the last of which
counts. -/
theorem watch_agrees_with_build_on_values_like_options :
    Command.read (["watch", "-o", "--poll-interval", "--poll-interval", "9", "a.html", "-I",
      "--poll", "--poll", "--poll-interval", "+0250"].map String.toList) =
        .ok (.watch
          { selection := { inputs := ["a.html".toList], ignore := ["--poll".toList] }
            output? := some "--poll-interval".toList }
          { enabled := true, interval := 250 }) := by
  let segments : List Segment :=
    [.output "-o".toList (by decide) "--poll-interval".toList, .interval "9".toList,
      .input "a.html".toList rfl, .ignore "-I".toList (by decide) "--poll".toList,
      .foreign "--poll".toList rfl (by decide), .interval "+0250".toList]
  have known : ∀ segment ∈ segments, segment.watches = true := by
    simp only [segments, List.forall_mem_cons]
    decide
  have written : List.Forall₂ WritesInterval ["9".toList, "+0250".toList] [9, 250] :=
    .cons ⟨[], ['9'], rfl, .inl rfl, by decide, List.all_eq_true.mp rfl, by decide, by decide⟩
      (.cons ⟨['+'], "0250".toList, rfl, .inr rfl, by decide, List.all_eq_true.mp rfl, by decide,
        by decide⟩ .nil)
  exact ((watch_agrees_with_build known).1 _).mpr ⟨_, [9, 250], rfl, written, rfl⟩

end StateSheet
