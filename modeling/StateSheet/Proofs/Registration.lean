import StateSheet.Selector
import StateSheet.Registration
import StateSheet.Proofs.Text.Distinct
import StateSheet.Proofs.Variant.Grammar
import Mathlib.Data.List.Forall2

/-!
# Registering in one pass

A host can be told of the variants of a class list in one pass: the names that were met
before are remembered, and a new one makes a call, a warning or nothing
(`Registrar.takeUp`). The names met for the first time are the occurrences that a
registration is made of (`Registrar.foldl_step`), and taking these up one after another
does what the registration says (`Registrar.records_foldl`).

So one memory of names serves the calls, the report and the warnings: each variant name
makes one call, where it is first met, and each name without a state one warning, with the
first class that leads with it (`registration_calls_each_variant_once`).
-/

set_option autoImplicit false

namespace StateSheet

/-- The variant names that classes lead with, in the order of the classes. -/
def leadingNames (classes : List Text) : List Text := classes.filterMap ClassName.leading?

/-! ## Occurrences -/

theorem map_token_occurrences (classes : List Text) :
    (occurrences classes).map (·.token) = distinct (leadingNames classes) := by
  rw [occurrences, map_distinctBy, List.map_filterMap, leadingNames]
  simp [Function.comp_def]

/-- **An occurrence has the first class that leads with its name.** -/
theorem find?_of_mem_occurrences {classes : List Text} {occurrence : Occurrence}
    (member : occurrence ∈ occurrences classes) :
    classes.find? (fun className => ClassName.leading? className = some occurrence.token) =
      some occurrence.className := by
  have first := find?_of_mem_distinctBy member
  rw [List.find?_filterMap, Option.bind_eq_some_iff] at first
  obtain ⟨className, found, leads⟩ := first
  obtain ⟨token, -, rfl⟩ := Option.map_eq_some_iff.mp leads
  rw [← found]
  congr 1
  funext other
  cases ClassName.leading? other <;> simp

namespace Registration

/-- The registration that occurrences of variant names make. -/
def ofOccurrences (list : List Occurrence) : Registration where
  variants := list.filterMap fun occurrence =>
    (Variant.read? occurrence.token).map fun variant => (occurrence.token, variant)
  emptyStates := list.filter fun occurrence => Variant.lacksState occurrence.token

/-- The calls that a registration makes to a host: a name, and the function that gives a
class its selector. -/
def calls (registration : Registration) : List (Text × (Text → Text)) :=
  registration.variants.map fun entry => (entry.1, Selector.build entry.2)

/-- Makes the calls of a registration to a host. -/
def handTo {η : Type} (registration : Registration) (add : η → Text → (Text → Text) → η)
    (host : η) : η :=
  registration.addTo (fun host name variant => add host name (Selector.build variant)) host

theorem names_ofOccurrences (list : List Occurrence) :
    (ofOccurrences list).names =
      (list.map (·.token)).filter fun token => (Variant.read? token).isSome := by
  simp only [names, ofOccurrences]
  induction list with
  | nil => rfl
  | cons occurrence rest ih =>
      cases named : Variant.read? occurrence.token <;> simp [named, ih]

theorem tokens_emptyStates (list : List Occurrence) :
    (ofOccurrences list).emptyStates.map (·.token) =
      (list.map (·.token)).filter Variant.lacksState := by
  rw [List.filter_map]
  rfl

theorem handTo_eq_foldl {η : Type} (registration : Registration)
    (add : η → Text → (Text → Text) → η) (host : η) :
    registration.handTo add host =
      registration.calls.foldl (fun host call => add host call.1 call.2) host := by
  rw [handTo, addTo, calls, List.foldl_map]

end Registration

/-! ## One pass -/

/-- A host that is told of variants, and what is remembered and reported meanwhile. -/
structure Registrar (η : Type) where
  host : η
  seen : List Text := []
  registered : List Text := []
  emptyStates : List Text := []
  notices : List Notice := []

namespace Registrar

variable {η : Type} (add : η → Text → (Text → Text) → η) (warn : Bool)

/-- Takes up a variant name that was not met before, and the class that leads with it. -/
def takeUp (registrar : Registrar η) (occurrence : Occurrence) : Registrar η :=
  let known := { registrar with seen := occurrence.token :: registrar.seen }
  match Variant.read occurrence.token with
  | .ok variant =>
      { known with
        host := add known.host occurrence.token (Selector.build variant)
        registered := known.registered ++ [occurrence.token] }
  | .error (.foreign _) => known
  | .error (.emptyState _) =>
      { known with
        emptyStates := known.emptyStates ++ [occurrence.token]
        notices :=
          if warn then known.notices ++ [.emptyState occurrence.token occurrence.className]
          else known.notices }

/-- Goes on to the next class, and takes up the variant name that it leads with if it is
new. -/
def step (registrar : Registrar η) (className : Text) : Registrar η :=
  match ClassName.leading? className with
  | none => registrar
  | some token =>
      if registrar.seen.contains token then registrar
      else registrar.takeUp add warn { token, className }

/-- Tells a host of the variants of a class list in one pass. -/
def pass (classes : List Text) (host : η) : Registrar η :=
  classes.foldl (step add warn) { host }

theorem seen_takeUp (registrar : Registrar η) (occurrence : Occurrence) :
    (registrar.takeUp add warn occurrence).seen = occurrence.token :: registrar.seen := by
  unfold takeUp
  split <;> rfl

/-- **The pass takes up each variant name where it is first met.** -/
theorem foldl_step (registrar : Registrar η) (classes : List Text) :
    classes.foldl (step add warn) registrar =
      (distinctFrom (·.token) registrar.seen (classes.filterMap fun className =>
        (ClassName.leading? className).map fun token => ({ token, className } : Occurrence))).foldl
          (takeUp add warn) registrar := by
  induction classes generalizing registrar with
  | nil => rfl
  | cons className rest ih =>
      rw [List.foldl_cons, ih, step]
      cases leads : ClassName.leading? className with
      | none => simp [leads]
      | some token =>
          by_cases old : token ∈ registrar.seen
          · simp [leads, distinctFrom, old]
          · simp [leads, distinctFrom, old, seen_takeUp]

/-- From one registrar to another, a registration was handed to the host and reported. -/
structure Records (registration : Registration) (before after : Registrar η) : Prop where
  host : after.host = registration.handTo add before.host
  registered : after.registered = before.registered ++ registration.names
  emptyStates : after.emptyStates = before.emptyStates ++ registration.emptyStates.map (·.token)
  notices : after.notices = before.notices ++ registration.warnings warn

variable {add warn}

/-- Taking up one name records what it amounts to. -/
theorem records_takeUp (registrar : Registrar η) (occurrence : Occurrence) :
    Records add warn (.ofOccurrences [occurrence]) registrar
      (registrar.takeUp add warn occurrence) := by
  cases named : Variant.read occurrence.token with
  | ok variant =>
      have readable : Variant.read? occurrence.token = some variant := by
        rw [Variant.read?, named]; rfl
      constructor <;>
        simp [takeUp, named, readable, Registration.ofOccurrences, Registration.handTo,
          Registration.addTo, Registration.names, Registration.warnings, Variant.lacksState]
  | error fault =>
      have unreadable : Variant.read? occurrence.token = none := by
        rw [Variant.read?, named]; rfl
      cases fault <;> constructor <;>
        simp [takeUp, named, unreadable, Registration.ofOccurrences, Registration.handTo,
          Registration.addTo, Registration.names, Registration.warnings, Variant.lacksState]
      cases warn <;> simp

/-- What is recorded first and what is recorded then is recorded together. -/
theorem Records.trans {first second : List Occurrence} {before between after : Registrar η}
    (firstly : Records add warn (.ofOccurrences first) before between)
    (secondly : Records add warn (.ofOccurrences second) between after) :
    Records add warn (.ofOccurrences (first ++ second)) before after where
  host := by
    rw [secondly.host, firstly.host]
    simp [Registration.handTo, Registration.addTo, Registration.ofOccurrences]
  registered := by
    rw [secondly.registered, firstly.registered]
    simp [Registration.names, Registration.ofOccurrences]
  emptyStates := by
    rw [secondly.emptyStates, firstly.emptyStates]
    simp [Registration.ofOccurrences]
  notices := by
    rw [secondly.notices, firstly.notices]
    cases warn <;> simp [Registration.warnings, Registration.ofOccurrences]

/-- **Taking up names one after another records the registration that they make.** -/
theorem records_foldl (registrar : Registrar η) (list : List Occurrence) :
    Records add warn (.ofOccurrences list) registrar (list.foldl (takeUp add warn) registrar) := by
  induction list generalizing registrar with
  | nil =>
      constructor <;> simp [Registration.ofOccurrences, Registration.handTo, Registration.addTo,
        Registration.names, Registration.warnings]
  | cons occurrence rest ih => exact (records_takeUp registrar occurrence).trans (ih _)

/-- **One pass records the registration of the class list.** -/
theorem records_pass (classes : List Text) (host : η) :
    Records add warn (.ofClasses classes) { host } (pass add warn classes host) := by
  rw [pass, foldl_step]
  exact records_foldl _ (occurrences classes)

end Registrar

/-! ## What a registration says of its classes -/

theorem Variant.isSome_read?_iff {token : Text} :
    (read? token).isSome = true ↔ ∃ variant, read token = .ok variant := by
  rw [Option.isSome_iff_exists]
  exact exists_congr fun _ => read?_eq_some_iff

theorem Variant.lacksState_iff {token : Text} :
    lacksState token = true ↔ read token = .error (.emptyState token) := by
  unfold lacksState
  constructor
  · intro stateless
    split at stateless
    · next named failed => rw [failed, (read_eq_emptyState_iff.mp failed).1]
    · cases stateless
  · intro failed
    rw [failed]

namespace Registration

/-- The names registered are the variants that classes lead with, each where it is first
met. -/
theorem firstsOf_names (classes : List Text) :
    FirstsOf (leadingNames classes) (fun token => ∃ variant, Variant.read token = .ok variant)
      (ofClasses classes).names := by
  have kept : (ofClasses classes).names =
      (distinct (leadingNames classes)).filter fun token => (Variant.read? token).isSome := by
    rw [← map_token_occurrences]
    exact names_ofOccurrences (occurrences classes)
  rw [kept]
  exact (firstsOf_filter_distinct _ _).congr fun _ => Variant.isSome_read?_iff

/-- The names noted are those without a state that classes lead with, each where it is
first met. -/
theorem firstsOf_emptyStates (classes : List Text) :
    FirstsOf (leadingNames classes)
      (fun token => Variant.read token = .error (.emptyState token))
      ((ofClasses classes).emptyStates.map (·.token)) := by
  have kept : (ofClasses classes).emptyStates.map (·.token) =
      (distinct (leadingNames classes)).filter Variant.lacksState := by
    rw [← map_token_occurrences]
    exact tokens_emptyStates (occurrences classes)
  rw [kept]
  exact (firstsOf_filter_distinct _ _).congr fun _ => Variant.lacksState_iff

/-- A call is made with the selectors of the variant that its name is read as. -/
theorem read_of_mem_calls {classes : List Text} {call : Text × (Text → Text)}
    (member : call ∈ (ofClasses classes).calls) :
    ∃ variant, Variant.read call.1 = .ok variant ∧
      ∀ className, call.2 className = Selector.build variant className := by
  simp only [calls, ofClasses, List.mem_map, List.mem_filterMap, Option.map_eq_some_iff] at member
  obtain ⟨_, ⟨occurrence, -, variant, named, rfl⟩, rfl⟩ := member
  exact ⟨variant, Variant.read?_eq_some_iff.mp named, fun _ => rfl⟩

/-- A warning about a variant name without a state: it names it, and is about the first
class that leads with it. -/
structure WarnsOf (classes : List Text) (token : Text) (notice : Notice) : Prop where
  level : notice.level = .warning
  message :
    notice.message = "skipping class: `".toList ++ token ++ "` has no state name".toList
  className : ∃ className, notice.className? = some className ∧
    classes.find? (fun other => ClassName.leading? other = some token) = some className

theorem warnsOf_of_mem_emptyStates {classes : List Text} {occurrence : Occurrence}
    (member : occurrence ∈ (ofClasses classes).emptyStates) :
    WarnsOf classes occurrence.token (.emptyState occurrence.token occurrence.className) where
  level := rfl
  message := by
    change "skipping class: ".toList ++
      (['`'] ++ occurrence.token ++ "` has no state name".toList) = _
    rw [← List.append_assoc, ← List.append_assoc]
    rfl
  className := ⟨occurrence.className, rfl, find?_of_mem_occurrences (List.mem_of_mem_filter member)⟩

/-- **Registering calls a host once for each variant.** The calls are made with the
variant names that classes lead with, each where it is first met, and with the function
that builds the selectors of the variant that the name is read as. The names without a
state are noted in the same way, and each makes one warning when warnings are on, with
the first class that leads with it. One pass that remembers the names it has met makes
these calls, this report and these warnings, and whether it warns changes neither the
calls nor the report. -/
theorem registration_calls_each_variant_once (classes : List Text) :
    (ofClasses classes).calls.map (·.1) = (ofClasses classes).names ∧
    FirstsOf (leadingNames classes) (fun token => ∃ variant, Variant.read token = .ok variant)
      (ofClasses classes).names ∧
    (∀ call ∈ (ofClasses classes).calls, ∃ variant, Variant.read call.1 = .ok variant ∧
      ∀ className, call.2 className = Selector.build variant className) ∧
    FirstsOf (leadingNames classes)
      (fun token => Variant.read token = .error (.emptyState token))
      ((ofClasses classes).emptyStates.map (·.token)) ∧
    List.Forall₂ (WarnsOf classes) ((ofClasses classes).emptyStates.map (·.token))
      ((ofClasses classes).warnings true) ∧
    (ofClasses classes).warnings false = [] ∧
    ∀ (η : Type) (add : η → Text → (Text → Text) → η) (host : η) (warn : Bool),
      (ofClasses classes).handTo add host =
        (ofClasses classes).calls.foldl (fun host call => add host call.1 call.2) host ∧
      (Registrar.pass add warn classes host).host = (ofClasses classes).handTo add host ∧
      (Registrar.pass add warn classes host).registered = (ofClasses classes).names ∧
      (Registrar.pass add warn classes host).emptyStates =
        (ofClasses classes).emptyStates.map (·.token) ∧
      (Registrar.pass add warn classes host).notices = (ofClasses classes).warnings warn := by
  refine ⟨List.map_map, firstsOf_names classes, fun call => read_of_mem_calls,
    firstsOf_emptyStates classes, ?_, rfl, fun η add host warn => ?_⟩
  · rw [List.forall₂_map_left_iff, warnings, if_pos rfl, List.forall₂_map_right_iff,
      List.forall₂_same]
    exact fun occurrence member => warnsOf_of_mem_emptyStates member
  · have records : Registrar.Records add warn (ofClasses classes) { host }
        (Registrar.pass add warn classes host) := Registrar.records_pass classes host
    exact ⟨handTo_eq_foldl _ add host, records.host, records.registered, records.emptyStates,
      records.notices⟩

end Registration

end StateSheet
