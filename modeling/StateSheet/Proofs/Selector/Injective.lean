import StateSheet.Proofs.ClassName.Split
import StateSheet.Proofs.Selector.Escape
import StateSheet.Proofs.Stylesheet.Generation

/-!
# Distinct classes have distinct selectors

A selector shows the state of its class twice: quoted as it is in the
condition, and escaped in the class part. The quoted state may itself look like
the text around it, so the end of the condition cannot be found by its
delimiters. It is found by nesting instead. The variant name of a class hides
its colons and leaves nothing open, and neither the escapes nor the closing
delimiters change that (`hidesColons_escape`, `after_between`), so the first
colon at the top of what follows the opening delimiter is the one between
variant and utility. What stands before it holds the state twice, and its
length gives the state (`eq_of_shown_twice`).

Hence a class is given by its selector (`ofClass?_injective`), and no two rules
of a stylesheet have the same one.
-/

set_option autoImplicit false

namespace StateSheet

namespace Selector

/-! ## The shape of a selector -/

/-- What a selector of a family starts with, up to where the families part. The
two families without a relation part only behind the class. -/
def lead : Family → Text
  | .state | .notState => ['.', 'u', 'i', '-']
  | .group => ['.', 'g', 'r', 'o', 'u', 'p', '[']
  | .notGroup => ['.', 'g', 'r', 'o', 'u', 'p', ':']
  | .peer => ['.', 'p', 'e', 'e', 'r', '[']
  | .notPeer => ['.', 'p', 'e', 'e', 'r', ':']

/-- The text in front of the quoted state, for a family with a relation. -/
def before (family : Family) : Text :=
  (if family.relation = .group then ".group".toList else ".peer".toList) ++
    (if family.negated then ":not([data-state=\"".toList else "[data-state=\"".toList)

/-- The text between the quoted state and the one in the class part, for a
family with a relation. -/
def between (family : Family) : Text :=
  (if family.negated then "\"])".toList else "\"]".toList) ++
    (if family.relation = .group then " .".toList else " ~ .".toList) ++ family.opening

/-- Without a relation the class part comes first. -/
theorem build_self (family : Family) (state utility : Text) (alone : family.relation = .self) :
    build (family.variant state) (family.name state ++ ':' :: utility) =
      '.' :: (escape (family.name state) ++ ['\\']) ++
        ':' :: (escape utility ++ condition state family.negated) := by
  simp [build, Family.variant, alone, escape_append, escape_cons]

/-- With a relation the state comes first. -/
theorem build_related (family : Family) (state utility : Text) (related : family.relation ≠ .self) :
    build (family.variant state) (family.name state ++ ':' :: utility) =
      before family ++
        (state ++ between family ++ escape state ++ ['\\'] ++ ':' :: escape utility) := by
  cases family <;>
    simp_all [build, condition, before, between, escape, Family.variant, Family.name,
      Family.relation, Family.negated, Family.opening]

theorem lead_prefix_build (family : Family) (state utility : Text) :
    lead family <+: build (family.variant state) (family.name state ++ ':' :: utility) := by
  cases family <;>
    simp [lead, build, condition, escape, Family.variant, Family.name, Family.relation,
      Family.negated, Family.opening]

theorem lead_eq_of_prefix_build {first second : Family} (continued : lead first <+: lead second) :
    first = second ∨ first.relation = .self ∧ second.relation = .self := by
  revert continued
  cases first <;> cases second <;> decide

theorem after_between (family : Family) : Nesting.after {} (between family) = {} := by
  cases family <;> rfl

theorem colon_not_mem_between (family : Family) : ':' ∉ between family := by
  cases family <;> simp [between, Family.relation, Family.negated, Family.opening]

/-! ## Recovering the class -/

/-- The name of a state in a family can lead a class: it is read back, hides its
colons and leaves nothing open. -/
structure CanLead (family : Family) (state : Text) : Prop where
  named : Variant.read (family.name state) = .ok (family.variant state)
  hidden : Nesting.Hides {} (· = ':') (family.name state)
  closed : Nesting.after {} (family.name state) = {}

/-- A class with a selector of its own is a name that can lead it, a colon and a
utility. -/
theorem exists_parts_of_ofClass? {className selector : Text}
    (selected : ofClass? className = some selector) :
    ∃ family state utility, CanLead family state ∧
      className = family.name state ++ ':' :: utility ∧
        selector = build (family.variant state) className := by
  rw [ofClass?, Option.map_eq_some_iff] at selected
  obtain ⟨variant, depends, rfl⟩ := selected
  rw [ClassName.variant?, Option.bind_eq_some_iff] at depends
  obtain ⟨token, leads, readable⟩ := depends
  rw [ClassName.leading?, Option.map_eq_some_iff] at leads
  obtain ⟨⟨_, utility⟩, cut, rfl⟩ := leads
  obtain ⟨parts, hidden, closed⟩ := ClassName.split?_eq_some_iff.mp cut
  have named := Variant.read?_eq_some_iff.mp readable
  obtain ⟨spelled, _, _⟩ := Variant.read_eq_ok_iff.mp named
  simp only at named spelled hidden closed parts
  rw [spelled] at named hidden closed parts
  refine ⟨variant.family, variant.state, utility, ⟨?_, hidden, closed⟩, parts, ?_⟩
  · rw [named, Variant.variant_family]
  · rw [Variant.variant_family]

theorem after_opening (family : Family) : Nesting.after {} family.opening = {} := by
  cases family <;> rfl

theorem CanLead.state_hidden {family : Family} {state : Text} (leads : CanLead family state) :
    Nesting.Hides {} (· = ':') state := by
  have hidden := leads.hidden
  rw [Family.name, Nesting.hides_append, after_opening] at hidden
  exact hidden.2

theorem CanLead.state_closed {family : Family} {state : Text} (leads : CanLead family state) :
    Nesting.after {} state = {} := by
  have closed := leads.closed
  rwa [Family.name, Nesting.after_append, after_opening] at closed

/-- Where a state is shown twice, its length is given by the whole. -/
theorem eq_of_prefix_of_shown_twice {middle first second : Text} (shorter : first <+: second)
    (same : first ++ middle ++ escape first ++ ['\\'] =
      second ++ middle ++ escape second ++ ['\\']) : first = second := by
  obtain ⟨extra, rfl⟩ := shorter
  have lengths := congrArg List.length same
  simp only [escape_append, List.length_append] at lengths
  have none : extra = [] := List.eq_nil_of_length_eq_zero (by omega)
  rw [none, List.append_nil]

/-- **A state that is shown twice before the first colon at the top is given by
the text**, as is what follows the colon. -/
theorem eq_of_shown_twice {middle first second utility other : Text}
    (colonFree : ':' ∉ middle) (middleClosed : Nesting.after {} middle = {})
    (hidden : Nesting.Hides {} (· = ':') first) (closed : Nesting.after {} first = {})
    (otherHidden : Nesting.Hides {} (· = ':') second) (otherClosed : Nesting.after {} second = {})
    (same : first ++ middle ++ escape first ++ ['\\'] ++ ':' :: utility =
      second ++ middle ++ escape second ++ ['\\'] ++ ':' :: other) :
    first = second ∧ utility = other := by
  have shown : ∀ state, Nesting.Hides {} (· = ':') state → Nesting.after {} state = {} →
      Nesting.Hides {} (· = ':') (state ++ middle ++ escape state ++ ['\\']) ∧
        Nesting.after {} (state ++ middle ++ escape state ++ ['\\']) = {} := by
    intro state stateHidden stateClosed
    simp only [Nesting.hides_append, Nesting.after_append, after_escape, stateClosed,
      middleClosed]
    exact ⟨⟨⟨⟨stateHidden, Nesting.hidesColons_of_not_mem colonFree⟩,
      hidesColons_escape stateHidden⟩, Nesting.hidesColons_of_not_mem (by decide)⟩, rfl⟩
  obtain ⟨firstHidden, firstClosed⟩ := shown first hidden closed
  obtain ⟨secondHidden, secondClosed⟩ := shown second otherHidden otherClosed
  obtain ⟨heads, utilities⟩ :=
    ClassName.cut_unique firstHidden firstClosed secondHidden secondClosed same
  refine ⟨?_, utilities⟩
  have starts : first <+: first ++ middle ++ escape first ++ ['\\'] := by
    simp only [List.append_assoc, List.prefix_append]
  have otherStarts : second <+: first ++ middle ++ escape first ++ ['\\'] := by
    rw [heads]
    simp only [List.append_assoc, List.prefix_append]
  rcases List.prefix_or_prefix_of_prefix starts otherStarts with shorter | longer
  · exact eq_of_prefix_of_shown_twice shorter heads
  · exact (eq_of_prefix_of_shown_twice longer heads.symm).symm

section Recovery

variable {family otherFamily : Family} {state other utility further : Text}

/-- Without a relation the class part gives the name, and the name gives the
condition behind it. -/
theorem eq_of_build_self (alone : family.relation = .self)
    (otherAlone : otherFamily.relation = .self)
    (leads : CanLead family state) (otherLeads : CanLead otherFamily other)
    (same : build (family.variant state) (family.name state ++ ':' :: utility) =
      build (otherFamily.variant other) (otherFamily.name other ++ ':' :: further)) :
    family.name state ++ ':' :: utility = otherFamily.name other ++ ':' :: further := by
  have closesEscaped : ∀ token, Nesting.Hides {} (· = ':') token → Nesting.after {} token = {} →
      Nesting.Hides {} (· = ':') (escape token ++ ['\\']) ∧
        Nesting.after {} (escape token ++ ['\\']) = {} := by
    intro token hidden closed
    simp only [Nesting.hides_append, Nesting.after_append, after_escape, closed]
    exact ⟨⟨hidesColons_escape hidden, Nesting.hidesColons_of_not_mem (by decide)⟩, rfl⟩
  obtain ⟨hidden, closed⟩ := closesEscaped _ leads.hidden leads.closed
  obtain ⟨otherHidden, otherClosed⟩ := closesEscaped _ otherLeads.hidden otherLeads.closed
  rw [build_self family state utility alone, build_self otherFamily other further otherAlone]
    at same
  obtain ⟨heads, tails⟩ :=
    ClassName.cut_unique hidden closed otherHidden otherClosed (List.cons.inj same).2
  have names := escape_injective (List.append_cancel_right heads)
  have variants : family.variant state = otherFamily.variant other := by
    have named := leads.named
    rw [names, otherLeads.named] at named
    exact (Except.ok.inj named).symm
  have states : state = other := congrArg Variant.state variants
  have negations : family.negated = otherFamily.negated := congrArg Variant.negated variants
  rw [states, negations] at tails
  rw [names, escape_injective (List.append_cancel_right tails)]

/-- With a relation the class is found behind the state that is shown twice. -/
theorem eq_of_build_related (related : family.relation ≠ .self)
    (leads : CanLead family state) (otherLeads : CanLead family other)
    (same : build (family.variant state) (family.name state ++ ':' :: utility) =
      build (family.variant other) (family.name other ++ ':' :: further)) :
    family.name state ++ ':' :: utility = family.name other ++ ':' :: further := by
  rw [build_related family state utility related, build_related family other further related]
    at same
  obtain ⟨states, utilities⟩ := eq_of_shown_twice (colon_not_mem_between family)
    (after_between family) leads.state_hidden leads.state_closed otherLeads.state_hidden
    otherLeads.state_closed (List.append_cancel_left same)
  rw [states, escape_injective utilities]

end Recovery

/-- **A class is given by its selector.** -/
theorem ofClass?_injective {first second selector : Text}
    (selected : ofClass? first = some selector) (otherSelected : ofClass? second = some selector) :
    first = second := by
  obtain ⟨family, state, utility, leads, rfl, rfl⟩ := exists_parts_of_ofClass? selected
  obtain ⟨otherFamily, other, further, otherLeads, rfl, same⟩ :=
    exists_parts_of_ofClass? otherSelected
  have starts := lead_prefix_build family state utility
  have otherStarts := lead_prefix_build otherFamily other further
  rw [← same] at otherStarts
  -- The selector starts like both families, so they agree as far as a selector shows it.
  have families : family = otherFamily ∨
      family.relation = .self ∧ otherFamily.relation = .self := by
    rcases List.prefix_or_prefix_of_prefix starts otherStarts with shorter | longer
    · exact lead_eq_of_prefix_build shorter
    · exact (lead_eq_of_prefix_build longer).imp Eq.symm And.symm
  by_cases alone : family.relation = .self
  · have otherAlone : otherFamily.relation = .self := by
      rcases families with rfl | ⟨_, otherAlone⟩
      · exact alone
      · exact otherAlone
    exact eq_of_build_self alone otherAlone leads otherLeads same
  · obtain rfl : family = otherFamily := families.resolve_right fun both => alone both.1
    exact eq_of_build_related alone leads otherLeads same

end Selector

/-! ## Stylesheets -/

theorem Rule.IsOf.ofClass?_eq {utility? : Text → Option Text} {className : Text} {rule : Rule}
    (own : rule.IsOf utility? className) : Selector.ofClass? className = some rule.selector := by
  obtain ⟨token, utility, variant, declared, cut, named, _, _, selected, _⟩ := own
  have leads : ClassName.leading? className = some token := by
    rw [ClassName.leading?, cut]
    rfl
  rw [Selector.ofClass?, ClassName.variant?, leads, Option.bind_some,
    Variant.read?_eq_some_iff.mpr named, selected]
  rfl

theorem Stylesheet.nodup_selectors (utilities : Utilities) (classes : List Text) :
    ((ofClasses utilities classes).rules.values.map (·.selector)).Nodup := by
  rw [SortedTable.values, List.map_map]
  refine List.pairwise_map.mpr ((ofClasses utilities classes).rules.ascending.imp_of_mem ?_)
  intro earlier later member otherMember below same
  have own := (mem_rules_iff.mp member).2.ofClass?_eq
  have otherOwn := (mem_rules_iff.mp otherMember).2.ofClass?_eq
  simp only [Function.comp_apply] at same
  rw [← same] at otherOwn
  rw [Selector.ofClass?_injective own otherOwn] at below
  exact List.lt_irrefl _ below

/-- **Distinct classes never share a selector**, whatever their states and
utilities are made of, and so no two rules of a stylesheet do. -/
theorem selectors_tell_classes_apart :
    (∀ first second selector : Text, Selector.ofClass? first = some selector →
      Selector.ofClass? second = some selector → first = second) ∧
    ∀ (settings : Settings) (classes : List Text),
      ((Stylesheet.ofClasses settings.utilities.extended classes).rules.values.map
        (·.selector)).Nodup :=
  ⟨fun _ _ _ => Selector.ofClass?_injective,
    fun settings classes => Stylesheet.nodup_selectors settings.utilities.extended classes⟩

/-- The state may hold the very text that closes the condition. -/
theorem selectors_tell_apart_quoted_delimiters :
    Selector.ofClass? "ui-group-a\"] .b:c".toList =
        some ".group[data-state=\"a\"] .b\"] .ui-group-a\"] .b\\:c".toList ∧
      "ui-group-a\"] .b:c".toList = "ui-group-a\"] .b:c".toList := by
  have selected : Selector.ofClass? "ui-group-a\"] .b:c".toList =
      some ".group[data-state=\"a\"] .b\"] .ui-group-a\"] .b\\:c".toList := by decide
  exact ⟨selected, selectors_tell_classes_apart.1 _ _ _ selected selected⟩

end StateSheet
