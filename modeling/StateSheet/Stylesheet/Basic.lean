import StateSheet.Declaration
import StateSheet.Registry
import StateSheet.Utilities

/-!
# Stylesheets

The stylesheet of a class list has one rule for each class that names a known
variant and a known utility with at least one declaration. The rule pairs the
selector of the class with the declarations of its utility. The rules are
ordered by class, and the classes that ask for a rule and cannot have one are
counted as skipped.
-/

set_option autoImplicit false

namespace StateSheet

/-- A selector and the declarations that apply under it. -/
structure Rule where
  selector : Text
  declarations : List Declaration
deriving DecidableEq, Repr

/-- What becomes of a class in a stylesheet. -/
inductive Fate where
  /-- The class asks for nothing, or its utility declares nothing. -/
  | ignored
  /-- The class lacks a state, or its utility is unknown. -/
  | skipped
  /-- The class has a rule. -/
  | ruled (rule : Rule)
deriving DecidableEq, Repr

namespace Fate

/-- What becomes of a class whose variants are looked up in a registry. -/
def of (registry : Registry) (utilities : Utilities) (className : Text) : Fate :=
  match ClassName.split? className with
  | none => ignored
  | some (token, utility) =>
      match registry.selector? token className with
      | none => if ClassName.lacksState className then skipped else ignored
      | some selector =>
          match utilities.get? utility with
          | none => skipped
          | some declared =>
              match Declaration.readAll declared with
              | [] => ignored
              | first :: more => ruled { selector, declarations := first :: more }

/-- The rule of a class that has one. -/
def rule? : Fate → Option Rule
  | ruled rule => some rule
  | ignored | skipped => none

end Fate

/-- The rules of classes, and how many classes were skipped. -/
structure Stylesheet where
  /-- The rules, in the order of their classes. -/
  rules : SortedTable Rule
  skipped : Nat

namespace Stylesheet

/-- The stylesheet of a class list. Without a variant there is no rule, and
only the classes without a state are to be counted. -/
def ofClasses (utilities : Utilities) (classes : List Text) : Stylesheet :=
  let registry := Registry.empty.register classes
  if registry.isEmpty then
    { rules := .empty, skipped := classes.countP ClassName.lacksState }
  else
    let fates := classes.map fun className => (className, Fate.of registry utilities className)
    { rules := .ofEntries (fates.filterMap fun entry => entry.2.rule?.map (entry.1, ·))
      skipped := fates.countP fun entry => entry.2 = .skipped }

/-- How many classes have a rule. -/
def ruleCount (sheet : Stylesheet) : Nat := sheet.rules.size

end Stylesheet

end StateSheet
