import StateSheet.Variant.Reader

/-!
# Notices

What the program tells its user beside its results, each notice as what
happened, with the level and the wording fixed in one place.
-/

set_option autoImplicit false

namespace StateSheet

/-- How urgent a notice is. -/
inductive Level where
  | info
  | warning
deriving DecidableEq, Repr

/-- Something worth telling the user. -/
inductive Notice where
  /-- A class leads with a variant name that has no state. -/
  | emptyState (token : Text) (className : Text)
  /-- Classes were listed from so many files. -/
  | listed (files : Nat) (classes : Nat)
  /-- A stylesheet was built from so many files. -/
  | built (files : Nat) (rules : Nat) (skipped : Nat)
  /-- Changes are now watched for, by polling when an interval is given. -/
  | watching (interval : Option Nat)
  /-- A watched file changed. -/
  | rebuilding
deriving DecidableEq, Repr

namespace Notice

/-- The level of a notice. -/
def level : Notice → Level
  | emptyState .. => .warning
  | listed .. | built .. | watching .. | rebuilding => .info

/-- The wording of a notice. -/
def message : Notice → Text
  | emptyState token _ => "skipping class: ".toList ++ (VariantFault.emptyState token).message
  | listed files classes => s!"scanned {files} files, found {classes} ui- classes".toList
  | built files rules skipped =>
      s!"scanned {files} files, generated {rules} rules, skipped {skipped} classes".toList
  | watching none => "watching for changes (press Ctrl+C to stop)".toList
  | watching (some interval) =>
      s!"watching for changes (polling every {interval}ms, press Ctrl+C to stop)".toList
  | rebuilding => "change detected, rebuilding".toList

/-- The class that a notice is about. -/
def className? : Notice → Option Text
  | emptyState _ className => some className
  | _ => none

end Notice

end StateSheet
