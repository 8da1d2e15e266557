import StateSheet.Text.Basic

/-!
# Commands

What the program can be told to do: list the classes that depend on a state,
build a stylesheet from them, build it again whenever a file changes, or
explain itself.
-/

set_option autoImplicit false

namespace StateSheet

/-- Which files a command works on: those that an input glob matches and no
ignore glob does. -/
structure Selection where
  inputs : List Text := []
  ignore : List Text := []
deriving DecidableEq, Repr

/-- A stylesheet to be built. -/
structure BuildOrder where
  selection : Selection := {}
  /-- Where the stylesheet is written. Without a place it is printed. -/
  output? : Option Text := none
  /-- Where the settings are read from. -/
  config? : Option Text := none
  minify : Bool := false
deriving DecidableEq, Repr

/-- How changes are noticed. -/
structure Polling where
  /-- Are files looked at again and again, instead of being told of changes? -/
  enabled : Bool := false
  /-- The milliseconds between two looks. -/
  interval : Nat := 500
deriving DecidableEq, Repr

/-- Something that the program can be told to do. -/
inductive Command where
  | help
  | scan (selection : Selection)
  | build (order : BuildOrder)
  | watch (order : BuildOrder) (polling : Polling)
deriving DecidableEq, Repr

end StateSheet
