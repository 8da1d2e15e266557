import StateSheet.Stylesheet.Basic

/-!
# The text of a stylesheet

A stylesheet is written either for people, with a line for every declaration,
or minified, without any blank that the format does not need. Both layouts
write the same selectors, properties and values in the same order.
-/

set_option autoImplicit false

namespace StateSheet

/-- The two ways to write a stylesheet. -/
inductive Layout where
  /-- A line for every declaration. -/
  | pretty
  /-- No blank beside those of the selectors and values. -/
  | minified
deriving DecidableEq, Repr

namespace Layout

/-- The layout that a setting asks for. -/
def ofMinify (minify : Bool) : Layout := if minify then minified else pretty

/-- The text between the braces of a rule. -/
def body : Layout → List Declaration → Text
  | minified, declarations =>
      [';'].intercalate (declarations.map fun declaration =>
        declaration.property ++ [':'] ++ declaration.value)
  | pretty, declarations =>
      ['\n'] ++
        [';', '\n'].intercalate (declarations.map fun declaration =>
          [' ', ' '] ++ declaration.property ++ [':', ' '] ++ declaration.value) ++
        ['\n']

/-- The text of a rule. -/
def rule (layout : Layout) (rule : Rule) : Text :=
  let opening : Text :=
    match layout with
    | minified => ['\x7b']
    | pretty => [' ', '\x7b']
  rule.selector ++ opening ++ layout.body rule.declarations ++ ['\x7d']

/-- The text between two rules. -/
def separator : Layout → Text
  | minified => []
  | pretty => ['\n']

end Layout

/-- The text of a stylesheet. -/
def Stylesheet.render (layout : Layout) (sheet : Stylesheet) : Text :=
  layout.separator.intercalate (sheet.rules.values.map layout.rule)

end StateSheet
