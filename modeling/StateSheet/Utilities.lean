import StateSheet.Text.SortedTable

/-!
# Utilities

The utilities that every stylesheet knows: the ones that set how an element is
displayed and the ones that show or hide it. Settings add to them and may
redefine them.
-/

set_option autoImplicit false

namespace StateSheet

/-- Declarations by the name of the utility that stands for them. -/
abbrev Utilities := SortedTable Text

namespace Utilities

/-- The utilities known without any settings. -/
def standard : Utilities :=
  .ofEntries
    ([("block", "display: block"),
      ("inline-block", "display: inline-block"),
      ("inline", "display: inline"),
      ("flex", "display: flex"),
      ("inline-flex", "display: inline-flex"),
      ("grid", "display: grid"),
      ("inline-grid", "display: inline-grid"),
      ("contents", "display: contents"),
      ("hidden", "display: none"),
      ("visible", "visibility: visible"),
      ("invisible", "visibility: hidden")].map fun entry => (entry.1.toList, entry.2.toList))

/-- The standard utilities, extended and overridden by further ones. -/
def extended (further : Utilities) : Utilities := standard.insertAll further.entries

end Utilities

end StateSheet
