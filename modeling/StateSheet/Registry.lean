import StateSheet.Text.SortedTable
import StateSheet.Text.Quoted
import StateSheet.Selector
import StateSheet.Registration

/-!
# Registries

The variants known to a stylesheet, by name. A name registered again takes the
newer variant. A class is given its selector by the variant found under a
name, whether or not the class leads with that name.
-/

set_option autoImplicit false

namespace StateSheet

/-- Variants by name. -/
structure Registry where
  variants : SortedTable Variant

namespace Registry

/-- The registry without a variant. -/
def empty : Registry := ⟨.empty⟩

/-- The registry with a variant added under a name. -/
def add (registry : Registry) (name : Text) (variant : Variant) : Registry :=
  ⟨registry.variants.insert name variant⟩

/-- The registry with the variants that a class list calls for. -/
def register (registry : Registry) (classes : List Text) : Registry :=
  (Registration.ofClasses classes).addTo add registry

/-- The selector of a class under the variant with a name. -/
def selector? (registry : Registry) (name className : Text) : Option Text :=
  (registry.variants.get? name).map fun variant => Selector.build variant className

/-- Is there a variant with a name? -/
def contains (registry : Registry) (name : Text) : Bool := registry.variants.contains name

/-- How many variants there are. -/
def size (registry : Registry) : Nat := registry.variants.size

/-- Is there no variant? -/
def isEmpty (registry : Registry) : Bool := registry.variants.isEmpty

/-- The names of the variants, in ascending order. -/
def names (registry : Registry) : List Text := registry.variants.keys

/-- The form in which a report shows a registry: the quoted names in order. -/
def summary (registry : Registry) : Text :=
  "VariantRegistry \x7b variants: [".toList ++
    [',', ' '].intercalate (registry.names.map Text.quoted) ++ "] \x7d".toList

end Registry

end StateSheet
