import StateSheet.Settings.Basic
import StateSheet.Toml.Document

/-!
# Reading settings

Settings are given by a TOML document. A setting that is left out has its
default, a setting with a value of the wrong kind is refused, and every other
key is passed over.
-/

set_option autoImplicit false

namespace StateSheet.Settings

open Toml

/-- A switch among the entries of a document. -/
def switch? (name : Text) (absent : Bool) (entries : Entries) : Option Bool :=
  match entries.get? name with
  | none => some absent
  | some (.boolean value) => some value
  | some _ => none

/-- The text that an entry of the utilities gives. -/
def declared? (entry : Text × Value) : Option (Text × Text) :=
  match entry.2 with
  | .text declarations => some (entry.1, declarations)
  | _ => none

/-- The key under which a moment stands where a table is asked for. -/
def momentKey : Text := "$__toml_private_datetime".toList

/-- The utilities among the entries of a document. -/
def utilities? (entries : Entries) : Option Utilities :=
  match entries.get? "utilities".toList with
  | none => some .empty
  | some (.table _ inner) => (inner.mapM declared?).map .ofEntries
  | some (.moment moment) => some (.ofEntries [(momentKey, moment.render)])
  | some _ => none

/-- The settings that a text makes, if it is a document with settings of the
right kinds. -/
def read? (text : Text) : Option Settings := do
  let document ← Document.read? text
  let minify ← switch? "minify".toList false document.entries
  let warnOnEmptyState ← switch? "warn_on_empty_state".toList true document.entries
  let utilities ← utilities? document.entries
  some { minify, warnOnEmptyState, utilities }

end StateSheet.Settings
