/-
# Settings from a document

A configuration is a document with one section of bounds and one of switches. A
setting that is absent takes its default, one that is there must be of its kind,
and anything else in the document is ignored. A section is a table; a list of
values stands for the settings in their order.
-/

import CallTrace.Config
import CallTrace.Text.Utf8
import CallTrace.Toml.Document

namespace CallTrace

namespace Toml

/-- A number that is not negative. -/
def toCount? : Toml → Option UInt64
  | .integer value => if 0 ≤ value then some (UInt64.ofNat value.toNat) else none
  | _ => none

/-- A switch is on or off, never a number or a text. -/
def toSwitch? : Toml → Option Bool
  | .boolean value => some value
  | _ => none

/-- The values that a section gives to the settings with these names. A date is a
section without settings. -/
def settings? (names : List String) : Toml → Option (List (Option Toml))
  | .table _ entries => some (names.map fun name => entries.lookup name)
  | .array items => some (names.mapIdx fun position _ => items[position]?)
  | .tables items => some (names.mapIdx fun position _ =>
      items.reverse[position]?.map (.table .header))
  | .moment => some (names.map fun _ => none)
  | _ => none

/-- The settings of a section of a document; a missing section has none. -/
def section? (title : String) (names : List String) (document : TomlEntries) :
    Option (List (Option Toml)) :=
  match document.lookup title with
  | none => some (names.map fun _ => none)
  | some value => value.settings? names

/-- A setting that may be absent. -/
def setting? {α : Type} (default : α) (convert : Toml → Option α) : Option Toml → Option α
  | none => some default
  | some value => convert value

end Toml

namespace TraceConfig

/-- The bounds, from the section that holds them. -/
def maxDepthOf? (document : TomlEntries) : Option UInt64 := do
  match ← Toml.section? "session" ["max_depth"] document with
  | [maxDepth] => Toml.setting? ({} : TraceConfig).maxDepth Toml.toCount? maxDepth
  | _ => none

/-- The switches, from the section that holds them. -/
def outputOf? (document : TomlEntries) : Option OutputSchema := do
  match ← Toml.section? "output" ["function_trace", "classification_tags"] document with
  | [functionTrace, classificationTags] => do
    let default : OutputSchema := {}
    return ⟨← Toml.setting? default.functionTrace Toml.toSwitch? functionTrace,
      ← Toml.setting? default.classificationTags Toml.toSwitch? classificationTags⟩
  | _ => none

/-- The configuration that a document describes. -/
def ofToml? (document : TomlEntries) : Option TraceConfig := do
  return ⟨← maxDepthOf? document, ← outputOf? document⟩

/-- Loads a configuration from the contents of a file, if there is one. What is
loaded can be worked with. -/
def load (contents : Option (List UInt8)) : Except ConfigError TraceConfig := do
  let some text := contents.bind Utf8.decode? | throw .unreadable
  let some config := (Toml.ofText? text).bind ofToml? | throw .notToml
  config.validate
  return config

end TraceConfig

end CallTrace
