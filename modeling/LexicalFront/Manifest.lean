import LexicalFront.Json.Parser
import LexicalFront.Json.Printer
import LexicalFront.Path
set_option autoImplicit false
set_option relaxedAutoImplicit false

/-!
# Manifests

A manifest records what remains of a module when the program ends: its location, its units in
order with their locations, and the texts of units that have no file. It is written in JSON, which
has no way to write a location that is no text.

## Main definitions

* `LexicalFront.UnitManifest`, `LexicalFront.ModuleManifest` — the records; `isText` tells whether
  they can be written.
* `LexicalFront.ModuleManifest.render`, `LexicalFront.ModuleManifest.renderCompact` — writing.
* `LexicalFront.ModuleManifest.ofJson?`, `LexicalFront.ModuleManifest.parse?` — reading.
-/

namespace LexicalFront

/-- What is recorded of a unit. -/
structure UnitManifest where
  /-- The location below that of the module. -/
  location : Option Path
  /-- The text. -/
  representation : Option String
  deriving DecidableEq, Repr

/-- What is recorded of a module. -/
structure ModuleManifest where
  /-- The location. -/
  location : Option Path
  /-- The units, in order. -/
  units : List UnitManifest
  deriving DecidableEq, Repr

/-! ## Writing -/

/-- Whether the path is a text. -/
def Path.isText (p : Path) : Bool := p.spelling.isText

/-- A location in JSON. -/
def Path.toJson (p : Path) : Json := .ofString p.text

namespace UnitManifest

/-- Whether the location is a text. -/
def isText (u : UnitManifest) : Bool := u.location.all Path.isText

/-- The record of a unit in JSON. A missing text is left out. -/
def toJson (u : UnitManifest) : Json :=
  .object (("location", .ofOption Path.toJson u.location) ::
    match u.representation with
    | some text => [("representation", .ofString text)]
    | none => [])

/-- The written record on one line. -/
def renderCompact (u : UnitManifest) : Option String :=
  if u.isText then some u.toJson.compact else none

end UnitManifest

namespace ModuleManifest

/-- Whether all locations are texts. -/
def isText (m : ModuleManifest) : Bool :=
  m.location.all Path.isText && m.units.all UnitManifest.isText

/-- The record of a module in JSON. -/
def toJson (m : ModuleManifest) : Json :=
  .object [("location", .ofOption Path.toJson m.location),
    ("units", .arr (m.units.map UnitManifest.toJson))]

/-- The written record. -/
def write (m : ModuleManifest) (l : Json.Layout) : Option String :=
  if m.isText then some (m.toJson.write l) else none

/-- The written record on many lines. -/
def render (m : ModuleManifest) : Option String := m.write .pretty

/-- The written record on one line. -/
def renderCompact (m : ModuleManifest) : Option String := m.write .compact

end ModuleManifest

/-! ## Reading -/

/-- The location that a tree describes. -/
def Path.ofJson? (j : Json) : Option Path := j.toString?.map Path.ofText

namespace UnitManifest

/-- The record with the given values. -/
def ofFields? (location representation : Option Json) : Option UnitManifest := do
  let location ← Json.optional Path.ofJson? location
  let representation ← Json.optional Json.toString? representation
  return ⟨location, representation⟩

/-- The record that a tree describes: an object, whose members of other names do not matter, or an
array of the location and perhaps the text. -/
def ofJson? (j : Json) : Option UnitManifest :=
  match j with
  | .obj _ => do
    let members ← j.members?
    ofFields? (← Json.unique? "location" members) (← Json.unique? "representation" members)
  | .arr [location] => ofFields? (some location) none
  | .arr [location, representation] => ofFields? (some location) (some representation)
  | _ => none

end UnitManifest

namespace ModuleManifest

/-- The records of the units; none if the field is missing. -/
def unitsOf? : Option Json → Option (List UnitManifest)
  | none => some []
  | some j => j.toItems?.bind fun items => items.mapM UnitManifest.ofJson?

/-- The record with the given values. -/
def ofFields? (location units : Option Json) : Option ModuleManifest := do
  let location ← Json.optional Path.ofJson? location
  let units ← unitsOf? units
  return ⟨location, units⟩

/-- The record that a tree describes: an object, whose members of other names do not matter, or an
array of the location and perhaps the units. -/
def ofJson? (j : Json) : Option ModuleManifest :=
  match j with
  | .obj _ => do
    let members ← j.members?
    ofFields? (← Json.unique? "location" members) (← Json.unique? "units" members)
  | .arr [location] => ofFields? (some location) none
  | .arr [location, units] => ofFields? (some location) (some units)
  | _ => none

/-- The record that a JSON text describes. -/
def parse? (s : String) : Option ModuleManifest := (Json.parse? s).bind ofJson?

end ModuleManifest

end LexicalFront
