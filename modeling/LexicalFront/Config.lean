import LexicalFront.Json.Parser
import LexicalFront.Text.OsText
set_option autoImplicit false
set_option relaxedAutoImplicit false

/-!
# Configurations

A configuration says which files of a directory become units of a module. It is written in JSON,
with a default for every field.

## Main definitions

* `LexicalFront.Config` — the configuration and the questions it answers.
* `LexicalFront.Config.ofJson?`, `LexicalFront.Config.parse?` — reading a configuration.
-/

namespace LexicalFront

/-- Which files of a directory become units. -/
structure Config where
  /-- The extension of the files, without the point. -/
  extension : String
  /-- Whether directories inside the directory are looked into. -/
  recursive : Bool
  /-- Whether names that start with a point are passed over. -/
  skipHidden : Bool
  /-- The names of directories that are not looked into. -/
  ignoredDirs : List String
  deriving DecidableEq, Repr

namespace Config

/-- The configuration that applies where none is given. -/
def standard : Config := ⟨"lift", true, true, ["target"]⟩

/-- Whether an entry of this name is passed over, whatever it is. A name that is no text never is.
-/
def skipsName (c : Config) (name : OsText) : Bool :=
  c.skipHidden && name.text?.any (·.toList.head? == some '.')

/-- Whether a directory of this name is looked into. -/
def descendsInto (c : Config) (name : OsText) : Bool :=
  c.recursive && !c.ignoredDirs.any (name == ·)

/-- Whether a file with this extension becomes a unit. -/
def acceptsExtension (c : Config) (extension : Option OsText) : Bool :=
  extension == some (c.extension : OsText)

/-! ## Reading -/

/-- The names of the fields. -/
def fieldNames : List String := ["extension", "recursive", "skip_hidden", "ignored_dirs"]

/-- The value of a field: the default where it is missing, and else what `f` reads. -/
def fieldOr {α : Type} (default : α) (f : Json → Option α) : Option Json → Option α
  | none => some default
  | some j => f j

/-- A list of texts. -/
def textsOf? (j : Json) : Option (List String) :=
  j.toItems?.bind fun items => items.mapM Json.toString?

/-- The configuration with the given values of the fields. -/
def ofFields? (extension recursive skipHidden ignoredDirs : Option Json) : Option Config := do
  let extension ← fieldOr standard.extension Json.toString? extension
  let recursive ← fieldOr standard.recursive Json.toBool? recursive
  let skipHidden ← fieldOr standard.skipHidden Json.toBool? skipHidden
  let ignoredDirs ← fieldOr standard.ignoredDirs textsOf? ignoredDirs
  return ⟨extension, recursive, skipHidden, ignoredDirs⟩

/-- The configuration that a tree describes: an object with fields of the known names, each once at
most, or an array of the values of the first fields. Fields that are left out take their default. -/
def ofJson? (j : Json) : Option Config :=
  match j with
  | .obj _ => do
    let members ← j.members?
    if members.all fun m => fieldNames.contains m.1 then
      ofFields? (← Json.unique? "extension" members) (← Json.unique? "recursive" members)
        (← Json.unique? "skip_hidden" members) (← Json.unique? "ignored_dirs" members)
    else none
  | .arr items =>
    if items.length ≤ fieldNames.length then ofFields? items[0]? items[1]? items[2]? items[3]?
    else none
  | _ => none

/-- The configuration that a JSON text describes. -/
def parse? (s : String) : Option Config := (Json.parse? s).bind ofJson?

end Config

end LexicalFront
