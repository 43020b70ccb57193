import LexicalFront.Json.Basic
import LexicalFront.Workspace.Basic
set_option autoImplicit false
set_option relaxedAutoImplicit false

/-!
# Steps and replies of a session

A session is driven by steps that refer to modules, units, handles and resolved tokens by the names
under which they were stored. Each step has one reply.

## Main definitions

* `LexicalFront.Step` — what can be asked.
* `LexicalFront.Reply` — what can be answered.
-/

namespace LexicalFront

/-- Steps on the files in memory. -/
inductive FileStep where
  | write (path : Path) (text : String)
  | makeDir (path : Path)
  | remove (path : Path)
  | ask (path : Path)
  | read (path : Path)
  | list (path : Path)
  | inspect

/-- Steps on a module. Arguments called `slot` are the names under which a result is stored. -/
inductive ModuleStep where
  /-- Another module is made from the record of the module. -/
  | restore (slot : String) (config : Option Json)
  | size
  | units
  /-- The unit at some place in the order. -/
  | pickUnit (index : Nat) (slot : String)
  /-- The first unit at some location. -/
  | findUnit (location : Path) (slot : String)
  | addBlankUnit (slot : String)
  | addUnitAt (location : Path) (slot : String)
  | removeUnit (unit : String)
  /-- Whether a unit belongs to the module. -/
  | owns (unit : String)
  | location
  | setLocation (location : Option Path)
  | loadAll
  | config
  /-- A file is read as the module reads files. -/
  | read (path : Path)
  | manifest
  | summary
  | inspect

/-- Steps on a unit. -/
inductive UnitStep where
  | load
  | replace (text : String)
  | clear
  | text
  | tokens
  /-- Whether two readers share the tokens. -/
  | shareTokens
  /-- The generation and the tokens together. -/
  | snapshot
  | setLocation (location : Option Path)
  | locationOfModule
  | manifest
  | inspect
  | reference (index : Nat) (slot : String)

/-- Steps on a handle. -/
inductive HandleStep where
  | copy (slot : String)
  | isValid
  | parts
  | unit (slot : String)
  | inspect
  | resolve (slot : Option String)

/-- Steps on a resolved token. -/
inductive TokenStep where
  | parts
  | inspect

/-- A step of a session. -/
inductive Step where
  | files (step : FileStep)
  /-- A module without location and units is made. -/
  | newModule (source : FileSource) (slot : String)
  /-- A module on a directory is made. -/
  | openModule (source : FileSource) (dir : Path) (slot : String) (config : Option Json)
  /-- A module is made from its record. -/
  | restoreModule (manifest : Json) (slot : String) (config : Option Json)
  /-- A module is dropped, with its name. -/
  | dropModule (name : String)
  /-- The name of a unit is given up. -/
  | dropUnit (name : String)
  | onModule (name : String) (step : ModuleStep)
  | onUnit (name : String) (step : UnitStep)
  | onHandle (name : String) (step : HandleStep)
  | onToken (name : String) (step : TokenStep)

/-- The reply to a step. -/
inductive Reply where
  /-- There is nothing to say. -/
  | done
  /-- A name is not in use. -/
  | noSuchSlot
  /-- A tree describes no configuration. -/
  | badConfig
  /-- A tree describes no record of a module. -/
  | badManifest
  | failed (error : LexicalError)
  | unreadable (error : FileError)
  | truth (value : Bool)
  | maybeTruth (value : Option Bool)
  | count (n : Nat)
  | maybeCount (n : Option Nat)
  | text (s : String)
  | maybeText (s : Option String)
  | maybePath (p : Option Path)
  | entries (list : List DirEntry)
  /-- The locations of the units of a module. -/
  | locations (list : List (Option Path))
  | size (n : Nat)
  | unit (state : CompilationUnit)
  | maybeUnit (state : Option CompilationUnit)
  | units (states : List CompilationUnit)
  | config (c : Config)
  /-- A record on one line and on many, if it can be written. -/
  | record (oneLine manyLines : Option String)
  | maybeTokens (tokens : Option (List Token))
  | maybeSnapshot (generation : Nat) (stream : Option TokenStream)
  | maybeHandle (handle : Option Handle)
  /-- A handle, and its unit if it still exists. -/
  | handle (handle : Handle) (state : Option CompilationUnit)
  | resolved (token : TokenRef)
  /-- A resolved token with its stream. -/
  | token (token : TokenRef)

end LexicalFront
