set_option autoImplicit false
set_option relaxedAutoImplicit false

/-!
# Trees of JSON texts

A tree keeps what a reader of a JSON text may care about: the order of the members of an object,
members of the same name, and numbers as they are written. A string that names half of a surrogate
pair has no characters; it is kept as a string without value, so that only a reader who asks for its
value fails.

## Main definitions

* `LexicalFront.Json` — the trees.
* `LexicalFront.Json.members?`, `LexicalFront.Json.unique?` — the members of an object by name.
* `LexicalFront.Json.toNat?` and its companions — the value of a leaf.
-/

namespace LexicalFront

/-- A JSON text as a tree. -/
inductive Json where
  | null
  | bool (value : Bool)
  /-- A number, as it is written. -/
  | num (literal : String)
  /-- A string; without value if an escape in it names half of a surrogate pair. -/
  | str (value? : Option String)
  | arr (items : List Json)
  /-- An object; a member has no name if its name is such a string. -/
  | obj (members : List (Option String × Json))

namespace Json

/-- Blanks between the pieces of a JSON text. -/
def isBlankChar (c : Char) : Bool :=
  c == ' ' || c == '\t' || c == '\n' || c == '\r'

/-- The tree of a text. -/
def ofString (s : String) : Json := str (some s)

/-- The tree of a natural number. -/
def ofNat (n : Nat) : Json := num (toString n)

/-- The tree of a value that may be missing, in which case it is `null`. -/
def ofOption {α : Type} (f : α → Json) : Option α → Json
  | some a => f a
  | none => null

/-- The object with the given members. -/
def object (members : List (String × Json)) : Json :=
  obj (members.map fun m => (some m.1, m.2))

/-- The text, if the tree is a string with a value. -/
def toString? : Json → Option String
  | str s => s
  | _ => none

/-- The truth value, if the tree is one. -/
def toBool? : Json → Option Bool
  | bool b => some b
  | _ => none

/-- The items, if the tree is an array. -/
def toItems? : Json → Option (List Json)
  | arr items => some items
  | _ => none

/-- The natural number, if the tree is a number that is written with digits only. -/
def toNat? : Json → Option Nat
  | num s => if s.toList.all Char.isDigit then s.toNat? else none
  | _ => none

/-- The members, if the tree is an object all of whose members have names. -/
def members? : Json → Option (List (String × Json))
  | obj ms => ms.mapM fun m => m.1.map fun name => (name, m.2)
  | _ => none

/-- The values of the members with a given name, in order. -/
def valuesOf (name : String) (members : List (String × Json)) : List Json :=
  (members.filter (·.1 == name)).map (·.2)

/-- The value of the only member with a given name; nothing inside if there is no such member, and
nothing at all if there are several. -/
def unique? (name : String) (members : List (String × Json)) : Option (Option Json) :=
  match valuesOf name members with
  | [] => some none
  | [j] => some (some j)
  | _ => none

/-- The value of the last member with a given name. -/
def last? (name : String) (members : List (String × Json)) : Option Json :=
  (valuesOf name members).getLast?

/-- The value of something that is either missing or `null`, or has to be read by `f`. -/
def optional {α : Type} (f : Json → Option α) : Option Json → Option (Option α)
  | none => some none
  | some null => some none
  | some j => (f j).map some

end Json

end LexicalFront
