import LexicalFront.Json.Basic
set_option autoImplicit false
set_option relaxedAutoImplicit false

/-!
# Writing JSON

Two written forms of a tree: on one line without blanks, and on many lines with an indentation of
two blanks for each level. They differ only in the blanks between the pieces, the layout. Strings
escape what JSON forbids inside quotes and nothing else.

## Main definitions

* `LexicalFront.Json.Layout` — the blanks between the pieces.
* `LexicalFront.Json.compact` — the form without blanks.
* `LexicalFront.Json.pretty` — the form on many lines.
-/

namespace LexicalFront

namespace Json

/-- How a character is written inside a string: quote and backslash behind a backslash, controls
by their short escape if they have one and else by number, all others as they are. -/
def escape (c : Char) : List Char :=
  if c = '"' then ['\\', '"']
  else if c = '\\' then ['\\', '\\']
  else if c = '\x08' then ['\\', 'b']
  else if c = '\x0c' then ['\\', 'f']
  else if c = '\n' then ['\\', 'n']
  else if c = '\r' then ['\\', 'r']
  else if c = '\t' then ['\\', 't']
  else if c.toNat < 0x20 then
    ['\\', 'u', '0', '0', Nat.digitChar (c.toNat / 16), Nat.digitChar (c.toNat % 16)]
  else [c]

/-- A string between quotes. -/
def quote (s : String) : List Char :=
  '"' :: (s.toList.flatMap escape ++ ['"'])

/-- A string that may lack a value, which is then written as the empty one. -/
def quote? (s : Option String) : List Char := quote (s.getD "")

/-- How the pieces of a written tree are set apart. -/
structure Layout where
  /-- What stands before an item, a member or a closing bracket at some level. -/
  gap : Nat → List Char
  /-- What stands between the colon of a member and its value. -/
  afterColon : List Char
  /-- Items are set apart by blanks. -/
  gap_blank : ∀ level, ∀ c ∈ gap level, isBlankChar c = true
  /-- Values are set apart by blanks. -/
  afterColon_blank : ∀ c ∈ afterColon, isBlankChar c = true

/-- The layout without blanks. -/
def Layout.compact : Layout := ⟨fun _ => [], [], nofun, nofun⟩

/-- A line break and the indentation of a level. -/
def newline (level : Nat) : List Char := '\n' :: List.replicate (2 * level) ' '

/-- A line break and an indentation are blanks. -/
theorem isBlankChar_of_mem_newline (level : Nat) (c : Char) (h : c ∈ newline level) :
    isBlankChar c = true := by
  rcases List.mem_cons.1 h with rfl | h
  · rfl
  · rw [List.eq_of_mem_replicate h]
    rfl

/-- The layout on many lines. -/
def Layout.pretty : Layout :=
  ⟨newline, [' '], isBlankChar_of_mem_newline, fun c h => by rw [List.mem_singleton.1 h]; rfl⟩

mutual

/-- The characters of a tree at some level. Empty arrays and objects have nothing inside. -/
def chars (l : Layout) (level : Nat) : Json → List Char
  | null => "null".toList
  | bool b => if b then "true".toList else "false".toList
  | num s => s.toList
  | str s => quote? s
  | arr [] => ['[', ']']
  | arr (j :: js) =>
    '[' :: (l.gap (level + 1) ++ chars l (level + 1) j ++ charsOfItems l level js)
  | obj [] => ['\x7b', '\x7d']
  | obj ((k, j) :: ms) =>
    '\x7b' :: (l.gap (level + 1) ++ quote? k ++ ':' ::
      (l.afterColon ++ chars l (level + 1) j ++ charsOfMembers l level ms))

/-- The characters of the items after the first, and of the closing bracket. -/
def charsOfItems (l : Layout) (level : Nat) : List Json → List Char
  | [] => l.gap level ++ [']']
  | j :: js =>
    ',' :: (l.gap (level + 1) ++ chars l (level + 1) j ++ charsOfItems l level js)

/-- The characters of the members after the first, and of the closing brace. -/
def charsOfMembers (l : Layout) (level : Nat) : List (Option String × Json) → List Char
  | [] => l.gap level ++ ['\x7d']
  | (k, j) :: ms =>
    ',' :: (l.gap (level + 1) ++ quote? k ++ ':' ::
      (l.afterColon ++ chars l (level + 1) j ++ charsOfMembers l level ms))

end

/-- The written tree. -/
def write (l : Layout) (j : Json) : String := String.ofList (j.chars l 0)

/-- The tree on one line without blanks. -/
def compact (j : Json) : String := j.write .compact

/-- The tree on many lines, two blanks for each level. Empty arrays and objects stay on one
line. -/
def pretty (j : Json) : String := j.write .pretty

end Json

end LexicalFront
