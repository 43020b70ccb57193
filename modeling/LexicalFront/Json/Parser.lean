import LexicalFront.Json.Basic
set_option autoImplicit false
set_option relaxedAutoImplicit false

/-!
# Reading JSON

A reader for JSON texts over lists of characters. Each part of it reads one piece from the front of
a text and hands on what follows. The text has to be a single value, with nothing but blanks around
it.

## Main definitions

* `LexicalFront.Json.parse?` — the tree of a text, if it is a JSON text.
* `LexicalFront.Json.parseString?` — strings, with their escapes.
* `LexicalFront.Json.parseNumber?` — numbers, kept as they are written.
-/

namespace LexicalFront

namespace Json

/-! ## Blanks and words -/

/-- The text without its leading blanks. -/
def skipBlanks (cs : List Char) : List Char := cs.dropWhile isBlankChar

/-- The text after a given word, if it starts with the word. -/
def stripWord? (word : List Char) (cs : List Char) : Option (List Char) :=
  if word.isPrefixOf cs then some (cs.drop word.length) else none

/-! ## Strings -/

/-- A piece of a string: a character, or a 16-bit unit given by number. -/
inductive StringPiece where
  | char (c : Char)
  | unit (n : Nat)
  deriving DecidableEq, Repr

/-- The value of a hexadecimal digit. -/
def hexValue? (c : Char) : Option Nat :=
  if '0' ≤ c ∧ c ≤ '9' then some (c.toNat - '0'.toNat)
  else if 'a' ≤ c ∧ c ≤ 'f' then some (c.toNat - 'a'.toNat + 10)
  else if 'A' ≤ c ∧ c ≤ 'F' then some (c.toNat - 'A'.toNat + 10)
  else none

/-- The value of four hexadecimal digits. -/
def hexUnit? (a b c d : Char) : Option Nat := do
  let a ← hexValue? a
  let b ← hexValue? b
  let c ← hexValue? c
  let d ← hexValue? d
  return ((a * 16 + b) * 16 + c) * 16 + d

/-- The character that a letter after a backslash stands for. -/
def shortEscape? (c : Char) : Option Char :=
  if c = '"' then some '"'
  else if c = '\\' then some '\\'
  else if c = '/' then some '/'
  else if c = 'b' then some '\x08'
  else if c = 'f' then some '\x0c'
  else if c = 'n' then some '\n'
  else if c = 'r' then some '\r'
  else if c = 't' then some '\t'
  else none

/-- The pieces of a string after its opening quote, and the text after its closing quote. Controls
have to be escaped. -/
def stringPieces? : List Char → Option (List StringPiece × List Char)
  | [] => none
  | '"' :: cs => some ([], cs)
  | '\\' :: 'u' :: a :: b :: c :: d :: cs => do
    let n ← hexUnit? a b c d
    let (pieces, rest) ← stringPieces? cs
    return (.unit n :: pieces, rest)
  | '\\' :: e :: cs => do
    let c ← shortEscape? e
    let (pieces, rest) ← stringPieces? cs
    return (.char c :: pieces, rest)
  | c :: cs =>
    if c.toNat < 0x20 ∨ c = '\\' then none
    else do
      let (pieces, rest) ← stringPieces? cs
      return (.char c :: pieces, rest)

/-- The first halves of surrogate pairs. -/
def isHighSurrogate (n : Nat) : Bool := 0xd800 ≤ n && n < 0xdc00

/-- The second halves of surrogate pairs. -/
def isLowSurrogate (n : Nat) : Bool := 0xdc00 ≤ n && n < 0xe000

/-- The characters of a string. Two halves of a surrogate pair in a row are one character; a half by
itself is none, and then the string has no value. -/
def decodePieces? : List StringPiece → Option (List Char)
  | [] => some []
  | .char c :: ps => (decodePieces? ps).map (c :: ·)
  | .unit n :: ps =>
    if isHighSurrogate n then
      match ps with
      | .unit m :: ps =>
        if isLowSurrogate m then
          (decodePieces? ps).map
            (Char.ofNat (0x10000 + (n - 0xd800) * 0x400 + (m - 0xdc00)) :: ·)
        else none
      | _ => none
    else if isLowSurrogate n then none
    else (decodePieces? ps).map (Char.ofNat n :: ·)

/-- A string after its opening quote, and the text after its closing quote. -/
def parseString? (cs : List Char) : Option (Option String × List Char) :=
  (stringPieces? cs).map fun (pieces, rest) => ((decodePieces? pieces).map String.ofList, rest)

/-! ## Numbers -/

/-- The digits that a text starts with, and the text after them. -/
def takeDigits (cs : List Char) : List Char × List Char := cs.span Char.isDigit

/-- The integer part of a number: a zero, or digits that do not begin with a zero. -/
def parseInteger? (cs : List Char) : Option (List Char × List Char) :=
  match cs with
  | '0' :: rest => some (['0'], rest)
  | _ =>
    match takeDigits cs with
    | ([], _) => none
    | (ds, rest) => some (ds, rest)

/-- The fraction that a text starts with: nothing unless a point comes first, and then digits. -/
def parseFraction? (cs : List Char) : Option (List Char × List Char) :=
  match cs with
  | '.' :: cs =>
    match takeDigits cs with
    | ([], _) => none
    | (ds, rest) => some ('.' :: ds, rest)
  | _ => some ([], cs)

/-- The exponent that a text starts with: nothing unless a letter `e` comes first, and then perhaps
a sign, and digits. -/
def parseExponent? (cs : List Char) : Option (List Char × List Char) :=
  match cs with
  | e :: cs' =>
    if e = 'e' ∨ e = 'E' then
      let (sign, ds) := cs'.span fun c => c == '+' || c == '-'
      if sign.length ≤ 1 then
        match takeDigits ds with
        | ([], _) => none
        | (ds, rest) => some (e :: (sign ++ ds), rest)
      else none
    else some ([], cs)
  | [] => some ([], [])

/-- A number as it is written, and the text after it. -/
def parseNumber? (cs : List Char) : Option (String × List Char) := do
  let (sign, cs) := match cs with
    | '-' :: rest => (['-'], rest)
    | _ => ([], cs)
  let (whole, cs) ← parseInteger? cs
  let (fraction, cs) ← parseFraction? cs
  let (exponent, cs) ← parseExponent? cs
  return (String.ofList (sign ++ whole ++ fraction ++ exponent), cs)

/-! ## Values -/

mutual

/-- A value, perhaps behind blanks, and the text after it. The first argument bounds the number of
nested calls. -/
def parseValue? : Nat → List Char → Option (Json × List Char)
  | 0, _ => none
  | fuel + 1, cs =>
    match skipBlanks cs with
    | '"' :: rest => (parseString? rest).map fun (s, rest) => (.str s, rest)
    | '[' :: rest =>
      match skipBlanks rest with
      | ']' :: rest => some (.arr [], rest)
      | _ => (parseItems? fuel rest).map fun (js, rest) => (.arr js, rest)
    | '\x7b' :: rest =>
      match skipBlanks rest with
      | '\x7d' :: rest => some (.obj [], rest)
      | _ => (parseMembers? fuel rest).map fun (ms, rest) => (.obj ms, rest)
    | 'n' :: rest => (stripWord? ['u', 'l', 'l'] rest).map fun rest => (.null, rest)
    | 't' :: rest => (stripWord? ['r', 'u', 'e'] rest).map fun rest => (.bool true, rest)
    | 'f' :: rest => (stripWord? ['a', 'l', 's', 'e'] rest).map fun rest => (.bool false, rest)
    | cs => (parseNumber? cs).map fun (s, rest) => (.num s, rest)

/-- The items of an array that is not empty, and the text after its closing bracket. -/
def parseItems? : Nat → List Char → Option (List Json × List Char)
  | 0, _ => none
  | fuel + 1, cs => do
    let (j, rest) ← parseValue? fuel cs
    match skipBlanks rest with
    | ',' :: rest => do
      let (js, rest) ← parseItems? fuel rest
      return (j :: js, rest)
    | ']' :: rest => return ([j], rest)
    | _ => none

/-- The members of an object that is not empty, and the text after its closing brace. -/
def parseMembers? : Nat → List Char → Option (List (Option String × Json) × List Char)
  | 0, _ => none
  | fuel + 1, cs =>
    match skipBlanks cs with
    | '"' :: rest => do
      let (k, rest) ← parseString? rest
      match skipBlanks rest with
      | ':' :: rest => do
        let (j, rest) ← parseValue? fuel rest
        match skipBlanks rest with
        | ',' :: rest => do
          let (ms, rest) ← parseMembers? fuel rest
          return ((k, j) :: ms, rest)
        | '\x7d' :: rest => return ([(k, j)], rest)
        | _ => none
      | _ => none
    | _ => none

end

/-- The tree of a JSON text. A value takes at least one character, so nested calls are bounded by
the length of the text. -/
def parse? (s : String) : Option Json :=
  match parseValue? (2 * s.toList.length + 2) s.toList with
  | some (j, rest) => if (skipBlanks rest).isEmpty then some j else none
  | none => none

end Json

end LexicalFront
