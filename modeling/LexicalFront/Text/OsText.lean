import LexicalFront.Text.Quoted
import LexicalFront.Text.Utf8
set_option autoImplicit false
set_option relaxedAutoImplicit false

/-!
# Texts of the operating system

The operating system takes any bytes for the name of a file. Mostly they are the UTF-8 form of a
text, but nothing sees to it. Where such a name is shown, the bytes in it that belong to no
character are replaced or escaped.

## Main definitions

* `LexicalFront.OsText` — any bytes; `OsText.ofText` are those of a text.
* `LexicalFront.OsText.text?` — the text, if the bytes are those of one.
* `LexicalFront.OsText.pieces` — the characters, and what there is between them.
* `LexicalFront.OsText.shown`, `LexicalFront.OsText.inspect` — the forms for readers.
-/

namespace LexicalFront

/-- A text of the operating system, which may be any bytes. -/
structure OsText where
  /-- The bytes. -/
  bytes : List UInt8
  deriving DecidableEq, Repr

namespace OsText

/-- The bytes of a text. -/
def ofText (s : String) : OsText := ⟨utf8Bytes s.toList⟩

instance : Coe String OsText := ⟨ofText⟩

/-- The text whose bytes these are, if there is one. -/
def text? (t : OsText) : Option String := String.fromUTF8? t.bytes.toByteArray

/-- Whether the bytes are those of a text. -/
def isText (t : OsText) : Bool := t.text?.isSome

/-! ## Pieces -/

/-- A character, or bytes that belong to no character. -/
inductive Piece where
  | char (c : Char)
  | broken (bytes : List UInt8)

/-- The number of bytes of a piece. -/
def Piece.length : Piece → Nat
  | char c => c.utf8Size
  | broken bytes => bytes.length

/-- The least and the greatest value of each byte that has to follow the first byte of a character.
Where no character begins with the byte, none has to follow. -/
def followers (first : UInt8) : List (UInt8 × UInt8) :=
  let tail := (0x80, 0xbf)
  if first < 0xc2 then []
  else if first < 0xe0 then [tail]
  else if first = 0xe0 then [(0xa0, 0xbf), tail]
  else if first = 0xed then [(0x80, 0x9f), tail]
  else if first < 0xf0 then [tail, tail]
  else if first = 0xf0 then [(0x90, 0xbf), tail, tail]
  else if first < 0xf4 then [tail, tail, tail]
  else if first = 0xf4 then [(0x80, 0x8f), tail, tail]
  else []

/-- The bytes at the start that are within bounds, one after the other. -/
def takeWithin : List (UInt8 × UInt8) → List UInt8 → List UInt8
  | (low, high) :: bounds, b :: bytes =>
    if low ≤ b ∧ b ≤ high then b :: takeWithin bounds bytes else []
  | _, _ => []

/-- The piece at the start of some bytes: a character if there is one, and else the bytes that could
have been the start of one. No character has more than four bytes. -/
def firstPiece (b : UInt8) (bytes : List UInt8) : Piece :=
  match ByteArray.utf8DecodeChar? ((b :: bytes).take 4).toByteArray 0 with
  | some c => .char c
  | none => .broken (b :: takeWithin (followers b) bytes)

/-- The pieces after some more bytes of the piece before. -/
def piecesAfter : Nat → List UInt8 → List Piece
  | _, [] => []
  | n + 1, _ :: bytes => piecesAfter n bytes
  | 0, b :: bytes => firstPiece b bytes :: piecesAfter ((firstPiece b bytes).length - 1) bytes

/-- The characters, and the bytes between them that belong to none. -/
def pieces (t : OsText) : List Piece := piecesAfter 0 t.bytes

/-! ## Forms for readers -/

/-- How a piece is shown: bytes that belong to no character by the replacement character. -/
def Piece.shown : Piece → Char
  | char c => c
  | broken _ => '\ufffd'

/-- The text, as far as there is one. -/
def shown (t : OsText) : String := String.ofList (t.pieces.map Piece.shown)

/-- The escape for a byte: two hexadecimal digits. -/
def escapeByte (b : UInt8) : List Char :=
  ['\\', 'x', (Nat.digitChar (b.toNat / 16)).toUpper, (Nat.digitChar (b.toNat % 16)).toUpper]

/-- How a piece is written between quotes. -/
def Piece.escape : Piece → List Char
  | char c => escapeChar c
  | broken bytes => bytes.flatMap escapeByte

/-- The text between double quotes in inspection texts. -/
def inspect (t : OsText) : String :=
  String.ofList ('"' :: (t.pieces.flatMap Piece.escape ++ ['"']))

end OsText

end LexicalFront
