import LexicalFront.Text.CharClass
set_option autoImplicit false
set_option relaxedAutoImplicit false

/-!
# Quoted text

The form in which texts are shown inside reports: between double quotes, on one line, with every
character that cannot be seen by itself written as an escape. A backslash begins every escape and
nothing else, so the form can be read back.

## Main definitions

* `LexicalFront.escapeChar` — how one character is written.
* `LexicalFront.quoted` — how a text is written.
-/

namespace LexicalFront

/-- The escape by number: the code point in hexadecimal digits between braces. -/
def escapeByNumber (c : Char) : List Char :=
  '\\' :: 'u' :: '\x7b' :: (Nat.toDigits 16 c.toNat ++ ['\x7d'])

/-- How a character is written between double quotes. Zero, tab, the two line breaks, the quote
and the backslash have escapes of their own; characters that combine with the one before them or
have no visible form are written by number; all others stand for themselves. -/
def escapeChar (c : Char) : List Char :=
  if c = '\x00' then ['\\', '0']
  else if c = '\t' then ['\\', 't']
  else if c = '\r' then ['\\', 'r']
  else if c = '\n' then ['\\', 'n']
  else if c = '"' then ['\\', '"']
  else if c = '\\' then ['\\', '\\']
  else if isCombining c || !isPrintable c then escapeByNumber c
  else [c]

/-- The text between double quotes. -/
def quoted (s : String) : String :=
  String.ofList ('"' :: (s.toList.flatMap escapeChar ++ ['"']))

end LexicalFront
