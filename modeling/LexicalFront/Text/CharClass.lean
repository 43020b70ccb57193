import LexicalFront.Text.Alphabetic
import LexicalFront.Text.DefaultIgnorable
import LexicalFront.Text.GraphemeExtend
import LexicalFront.Text.Numeric
import LexicalFront.Text.Unprintable
set_option autoImplicit false
set_option relaxedAutoImplicit false

/-!
# Classes of characters

The properties of single characters that the rules on words and on quoting ask for.

## Main definitions

* `LexicalFront.isAlphabetic`, `LexicalFront.isAlphanumeric` — what a word may be made of.
* `LexicalFront.isCombining`, `LexicalFront.isPrintable` — what may stand unescaped in quotes.
-/

namespace LexicalFront

/-- Characters with the property Alphabetic. -/
def isAlphabetic (c : Char) : Bool :=
  CodeSet.alphabetic.contains c.toNat

/-- Alphabetic characters and the characters of the categories of numbers. -/
def isAlphanumeric (c : Char) : Bool :=
  isAlphabetic c || CodeSet.numeric.contains c.toNat

/-- The halfwidth marks of voiced sounds: letters that extend the character before them in
counting, but are drawn by themselves. -/
def isSoundMark (c : Char) : Bool :=
  c == '\uff9e' || c == '\uff9f'

/-- Characters that are drawn together with the one before them. -/
def isCombining (c : Char) : Bool :=
  CodeSet.graphemeExtend.contains c.toNat && !isSoundMark c

/-- Characters with a visible form, and the ASCII space. Letters that only fill a place, as in Hangul
syllables, have no visible form either. -/
def isPrintable (c : Char) : Bool :=
  c == ' ' ||
    !(CodeSet.unprintable.contains c.toNat || CodeSet.defaultIgnorable.contains c.toNat)

end LexicalFront
