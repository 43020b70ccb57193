import LexicalFront.Lexeme.Basic
set_option autoImplicit false
set_option relaxedAutoImplicit false

/-!
# The grammar of lexemes

Which pieces of text each tag stands for, said by their form alone and without a scanner. A tag
covers a class of pieces; a lexeme of a text is meant to be the longest piece at its place that lies
in any class.

## Main definitions

* `LexicalFront.Tag.Form` — the class of a tag.
* `LexicalFront.Tag.IsLongest` — a piece at the start of a text in the class of a tag, where no
  longer piece lies in any class.

## Main results

* `LexicalFront.Tag.Form.ne_nil` — no class holds the empty piece.
-/

namespace LexicalFront

/-! ## Numbers -/

/-- A digit of a base or an underscore at every place. -/
def IsDigitRun (r : Radix) (cs : List Char) : Prop := ∀ c ∈ cs, r.isDigitOrUnderscore c = true

/-- A decimal digit, and then digits and underscores. -/
def IsDecimal (cs : List Char) : Prop :=
  ∃ d ds, cs = d :: ds ∧ Radix.decimal.isDigit d = true ∧ IsDigitRun .decimal ds

/-- A point and a decimal number. -/
def IsFraction (cs : List Char) : Prop := ∃ ds, cs = '.' :: ds ∧ IsDecimal ds

/-- A letter `e`, perhaps a sign, and a decimal number. -/
def IsExponent (cs : List Char) : Prop :=
  ∃ e sign ds, cs = e :: (sign ++ ds) ∧ (e = 'e' ∨ e = 'E') ∧
    (sign = [] ∨ sign = ['+'] ∨ sign = ['-']) ∧ IsDecimal ds

/-- A decimal number with a fraction, an exponent, or both in this order. -/
def IsFloat (cs : List Char) : Prop :=
  ∃ whole fraction exponent, cs = whole ++ fraction ++ exponent ∧ IsDecimal whole ∧
    (fraction = [] ∨ IsFraction fraction) ∧ (exponent = [] ∨ IsExponent exponent) ∧
    fraction ++ exponent ≠ []

/-- A zero and the letter of a base, followed by digits of the base and underscores. -/
def IsRadixRun (r : Radix) (ds cs : List Char) : Prop :=
  ∃ m, cs = '0' :: m :: ds ∧ Radix.ofMark? m = some r ∧ IsDigitRun r ds

/-- An integer of a base; all but decimal integers begin with a zero and the letter of the base. -/
def IsInteger (r : Radix) (cs : List Char) : Prop :=
  match r with
  | .decimal => IsDecimal cs
  | r => ∃ ds, IsRadixRun r ds cs ∧ ∃ d ∈ ds, r.isDigit d = true

/-- A zero and the letter of a base, with no digit of the base after them. -/
def IsRadixWithoutDigits (cs : List Char) : Prop :=
  ∃ r ds, IsRadixRun r ds cs ∧ ∀ d ∈ ds, r.isDigit d = false

/-! ## Strings and comments -/

/-- What may stand inside a string: characters other than quotes, backslashes and line breaks, and
any of them after a backslash, line breaks excepted. -/
inductive IsStringBody : List Char → Prop where
  | nil : IsStringBody []
  | plain {c : Char} {cs : List Char} :
    c ≠ '"' → c ≠ '\\' → isBreak c = false → IsStringBody cs → IsStringBody (c :: cs)
  | escaped {c : Char} {cs : List Char} :
    isBreak c = false → IsStringBody cs → IsStringBody ('\\' :: c :: cs)

/-- A string with both its quotes. -/
def IsClosedString (cs : List Char) : Prop :=
  ∃ body, cs = '"' :: (body ++ ['"']) ∧ IsStringBody body

/-- A string without its second quote, perhaps broken off after a backslash. -/
def IsOpenString (cs : List Char) : Prop :=
  ∃ body, IsStringBody body ∧ (cs = '"' :: body ∨ cs = '"' :: (body ++ ['\\']))

/-- Two slashes, and the rest of a line. -/
def IsLineComment (cs : List Char) : Prop :=
  ∃ body, cs = '/' :: '/' :: body ∧ ∀ c ∈ body, isBreak c = false

/-- The opening mark of a block comment, and a text without the closing mark. -/
def IsOpenComment (cs : List Char) : Prop :=
  ∃ body, cs = '/' :: '*' :: body ∧ ¬['*', '/'] <:+: body

/-- A block comment that ends with its first closing mark. -/
def IsClosedComment (cs : List Char) : Prop :=
  ∃ body, cs = '/' :: '*' :: (body ++ ['*', '/']) ∧ ¬['*', '/'] <:+: body ++ ['*']

/-! ## Classes -/

/-- Blanks, or one carriage return. -/
def IsWhitespace (cs : List Char) : Prop :=
  (cs ≠ [] ∧ ∀ c ∈ cs, isBlank c = true) ∨ cs = ['\r']

/-- A line feed, perhaps after a carriage return. -/
def IsNewline (cs : List Char) : Prop := cs = ['\n'] ∨ cs = ['\r', '\n']

/-- A word: it begins and goes on as identifiers do. -/
def IsWord (cs : List Char) : Prop :=
  ∃ c rest, cs = c :: rest ∧ isIdentifierStart c = true ∧ ∀ d ∈ rest, isIdentifierPart d = true

namespace Tag

/-- The pieces of text that a tag stands for. A character that begins nothing has no class of its
own, nor has the end of the text. -/
def Form : Tag → List Char → Prop
  | identifier => IsWord
  | integer r => IsInteger r
  | float => IsFloat
  | string => IsClosedString
  | operator o => fun cs => cs = o.spelling.toList
  | whitespace => IsWhitespace
  | newline => IsNewline
  | lineComment => IsLineComment
  | blockComment => IsClosedComment
  | unterminatedString => IsOpenString
  | unterminatedBlockComment => IsOpenComment
  | missingRadixDigits => IsRadixWithoutDigits
  | invalidChar | endOfInput => fun _ => False

/-- A piece at the start of a text is in the class of a tag, and no longer piece at the start of the
text is in the class of any tag. -/
structure IsLongest (t : Tag) (piece text : List Char) : Prop where
  /-- The piece stands at the start. -/
  isPrefix : piece <+: text
  /-- The piece is in the class. -/
  form : t.Form piece
  /-- No longer one is in a class. -/
  longest : ∀ u other, other <+: text → Form u other → other.length ≤ piece.length

/-- No class holds the empty piece. -/
theorem Form.ne_nil {t : Tag} {cs : List Char} (h : t.Form cs) : cs ≠ [] := by
  rintro rfl
  cases t with
  | identifier => obtain ⟨_, _, h, _⟩ := h; simp at h
  | integer r =>
    cases r with
    | decimal => obtain ⟨_, _, h, _⟩ := h; simp at h
    | _ => obtain ⟨_, ⟨_, h, _⟩, _⟩ := h; simp at h
  | float =>
    obtain ⟨_, _, _, h, ⟨_, _, rfl, _⟩, _⟩ := h
    simp at h
  | string => obtain ⟨_, h, _⟩ := h; simp at h
  | operator o => cases o <;> simp [Form, Operator.spelling] at h
  | whitespace => simp [Form, IsWhitespace] at h
  | newline => simp [Form, IsNewline] at h
  | lineComment => obtain ⟨_, h, _⟩ := h; simp at h
  | blockComment => obtain ⟨_, h, _⟩ := h; simp at h
  | unterminatedString => obtain ⟨_, _, h | h⟩ := h <;> simp at h
  | unterminatedBlockComment => obtain ⟨_, h, _⟩ := h; simp at h
  | missingRadixDigits => obtain ⟨_, _, ⟨_, h, _⟩, _⟩ := h; simp at h
  | invalidChar => exact h
  | endOfInput => exact h

end Tag

end LexicalFront
