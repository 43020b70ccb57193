set_option autoImplicit false
set_option relaxedAutoImplicit false

/-!
# Reserved words

## Main definitions

* `LexicalFront.Keyword` — the reserved words.
* `LexicalFront.Keyword.spelling` — how each is written.
* `LexicalFront.Keyword.ofSpelling?` — the reserved word with a given spelling.

## Main results

* `LexicalFront.Keyword.mem_all` — the list of reserved words is complete.
* `LexicalFront.Keyword.spelling_injective` — no two reserved words are spelled alike.
* `LexicalFront.Keyword.ofSpelling?_spelling` — a spelling determines its reserved word.
-/

namespace LexicalFront

/-- Reserved words: identifiers with a fixed meaning. -/
inductive Keyword where
  | asWord
  | breakWord
  | caseWord
  | continueWord
  | defaultWord
  | deferWord
  | doWord
  | elseWord
  | enumWord
  | extensionWord
  | falseWord
  | forWord
  | funcWord
  | guardWord
  | ifWord
  | importWord
  | inWord
  | initWord
  | internalWord
  | isWord
  | letWord
  | nilWord
  | privateWord
  | protocolWord
  | publicWord
  | repeatWord
  | returnWord
  | selfValue
  | selfType
  | structWord
  | switchWord
  | throwWord
  | throwsWord
  | trueWord
  | tryWord
  | typeWord
  | varWord
  | whereWord
  | whileWord
  deriving DecidableEq, Repr

namespace Keyword

/-- How the word is written. -/
def spelling : Keyword → String
  | .asWord => "as"
  | .breakWord => "break"
  | .caseWord => "case"
  | .continueWord => "continue"
  | .defaultWord => "default"
  | .deferWord => "defer"
  | .doWord => "do"
  | .elseWord => "else"
  | .enumWord => "enum"
  | .extensionWord => "extension"
  | .falseWord => "false"
  | .forWord => "for"
  | .funcWord => "func"
  | .guardWord => "guard"
  | .ifWord => "if"
  | .importWord => "import"
  | .inWord => "in"
  | .initWord => "init"
  | .internalWord => "internal"
  | .isWord => "is"
  | .letWord => "let"
  | .nilWord => "nil"
  | .privateWord => "private"
  | .protocolWord => "protocol"
  | .publicWord => "public"
  | .repeatWord => "repeat"
  | .returnWord => "return"
  | .selfValue => "self"
  | .selfType => "Self"
  | .structWord => "struct"
  | .switchWord => "switch"
  | .throwWord => "throw"
  | .throwsWord => "throws"
  | .trueWord => "true"
  | .tryWord => "try"
  | .typeWord => "type"
  | .varWord => "var"
  | .whereWord => "where"
  | .whileWord => "while"

/-- The name of the word in inspection texts: its spelling with a capital, but the two words for
the receiver are told apart by name. -/
def label : Keyword → String
  | .asWord => "As"
  | .breakWord => "Break"
  | .caseWord => "Case"
  | .continueWord => "Continue"
  | .defaultWord => "Default"
  | .deferWord => "Defer"
  | .doWord => "Do"
  | .elseWord => "Else"
  | .enumWord => "Enum"
  | .extensionWord => "Extension"
  | .falseWord => "False"
  | .forWord => "For"
  | .funcWord => "Func"
  | .guardWord => "Guard"
  | .ifWord => "If"
  | .importWord => "Import"
  | .inWord => "In"
  | .initWord => "Init"
  | .internalWord => "Internal"
  | .isWord => "Is"
  | .letWord => "Let"
  | .nilWord => "Nil"
  | .privateWord => "Private"
  | .protocolWord => "Protocol"
  | .publicWord => "Public"
  | .repeatWord => "Repeat"
  | .returnWord => "Return"
  | .selfValue => "SelfLower"
  | .selfType => "SelfUpper"
  | .structWord => "Struct"
  | .switchWord => "Switch"
  | .throwWord => "Throw"
  | .throwsWord => "Throws"
  | .trueWord => "True"
  | .tryWord => "Try"
  | .typeWord => "Type"
  | .varWord => "Var"
  | .whereWord => "Where"
  | .whileWord => "While"

/-- All reserved words, in the order of their names. -/
def all : List Keyword := [
    .asWord, .breakWord, .caseWord, .continueWord, .defaultWord, .deferWord, .doWord, .elseWord,
    .enumWord, .extensionWord, .falseWord, .forWord, .funcWord, .guardWord, .ifWord, .importWord,
    .inWord, .initWord, .internalWord, .isWord, .letWord, .nilWord, .privateWord, .protocolWord,
    .publicWord, .repeatWord, .returnWord, .selfValue, .selfType, .structWord, .switchWord,
    .throwWord, .throwsWord, .trueWord, .tryWord, .typeWord, .varWord, .whereWord, .whileWord]

/-- The reserved word that is written exactly so. -/
def ofSpelling? (s : String) : Option Keyword :=
  all.find? fun k => k.spelling == s

/-- Every reserved word is listed. -/
theorem mem_all (k : Keyword) : k ∈ all := by
  cases k <;> decide

/-- The reserved word found for a text is written so. -/
theorem spelling_of_ofSpelling? {s : String} {k : Keyword} (h : ofSpelling? s = some k) :
    k.spelling = s := by
  simpa using List.find?_some h

/-- The spelling of a reserved word determines it. -/
@[simp] theorem ofSpelling?_spelling (k : Keyword) : ofSpelling? k.spelling = some k := by
  cases k <;> decide

/-- Reserved words that are spelled alike are the same. -/
theorem spelling_injective {a b : Keyword} (h : a.spelling = b.spelling) : a = b := by
  simpa using congrArg ofSpelling? h

end Keyword

end LexicalFront
