import LexicalFront.Proofs.Token.Places
import Mathlib.Data.List.Chain
set_option autoImplicit false
set_option relaxedAutoImplicit false

/-!
# Tokens and the ones behind them

What can stand directly behind a token depends on the token and on the text behind it. This module
brings a statement about all tokens of a text and their neighbours down to one about two scans: that
of the first lexeme of a text, and that of the first lexeme of what this one leaves.

## Main definitions

* `LexicalFront.Kind.tag` — the rule that a token of some kind follows.
* `LexicalFront.Token.first` — the first token of a text that is left.

## Main results

* `LexicalFront.isChain_tokenize` — a relation between each token and the one directly behind it.
* `LexicalFront.mem_tokenize_cases` — a token is that of a lexeme, or the end marker.
-/

namespace LexicalFront

/-! ## Kinds and rules -/

/-- The rule that a token of some kind follows. -/
def Kind.tag : Kind → Tag
  | keyword _ | identifier => .identifier
  | operator o => .operator o
  | literal (.integer r) => .integer r
  | literal .float => .float
  | literal .string => .string
  | trivia .whitespace => .whitespace
  | trivia .newline => .newline
  | trivia .lineComment => .lineComment
  | trivia .blockComment => .blockComment
  | malformed .unexpectedCharacter => .invalidChar
  | malformed .unterminatedString => .unterminatedString
  | malformed .unterminatedBlockComment => .unterminatedBlockComment
  | malformed .missingRadixDigits => .missingRadixDigits
  | endOfUnit => .endOfInput

/-- The kind tells which rule was followed. -/
@[simp] lemma Kind.tag_ofTag (t : Tag) (text : String) : (Kind.ofTag t text).tag = t := by
  cases t with
  | identifier =>
    rw [ofTag]
    cases Keyword.ofSpelling? text with
    | none => rfl
    | some k => rfl
  | _ => rfl

/-! ## The first token of what is left -/

namespace Token

/-- The characters of the token of a lexeme are those of the lexeme. -/
@[simp] lemma toList_ofLexeme_text (place : Nat) (l : Lexeme) :
    (ofLexeme place l).text.toList = l.chars :=
  String.toList_ofList

/-- The first token of a text that starts at some offset. -/
def first (start : Nat) : List Char → Token
  | [] => endMarker start
  | c :: cs => ofLexeme start ⟨(firstExtent c cs).tag, c :: cs.take (firstExtent c cs).more⟩

/-- It comes first. -/
lemma head?_ofLexemes_lexemes (start : Nat) (cs : List Char) :
    (ofLexemes start (lexemes cs)).head? = some (first start cs) := by
  cases cs with
  | nil => rw [lexemes_nil]; rfl
  | cons c cs => rw [lexemes_cons]; rfl

/-- The rule of the first token. -/
@[simp] lemma first_kind_tag (start : Nat) (c : Char) (cs : List Char) :
    (first start (c :: cs)).kind.tag = (firstExtent c cs).tag :=
  Kind.tag_ofTag _ _

/-- The characters of the first token. -/
@[simp] lemma toList_first_text (start : Nat) (c : Char) (cs : List Char) :
    (first start (c :: cs)).text.toList = c :: cs.take (firstExtent c cs).more :=
  toList_ofLexeme_text _ _

end Token

/-- A relation holds between every token and the one directly behind it if, wherever the text is
taken up, it holds between the first token and the first token of what that one leaves. -/
theorem isChain_tokenize {text : String} {R : Token → Token → Prop}
    (h : ∀ start stop c rest, c :: rest <:+ text.toList →
      R (Token.first start (c :: rest)) (Token.first stop (rest.drop (firstExtent c rest).more))) :
    (tokenize text).IsChain R := by
  have hlexemes (cs : List Char) (hcs : cs <:+ text.toList) (start : Nat) :
      (Token.ofLexemes start (lexemes cs)).IsChain R := by
    fun_induction lexemes cs generalizing start with
    | case1 => exact .singleton _
    | case2 c cs extent ih =>
      have hrest : cs.drop extent.more <:+ c :: cs :=
        (List.drop_suffix _ _).trans (List.suffix_cons c cs)
      rw [Token.ofLexemes]
      refine List.isChain_cons.2 ⟨fun t ht => ?_, ih (hrest.trans hcs) _⟩
      rw [Token.head?_ofLexemes_lexemes] at ht
      rw [← Option.some.inj ht]
      exact h start _ c cs hcs
  exact hlexemes text.toList (List.suffix_refl _) 0

/-- A token is that of a lexeme, or the end marker. -/
theorem mem_tokenize_cases {text : String} {t : Token} (h : t ∈ tokenize text) :
    (∃ l ∈ lexemes text.toList, ∃ place, t = Token.ofLexeme place l) ∨
      t = .endMarker text.utf8ByteSize := by
  rw [tokenize_eq_dropLast_append, List.mem_append, List.mem_singleton] at h
  rcases h with h | h
  · obtain ⟨before, l, after, hls, ht⟩ := Token.mem_dropLast_ofLexemes h
    refine .inl ⟨l, ?_, _, ht⟩
    rw [hls]
    exact List.mem_append_right _ List.mem_cons_self
  · exact .inr h

end LexicalFront
