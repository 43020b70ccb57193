import LexicalFront.Proofs.Lexeme.First
import LexicalFront.Token.Basic
set_option autoImplicit false
set_option relaxedAutoImplicit false

/-!
# The places of tokens

Tokens are lexemes that know their place. This module says which lexeme is at which place, and how
the tokens of a sequence of lexemes are made up of those of its parts.

## Main results

* `LexicalFront.Token.ofLexemes_append` — the tokens of two sequences of lexemes, one after the
  other.
* `LexicalFront.Token.ofLexemes_shift` — the same lexemes further to the right.
* `LexicalFront.Token.mem_dropLast_ofLexemes` — the tokens before the end marker.
* `LexicalFront.lexemes_eq_append` — scanning can be taken up again at every lexeme.
* `LexicalFront.mem_dropLast_tokenize` — a token of a text is what the scanner finds at its place.
-/

namespace LexicalFront

namespace Token

/-- The token moved to the right by some bytes. -/
def shift (t : Token) (n : Nat) : Token := { t with span := t.span.shift n }

/-- There is at least the end marker. -/
lemma ofLexemes_ne_nil (start : Nat) (ls : List Lexeme) : ofLexemes start ls ≠ [] := by
  cases ls with
  | nil => exact List.cons_ne_nil _ _
  | cons l ls => exact List.cons_ne_nil _ _

/-- The tokens of two sequences of lexemes that follow each other. -/
theorem ofLexemes_append (start : Nat) (ls ms : List Lexeme) :
    ofLexemes start (ls ++ ms) =
      (ofLexemes start ls).dropLast ++
        ofLexemes (start + utf8Length (ls.flatMap Lexeme.chars)) ms := by
  induction ls generalizing start with
  | nil => rfl
  | cons l ls ih =>
    rw [List.cons_append, ofLexemes, ih, ofLexemes, List.dropLast_cons_of_ne_nil
      (ofLexemes_ne_nil _ ls), List.flatMap_cons, utf8Length_append, Nat.add_assoc]
    rfl

/-- The end marker comes last, behind all lexemes. -/
theorem ofLexemes_eq_dropLast_append (start : Nat) (ls : List Lexeme) :
    ofLexemes start ls =
      (ofLexemes start ls).dropLast ++
        [endMarker (start + utf8Length (ls.flatMap Lexeme.chars))] := by
  have h := ofLexemes_append start ls []
  rw [List.append_nil] at h
  exact h

/-- The tokens of the same lexemes further to the right. -/
theorem ofLexemes_shift (start n : Nat) (ls : List Lexeme) :
    ofLexemes (start + n) ls = (ofLexemes start ls).map (shift · n) := by
  induction ls generalizing start with
  | nil => rfl
  | cons l ls ih =>
    have hplace : start + n + utf8Length l.chars = start + utf8Length l.chars + n := by omega
    rw [ofLexemes, ofLexemes, List.map_cons, hplace, ih]
    congr 1
    simp only [ofLexeme, shift, Span.shift, hplace]

/-- A token before the end marker is a lexeme at its place. -/
theorem mem_dropLast_ofLexemes {start : Nat} {ls : List Lexeme} {t : Token}
    (h : t ∈ (ofLexemes start ls).dropLast) :
    ∃ before l after, ls = before ++ l :: after ∧
      t = ofLexeme (start + utf8Length (before.flatMap Lexeme.chars)) l := by
  induction ls generalizing start with
  | nil => exact absurd h List.not_mem_nil
  | cons l ls ih =>
    rw [ofLexemes, List.dropLast_cons_of_ne_nil (ofLexemes_ne_nil _ ls), List.mem_cons] at h
    rcases h with rfl | h
    · exact ⟨[], l, ls, rfl, rfl⟩
    · obtain ⟨before, m, after, rfl, rfl⟩ := ih h
      refine ⟨l :: before, m, after, rfl, ?_⟩
      rw [List.flatMap_cons, utf8Length_append, Nat.add_assoc]

/-- The first token is where the lexemes start. -/
lemma head?_ofLexemes (start : Nat) (ls : List Lexeme) :
    (ofLexemes start ls).head?.map (·.span.start) = some start := by
  cases ls with
  | nil => rfl
  | cons l ls => rfl

end Token

/-- Scanning can be taken up again at every lexeme. -/
theorem lexemes_eq_append {cs : List Char} {before after : List Lexeme}
    (h : lexemes cs = before ++ after) :
    cs = before.flatMap Lexeme.chars ++ after.flatMap Lexeme.chars ∧
      lexemes (after.flatMap Lexeme.chars) = after := by
  induction before generalizing cs with
  | nil =>
    rw [List.nil_append] at h
    rw [← h, flatMap_lexemes]
    exact ⟨rfl, rfl⟩
  | cons l before ih =>
    rcases cs with _ | ⟨c, cs⟩
    · simp at h
    · rw [lexemes_cons, List.cons_append] at h
      obtain ⟨rfl, htail⟩ := List.cons.inj h
      obtain ⟨hcs, hafter⟩ := ih htail
      refine ⟨?_, hafter⟩
      rw [List.flatMap_cons, List.append_assoc, ← hcs, List.cons_append, List.take_append_drop]

/-- What a lexeme says of itself is what the scanner says of the text from there on. -/
theorem lexemes_eq_append_cons {cs : List Char} {before after : List Lexeme} {l : Lexeme}
    (h : lexemes cs = before ++ l :: after) :
    ∃ c rest, cs = before.flatMap Lexeme.chars ++ c :: rest ∧
      c :: rest = l.chars ++ after.flatMap Lexeme.chars ∧
      l = ⟨(firstExtent c rest).tag, c :: rest.take (firstExtent c rest).more⟩ := by
  obtain ⟨hcs, hafter⟩ := lexemes_eq_append h
  rw [List.flatMap_cons] at hcs hafter
  cases hrest : l.chars ++ after.flatMap Lexeme.chars with
  | nil =>
    rw [hrest, lexemes_nil] at hafter
    exact absurd hafter.symm (List.cons_ne_nil l after)
  | cons c rest =>
    rw [hrest] at hcs hafter
    rw [lexemes_cons] at hafter
    exact ⟨c, rest, hcs, rfl, (List.cons.inj hafter).1.symm⟩

/-! ## The tokens of a text -/

/-- The end marker comes last, behind the last byte. -/
theorem tokenize_eq_dropLast_append (text : String) :
    tokenize text = (tokenize text).dropLast ++ [.endMarker text.utf8ByteSize] := by
  have h := Token.ofLexemes_eq_dropLast_append 0 (lexemes text.toList)
  rw [flatMap_lexemes, utf8Length_toList, Nat.zero_add] at h
  exact h

/-- Before the end marker, a token is what the scanner finds at its place. -/
theorem mem_dropLast_tokenize {text : String} {t : Token} (h : t ∈ (tokenize text).dropLast) :
    ∃ before c rest, text.toList = before ++ c :: rest ∧
      t = Token.ofLexeme (utf8Length before)
        ⟨(firstExtent c rest).tag, c :: rest.take (firstExtent c rest).more⟩ := by
  obtain ⟨before, l, after, hls, rfl⟩ := Token.mem_dropLast_ofLexemes h
  obtain ⟨c, rest, hcs, -, rfl⟩ := lexemes_eq_append_cons hls
  refine ⟨_, c, rest, hcs, ?_⟩
  rw [Nat.zero_add]

end LexicalFront
