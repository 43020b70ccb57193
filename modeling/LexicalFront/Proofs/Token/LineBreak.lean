import LexicalFront.Proofs.Token.Places
set_option autoImplicit false
set_option relaxedAutoImplicit false

/-!
# Tokens after a line feed

No lexeme but an open block comment reaches over a line feed, and none but a carriage return looks
at one. So the tokens of a text after a line feed are those that the text would have by itself,
whatever stands before the line feed, malformed lexemes included.

## Main results

* `LexicalFront.lexemes_append_lineFeed` — the lexemes of two texts with a line feed between them.
* `LexicalFront.tokenize_append_lineFeed` — their tokens.
-/

namespace LexicalFront

/-- What is left of a text ends as the text does, unless nothing is left. -/
lemma getLast?_drop_ne {c d : Char} {cs : List Char} (h : (c :: cs).getLast? ≠ some d) (n : Nat) :
    (cs.drop n).getLast? ≠ some d := by
  rw [List.getLast?_drop]
  split
  · exact nofun
  · next hlt =>
    have hne : cs ≠ [] := by
      rintro rfl
      exact hlt (Nat.zero_le n)
    rw [List.getLast?_cons_of_ne_nil hne] at h
    exact h

/-- The line feed between two texts is a lexeme, and the lexemes on both sides are those of the
texts.

**Proof sketch.** Induction on the lexemes of the first text. Each of them stays as it is when a
line feed and more text are appended, and ends within the first text. A carriage return is another
matter only where it is the last character. -/
theorem lexemes_append_lineFeed {cs : List Char} (hlast : cs.getLast? ≠ some '\r')
    (hopen : ∀ l ∈ lexemes cs, l.tag ≠ .unterminatedBlockComment) (ds : List Char) :
    lexemes (cs ++ '\n' :: ds) = lexemes cs ++ ⟨.newline, ['\n']⟩ :: lexemes ds := by
  fun_induction lexemes cs with
  | case1 =>
    rw [List.nil_append, lexemes_cons, firstExtent_lineFeed]
    rfl
  | case2 c cs extent ih =>
    have hextent : firstExtent c (cs ++ '\n' :: ds) = extent := by
      refine firstExtent_append_lineFeed ?_ (hopen _ List.mem_cons_self) ds
      rintro rfl rfl
      exact hlast rfl
    have hmore : extent.more ≤ cs.length := by
      obtain ⟨piece, rest, hcs, hlen, -⟩ := firstExtent_cut c cs
      rw [hlen, hcs, List.length_append]
      exact Nat.le_add_right _ _
    rw [List.cons_append, lexemes_cons, hextent, List.take_append_of_le_length hmore,
      List.drop_append_of_le_length hmore, ih (getLast?_drop_ne hlast _)
        (fun l hl => hopen l (List.mem_cons_of_mem _ hl)), List.cons_append]

/-- Every lexeme is a token somewhere. -/
lemma exists_ofLexeme_mem {l : Lexeme} {ls : List Lexeme} (h : l ∈ ls) (start : Nat) :
    ∃ place, Token.ofLexeme place l ∈ Token.ofLexemes start ls := by
  induction ls generalizing start with
  | nil => exact absurd h List.not_mem_nil
  | cons m ls ih =>
    rw [Token.ofLexemes]
    rcases List.mem_cons.1 h with rfl | h
    · exact ⟨start, List.mem_cons_self⟩
    · obtain ⟨place, hplace⟩ := ih h (start + utf8Length m.chars)
      exact ⟨place, List.mem_cons_of_mem _ hplace⟩

/-- The tokens of two texts with a line feed between them are those of the first one, the line feed,
and those of the second one moved behind it, provided that the first one does not end with a
carriage return and that no block comment is left open in it. -/
theorem tokenize_append_lineFeed {a : String} (hlast : a.toList.getLast? ≠ some '\r')
    (hopen : ∀ t ∈ tokenize a, t.kind ≠ .malformed .unterminatedBlockComment) (b : String) :
    tokenize (a ++ "\n" ++ b) = (tokenize a).dropLast ++
      ⟨.trivia .newline, "\n", ⟨a.utf8ByteSize, a.utf8ByteSize + 1⟩⟩ ::
        (tokenize b).map (Token.shift · (a.utf8ByteSize + 1)) := by
  have hclosed : ∀ l ∈ lexemes a.toList, l.tag ≠ .unterminatedBlockComment := by
    intro l hl htag
    obtain ⟨place, hplace⟩ := exists_ofLexeme_mem hl 0
    refine hopen _ hplace ?_
    rw [Token.ofLexeme, htag]
    rfl
  have htext : (a ++ "\n" ++ b).toList = a.toList ++ '\n' :: b.toList := by
    rw [String.toList_append, String.toList_append, List.append_assoc]
    rfl
  have hplace : 0 + utf8Length a.toList = a.utf8ByteSize := by
    rw [utf8Length_toList, Nat.zero_add]
  rw [tokenize, htext, lexemes_append_lineFeed hlast hclosed, Token.ofLexemes_append,
    flatMap_lexemes, hplace, Token.ofLexemes]
  have hlineFeed : Token.ofLexeme a.utf8ByteSize ⟨.newline, ['\n']⟩ =
      ⟨.trivia .newline, "\n", ⟨a.utf8ByteSize, a.utf8ByteSize + 1⟩⟩ := rfl
  rw [hlineFeed]
  congr 2
  rw [tokenize, ← Token.ofLexemes_shift, Nat.zero_add]
  rfl

/-- A string that is broken off by the line feed does not matter to the text behind it. -/
theorem tokenize_append_lineFeed_openString :
    tokenize ("\"a" ++ "\n" ++ "b") = (tokenize "\"a").dropLast ++
      ⟨.trivia .newline, "\n", ⟨2, 3⟩⟩ :: (tokenize "b").map (Token.shift · 3) :=
  tokenize_append_lineFeed (by decide) (by decide +kernel) "b"

end LexicalFront
