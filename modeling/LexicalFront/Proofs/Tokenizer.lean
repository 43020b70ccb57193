import LexicalFront.Proofs.Token.Tiling
set_option autoImplicit false
set_option relaxedAutoImplicit false

/-!
# Tokens handed out one at a time

A tokenizer that has been asked for some tokens stands between two characters of its text, and the
tokens to come are those that were not handed out yet. Each of them but the end marker takes a byte
at least, so that their number can be bounded from where the tokenizer stands. Behind the end marker
nothing comes any more, however often it is asked for.

## Main definitions

* `Tokenizer.afterNexts` — a tokenizer that has been asked for some tokens.
* `Tokenizer.ToCome` — where a tokenizer stands in its text, and the tokens still to come.

## Main results

* `Tokenizer.ToCome.next`, `Tokenizer.ToCome.afterNexts` — what one token, and any number of them,
  leaves to come.
* `Tokenizer.tokens_to_come` — what a tokenizer promises after any number of tokens.
-/

namespace LexicalFront

/-! ## How many lexemes there can be -/

/-- There is a token for each lexeme, and the end marker. -/
@[simp] lemma Token.length_ofLexemes (start : Nat) (ls : List Lexeme) :
    (ofLexemes start ls).length = ls.length + 1 := by
  induction ls generalizing start with
  | nil => rfl
  | cons l ls ih => rw [ofLexemes, List.length_cons, ih, List.length_cons]

/-- Each lexeme takes a byte at least. -/
lemma length_lexemes_le (cs : List Char) : (lexemes cs).length ≤ utf8Length cs := by
  fun_induction lexemes cs with
  | case1 => exact Nat.le_refl 0
  | case2 c cs extent ih =>
    have hcut := congrArg utf8Length (List.take_append_drop extent.more cs)
    have hsize := c.utf8Size_pos
    rw [utf8Length_append] at hcut
    rw [List.length_cons, utf8Length_cons]
    omega

namespace Tokenizer

variable {text : String} {t : Tokenizer} {tokens : List Token}

/-! ## The tokens still to come -/

/-- The tokenizer after some tokens have been asked for. -/
def afterNexts (t : Tokenizer) : Nat → Tokenizer
  | 0 => t
  | k + 1 => t.next.2.afterNexts k

/-- A tokenizer stands between two characters of its text, and the tokens of the lexemes behind them
are still to come; or it is finished and stands at the end. -/
inductive ToCome (text : String) : Tokenizer → List Token → Prop where
  | going (before rest : List Char) (htext : text = String.ofList (before ++ rest)) :
    ToCome text ⟨⟨text, utf8Length before⟩, false⟩
      (Token.ofLexemes (utf8Length before) (lexemes rest))
  | finished : ToCome text ⟨⟨text, text.utf8ByteSize⟩, true⟩ []

/-- At first all tokens are to come. -/
lemma toCome_start (text : String) : ToCome text (start text) (tokenize text) :=
  .going [] text.toList String.ofList_toList.symm

/-- The next token is the first one to come, and it leaves the others. -/
theorem ToCome.next (h : ToCome text t tokens) :
    t.next.1 = tokens.head? ∧ ToCome text t.next.2 tokens.tail := by
  cases h with
  | finished => exact ⟨rfl, .finished⟩
  | going before rest htext =>
    subst htext
    cases rest with
    | nil =>
      have hsize : (String.ofList before).utf8ByteSize = utf8Length before := by
        rw [← utf8Length_toList, String.toList_ofList]
      rw [List.append_nil, next_of_end, lexemes_nil]
      refine ⟨rfl, ?_⟩
      rw [← hsize]
      exact .finished
    | cons c rest =>
      rw [next_of_boundary, lexemes_cons]
      refine ⟨rfl, ?_⟩
      rw [Token.ofLexemes, List.tail_cons, ← utf8Length_append]
      refine .going _ _ ?_
      rw [List.append_assoc, List.cons_append, List.take_append_drop]

/-- Some tokens leave the others to come. -/
theorem ToCome.afterNexts (h : ToCome text t tokens) (k : Nat) :
    ToCome text (t.afterNexts k) (tokens.drop k) := by
  induction k generalizing t tokens with
  | zero => exact h
  | succ k ih =>
    rw [← List.drop_tail]
    exact ih h.next.2

/-- The token that is handed out after some others. -/
lemma ToCome.next_afterNexts (h : ToCome text t tokens) (k : Nat) :
    (t.afterNexts k).next.1 = tokens[k]? := by
  rw [(h.afterNexts k).next.1, List.head?_drop]

/-- The tokens to come are those that are handed out until there are no more. -/
lemma ToCome.yields (h : ToCome text t tokens) : t.Yields tokens := by
  cases h with
  | finished => exact .none rfl
  | going before rest htext =>
    subst htext
    exact yields_ofLexemes before rest

/-- A tokenizer stays in its text. -/
lemma ToCome.pos_le (h : ToCome text t tokens) :
    t.cursor.source = text ∧ t.cursor.pos ≤ text.utf8ByteSize := by
  cases h with
  | finished => exact ⟨rfl, le_rfl⟩
  | going before rest htext =>
    refine ⟨rfl, ?_⟩
    rw [htext, ← utf8Length_toList, String.toList_ofList, utf8Length_append]
    exact Nat.le_add_right _ _

/-- There are no less tokens to come than the lower bound says, and no more than the upper one. -/
lemma ToCome.sizeHint (h : ToCome text t tokens) :
    t.sizeHint.1 ≤ tokens.length ∧ tokens.length ≤ t.sizeHint.2 := by
  cases h with
  | finished => exact ⟨le_rfl, le_rfl⟩
  | going before rest htext =>
    have hleft : text.utf8ByteSize - utf8Length before = utf8Length rest := by
      rw [htext, ← utf8Length_toList, String.toList_ofList, utf8Length_append]
      omega
    have hcount := length_lexemes_le rest
    rw [Token.length_ofLexemes]
    refine ⟨Nat.le_add_left _ _, ?_⟩
    show _ ≤ text.utf8ByteSize - utf8Length before + 1
    omega

/-! ## After any number of tokens -/

/-- No token comes after some others exactly if the end marker is among these. -/
lemma getElem?_tokenize_eq_none_iff (text : String) (k : Nat) :
    (tokenize text)[k]? = none ↔
      ∃ j < k, ∃ token, (tokenize text)[j]? = some token ∧ token.isEnd = true := by
  obtain ⟨front, hfront, hend⟩ := (tiling_tokenize text).ending
  rw [hfront, List.getElem?_eq_none_iff, List.length_append, List.length_singleton]
  constructor
  · intro hle
    exact ⟨front.length, hle, _, List.getElem?_concat_length, rfl⟩
  · rintro ⟨j, hj, token, htoken, hisEnd⟩
    by_contra hlt
    have hmem : token ∈ front := by
      rw [List.getElem?_append_left (by omega)] at htoken
      exact List.mem_of_getElem? htoken
    rw [(hend token hmem).1] at hisEnd
    exact absurd hisEnd nofun

/-- However many tokens a tokenizer has been asked for, those that it has not handed out yet are
still to come, their number is within the bounds that it tells, and nothing comes any more exactly
if it has handed out the end marker.

**Proof sketch.** After `k` calls the tokenizer is at the place of the first token of `drop k`, or
behind all (`ToCome.afterNexts`, by induction on `k`). All parts are read off this: a token has a
byte at least, so that the bytes that are left bound the number of tokens, and behind the end marker
the list is over. -/
theorem tokens_to_come (text : String) (k : Nat) :
    -- (1) it has not left the text, so that the bytes to come can be counted
    ((start text).afterNexts k).cursor.source = text ∧
    ((start text).afterNexts k).cursor.pos ≤ text.utf8ByteSize ∧
    -- (2) from here on, now and in every copy, the tokens from the one of this number on
    ((start text).afterNexts k).Yields ((tokenize text).drop k) ∧
    (∀ j, (((start text).afterNexts k).afterNexts j).next.1 = (tokenize text)[k + j]?) ∧
    -- (3) their number is within the bounds
    ((start text).afterNexts k).sizeHint.1 ≤ ((tokenize text).drop k).length ∧
    ((tokenize text).drop k).length ≤ ((start text).afterNexts k).sizeHint.2 ∧
    -- (4) nothing comes behind the end marker, and something does in front of it
    (((start text).afterNexts k).next.1 = none ↔
      ∃ j < k, ∃ token, ((start text).afterNexts j).next.1 = some token ∧ token.isEnd = true) ∧
    -- (5) it stays so
    (((start text).afterNexts k).next.1 = none →
      ∀ j, (((start text).afterNexts k).afterNexts j).next.1 = none) := by
  have hstart := toCome_start text
  have h := hstart.afterNexts k
  have hcopy (j : Nat) :
      (((start text).afterNexts k).afterNexts j).next.1 = (tokenize text)[k + j]? := by
    rw [h.next_afterNexts, List.getElem?_drop]
  refine ⟨h.pos_le.1, h.pos_le.2, h.yields, hcopy, h.sizeHint.1, h.sizeHint.2, ?_, ?_⟩
  · simp only [hstart.next_afterNexts]
    exact getElem?_tokenize_eq_none_iff text k
  · intro hnone j
    rw [hstart.next_afterNexts, List.getElem?_eq_none_iff] at hnone
    rw [hcopy, List.getElem?_eq_none_iff]
    omega

end Tokenizer

end LexicalFront
