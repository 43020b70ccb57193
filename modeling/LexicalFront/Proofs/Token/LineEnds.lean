import LexicalFront.Proofs.Lexeme.Chars
import LexicalFront.Proofs.Token.Neighbours
set_option autoImplicit false
set_option relaxedAutoImplicit false

/-!
# What ends a line

A line comment, and a string that is broken off, go on until the end of their line. They stop before
any carriage return, whereas a carriage return is a line break only where a line feed follows it: so
behind a lone one the text of the same line goes on as code. Nothing else but a line break or the
end of the text can stand behind such a token, and where every carriage return has its line feed the
lines of all rules are the same.

## Main definitions

* `LexicalFront.Token.runsToLineEnd` — line comments, and strings that are broken off.
* `LexicalFront.Token.EndsLine` — the token behind such a token is a line break or the end marker.

## Main results

* `LexicalFront.isBreak_of_mem_head?_drop` — only a character that breaks lines can stand behind
  such a token.
* `LexicalFront.isChain_lineEnds` — what stands directly behind it.
* `LexicalFront.not_isChain_endsLine_loneReturn` — code behind a line comment on its line.
-/

namespace LexicalFront

/-! ## Pieces that go on -/

/-- Two insides of strings make one. -/
lemma IsStringBody.append {as bs : List Char} (ha : IsStringBody as) (hb : IsStringBody bs) :
    IsStringBody (as ++ bs) := by
  induction ha with
  | nil => exact hb
  | plain hquote hslash hbreak _ ih => exact .plain hquote hslash hbreak ih
  | escaped hbreak _ ih => exact .escaped hbreak ih

/-- An open string goes on with any character that breaks no line. -/
lemma IsOpenString.exists_form_concat {cs : List Char} (h : IsOpenString cs) {x : Char}
    (hx : isBreak x = false) : ∃ t : Tag, t.Form (cs ++ [x]) := by
  obtain ⟨body, hbody, rfl | rfl⟩ := h
  · by_cases hquote : x = '"'
    · exact ⟨.string, body, by rw [hquote]; rfl, hbody⟩
    by_cases hslash : x = '\\'
    · exact ⟨.unterminatedString, body, hbody, .inr (by rw [hslash]; rfl)⟩
    · exact ⟨.unterminatedString, _, hbody.append (.plain hquote hslash hx .nil), .inl rfl⟩
  · refine ⟨.unterminatedString, _, hbody.append (.escaped hx .nil), .inl ?_⟩
    rw [List.cons_append, List.append_assoc]
    rfl

/-- So does a line comment. -/
lemma IsLineComment.exists_form_concat {cs : List Char} (h : IsLineComment cs) {x : Char}
    (hx : isBreak x = false) : ∃ t : Tag, t.Form (cs ++ [x]) := by
  obtain ⟨body, rfl, hbody⟩ := h
  refine ⟨.lineComment, body ++ [x], rfl, List.forall_mem_append.2 ⟨hbody, ?_⟩⟩
  simpa using hx

/-- Behind a line comment, and behind a string that is broken off, stands a character that breaks
lines, or nothing: with any other character there would be a longer piece. -/
theorem isBreak_of_mem_head?_drop {c : Char} {cs : List Char}
    (h : (firstExtent c cs).tag = .lineComment ∨ (firstExtent c cs).tag = .unterminatedString)
    {x : Char} (hx : x ∈ (cs.drop (firstExtent c cs).more).head?) : isBreak x = true := by
  have hvalid : (firstExtent c cs).tag ≠ .invalidChar := by
    rcases h with h | h <;> rw [h] <;> exact nofun
  have hlongest := firstExtent_isLongest hvalid
  by_contra hbreak
  rw [Bool.not_eq_true] at hbreak
  obtain ⟨t, ht⟩ :
      ∃ t : Tag, t.Form (c :: cs.take (firstExtent c cs).more ++ [x]) := by
    have hform := hlongest.form
    rcases h with h | h <;> rw [h] at hform
    · exact IsLineComment.exists_form_concat hform hbreak
    · exact IsOpenString.exists_form_concat hform hbreak
  obtain ⟨rest, hrest⟩ := List.head?_eq_some_iff.1 hx
  have hfits : c :: cs.take (firstExtent c cs).more ++ [x] <+: c :: cs := by
    refine ⟨rest, ?_⟩
    rw [List.append_assoc, List.singleton_append, ← hrest, List.cons_append, List.take_append_drop]
  have hlength := hlongest.longest t _ hfits ht
  rw [List.length_append, List.length_singleton] at hlength
  exact absurd hlength (Nat.not_succ_le_self _)

/-! ## Tokens at line breaks -/

namespace Token

/-- Line comments, and strings that are broken off, go on to the end of their line. -/
def runsToLineEnd (t : Token) : Bool :=
  t.kind == .trivia .lineComment || t.kind == .malformed .unterminatedString

/-- If the first token goes on to the end of its line, the second one is a line break or the end
marker. -/
def EndsLine (a b : Token) : Prop :=
  a.runsToLineEnd = true → b.kind = .trivia .newline ∨ b.kind = .endOfUnit

instance : DecidableRel EndsLine := fun _ _ => inferInstanceAs (Decidable (_ → _))

/-- A carriage return by itself, as a token. -/
def isLoneReturn (t : Token) : Bool := t.kind == .trivia .whitespace && t.text == "\r"

/-- The rules that go on to the end of the line. -/
lemma tag_of_runsToLineEnd {t : Token} (h : t.runsToLineEnd = true) :
    t.kind.tag = .lineComment ∨ t.kind.tag = .unterminatedString := by
  rw [runsToLineEnd, Bool.or_eq_true, beq_iff_eq, beq_iff_eq] at h
  rcases h with h | h <;> rw [h]
  · exact .inl rfl
  · exact .inr rfl

/-- At a line feed, and at a carriage return with its line feed, the first token is a line break;
at another carriage return it is that one. -/
lemma first_of_isBreak {x : Char} (hx : isBreak x = true) (start : Nat) (cs : List Char) :
    (first start (x :: cs)).kind = .trivia .newline ∨
      (first start (x :: cs)).isLoneReturn = true ∧ x = '\r' ∧ cs.head? ≠ some '\n' := by
  rw [isBreak, Bool.or_eq_true, beq_iff_eq, beq_iff_eq] at hx
  rcases hx with rfl | rfl
  · exact .inl rfl
  · by_cases hfeed : cs.head? = some '\n'
    · obtain ⟨cs, rfl⟩ := List.head?_eq_some_iff.1 hfeed
      exact .inl rfl
    · refine .inr ⟨?_, rfl, hfeed⟩
      rw [first, firstExtent_carriageReturn, carriageReturnExtent_of_ne hfeed]
      rfl

/-- Behind a token that goes on to the end of its line the text is at its end or at a character that
breaks lines. -/
lemma first_of_runsToLineEnd {start : Nat} {c : Char} {cs : List Char}
    (h : (first start (c :: cs)).runsToLineEnd = true) (stop : Nat) :
    (first stop (cs.drop (firstExtent c cs).more)).kind = .trivia .newline ∨
      (first stop (cs.drop (firstExtent c cs).more)).kind = .endOfUnit ∨
      (first stop (cs.drop (firstExtent c cs).more)).isLoneReturn = true ∧
        ∃ rest, '\r' :: rest <:+ cs ∧ rest.head? ≠ some '\n' := by
  have htag := tag_of_runsToLineEnd h
  rw [first_kind_tag] at htag
  cases hrest : cs.drop (firstExtent c cs).more with
  | nil => exact .inr (.inl rfl)
  | cons x rest =>
    have hx : isBreak x = true := isBreak_of_mem_head?_drop htag (by rw [hrest]; rfl)
    rcases first_of_isBreak hx stop rest with hnewline | ⟨hreturn, rfl, hfeed⟩
    · exact .inl hnewline
    · refine .inr (.inr ⟨hreturn, rest, ?_, hfeed⟩)
      rw [← hrest]
      exact List.drop_suffix _ _

end Token

/-- Directly behind a line comment, and behind a string that is broken off, stands a line break, the
end marker, or a carriage return by itself; the last only in texts in which some carriage return has
no line feed behind it. -/
theorem isChain_lineEnds (text : String) :
    ((tokenize text).IsChain fun a b => a.runsToLineEnd = true →
      b.kind = .trivia .newline ∨ b.kind = .endOfUnit ∨ b.isLoneReturn = true) ∧
    (NoLoneReturn text.toList → (tokenize text).IsChain Token.EndsLine) := by
  constructor
  · refine isChain_tokenize fun start stop c rest _ hruns => ?_
    rcases Token.first_of_runsToLineEnd hruns stop with h | h | h
    · exact .inl h
    · exact .inr (.inl h)
    · exact .inr (.inr h.1)
  · refine fun hreturns => isChain_tokenize fun start stop c rest hsuffix hruns => ?_
    rcases Token.first_of_runsToLineEnd hruns stop with h | h | ⟨-, tail, htail, hfeed⟩
    · exact .inl h
    · exact .inr h
    · have hplace := (htail.trans (List.suffix_cons c rest)).trans hsuffix
      exact absurd (hreturns tail hplace) hfeed

/-- A comment before a line feed with its carriage return, and a string broken off by the end. -/
theorem isChain_lineEnds_crlf :
    NoLoneReturn "//a\r\n\"b".toList ∧ (tokenize "//a\r\n\"b").IsChain Token.EndsLine :=
  ⟨by decide, (isChain_lineEnds _).2 (by decide)⟩

/-- Behind a line comment, text of the same line is taken for code: the carriage return that ends
the comment is a blank, and no line break. -/
theorem not_isChain_endsLine_loneReturn : ¬(tokenize "//a\rb").IsChain Token.EndsLine := by
  decide +kernel

end LexicalFront
