import LexicalFront.Proofs.Lexeme.Chars
import LexicalFront.Proofs.Token.Neighbours
import Mathlib.Data.List.SplitBy
set_option autoImplicit false
set_option relaxedAutoImplicit false

/-!
# Runs of whitespace

Blanks that follow each other are one token, but a carriage return without a line feed behind it is
a token of its own, also among blanks and among others of its sort. So whitespace tokens that follow
each other are their text cut at every carriage return; where none stands by itself, no two of them
follow each other.

## Main definitions

* `LexicalFront.Token.isWhitespace` — the tokens of blanks and of carriage returns.
* `LexicalFront.Token.NotBothWhitespace` — of a token and the one behind it, one is no whitespace.

## Main results

* `LexicalFront.splitBy_whitespace` — how a run of whitespace is cut into tokens.
* `LexicalFront.whitespace_runs` — this, that other spaces stand in comments, in strings and in line
  breaks only, and when no two whitespace tokens follow each other.
* `LexicalFront.not_isChain_whitespace_loneReturn` — a run of three whitespace tokens.
-/

namespace LexicalFront

/-! ## Whitespace lexemes -/

/-- A whitespace lexeme takes blanks as long as there are any, or is a carriage return with no line
feed behind it. -/
lemma whitespace_cases {c : Char} {cs : List Char} (h : (firstExtent c cs).tag = .whitespace) :
    (isBlank c = true ∧ (∀ x ∈ cs.take (firstExtent c cs).more, isBlank x = true) ∧
      ∀ x ∈ (cs.drop (firstExtent c cs).more).head?, isBlank x = false) ∨
    c = '\r' ∧ (firstExtent c cs).more = 0 ∧ cs.head? ≠ some '\n' := by
  have hvalid : (firstExtent c cs).tag ≠ .invalidChar := by
    rw [h]
    exact nofun
  have hform := (firstExtent_isLongest hvalid).form
  rw [h] at hform
  rcases hform with ⟨-, hblanks⟩ | hreturn
  · rw [List.forall_mem_cons] at hblanks
    refine .inl ⟨hblanks.1, hblanks.2, fun x hx => ?_⟩
    rw [firstExtent_of_isBlank hblanks.1, drop_length_takeWhile] at hx
    obtain ⟨rest, hrest⟩ := List.head?_eq_some_iff.1 hx
    exact eq_false_of_dropWhile_eq_cons hrest
  · obtain ⟨rfl, -⟩ := List.cons.inj hreturn
    have hfeed : cs.head? ≠ some '\n' := by
      intro hfeed
      obtain ⟨cs, rfl⟩ := List.head?_eq_some_iff.1 hfeed
      exact absurd h nofun
    refine .inr ⟨rfl, ?_, hfeed⟩
    rw [firstExtent_carriageReturn, carriageReturnExtent_of_ne hfeed]

/-- What begins a whitespace lexeme is a blank or a carriage return. -/
lemma eq_of_tag_whitespace {c : Char} {cs : List Char} (h : (firstExtent c cs).tag = .whitespace)
    (hc : isBlank c = false) : c = '\r' ∧ cs.head? ≠ some '\n' := by
  rcases whitespace_cases h with ⟨hblank, -⟩ | ⟨hreturn, -, hfeed⟩
  · rw [hc] at hblank
    exact absurd hblank Bool.false_ne_true
  · exact ⟨hreturn, hfeed⟩

/-! ## Runs of whitespace tokens -/

namespace Token

/-- The tokens of blanks and of carriage returns. -/
def isWhitespace (t : Token) : Bool := t.kind == .trivia .whitespace

/-- Of a token and the one behind it, one is no whitespace. -/
def NotBothWhitespace (a b : Token) : Prop := ¬(a.isWhitespace = true ∧ b.isWhitespace = true)

instance : DecidableRel NotBothWhitespace := fun _ _ => inferInstanceAs (Decidable (¬_))

/-- The rule of whitespace. -/
lemma tag_of_isWhitespace {t : Token} (h : t.isWhitespace = true) : t.kind.tag = .whitespace := by
  rw [isWhitespace, beq_iff_eq] at h
  rw [h]
  rfl

/-- Where two tokens meet, there are not blanks on both sides. -/
def MeetsNoBlanks (a b : Token) : Prop :=
  ∃ (hne : a.text.toList ≠ []) (hne' : b.text.toList ≠ []),
    (isBlank (a.text.toList.getLast hne) && isBlank (b.text.toList.head hne')) = false

/-- Two whitespace tokens that follow each other do not meet in blanks. -/
lemma meetsNoBlanks_of_isWhitespace {start stop : Nat} {c : Char} {cs : List Char}
    (ha : (first start (c :: cs)).isWhitespace = true)
    (hb : (first stop (cs.drop (firstExtent c cs).more)).isWhitespace = true) :
    MeetsNoBlanks (first start (c :: cs)) (first stop (cs.drop (firstExtent c cs).more)) := by
  have htag := tag_of_isWhitespace ha
  rw [first_kind_tag] at htag
  cases hrest : cs.drop (firstExtent c cs).more with
  | nil =>
    rw [hrest] at hb
    exact absurd hb Bool.false_ne_true
  | cons x rest =>
    simp only [MeetsNoBlanks, toList_first_text]
    refine ⟨List.cons_ne_nil _ _, List.cons_ne_nil _ _, ?_⟩
    rw [List.head_cons]
    rcases whitespace_cases htag with ⟨-, -, hstop⟩ | ⟨rfl, hmore, -⟩
    · rw [hstop x (by rw [hrest]; rfl), Bool.and_false]
    · simp only [hmore, List.take_zero, List.getLast_singleton]
      rfl

/-- Without a carriage return by itself, no two whitespace tokens follow each other. -/
lemma notBothWhitespace_of_noLoneReturn {start stop : Nat} {c : Char} {cs : List Char}
    (h : NoLoneReturn (c :: cs)) :
    NotBothWhitespace (first start (c :: cs)) (first stop (cs.drop (firstExtent c cs).more)) := by
  rintro ⟨ha, hb⟩
  have htag := tag_of_isWhitespace ha
  rw [first_kind_tag] at htag
  cases hrest : cs.drop (firstExtent c cs).more with
  | nil =>
    rw [hrest] at hb
    exact absurd hb Bool.false_ne_true
  | cons x rest =>
    have htag' := tag_of_isWhitespace hb
    rw [hrest, first_kind_tag] at htag'
    rcases whitespace_cases htag with ⟨-, -, hstop⟩ | ⟨rfl, -, hfeed⟩
    · obtain ⟨rfl, hfeed⟩ := eq_of_tag_whitespace htag' (hstop x (by rw [hrest]; rfl))
      refine hfeed (h rest ?_)
      rw [← hrest]
      exact (List.drop_suffix _ _).trans (List.suffix_cons c cs)
    · exact hfeed (h cs (List.suffix_refl _))

end Token

/-- The characters of a whitespace token go together. -/
lemma isChain_of_isWhitespace {text : String} {t : Token} (ht : t ∈ tokenize text)
    (h : t.isWhitespace = true) :
    t.text.toList ≠ [] ∧ t.text.toList.IsChain fun a b => (isBlank a && isBlank b) = true := by
  have htag := Token.tag_of_isWhitespace h
  rcases mem_tokenize_cases ht with ⟨l, hl, place, rfl⟩ | rfl
  · have hchars : (Token.ofLexeme place l).text.toList = l.chars := String.toList_ofList
    rw [Token.ofLexeme, Kind.tag_ofTag] at htag
    rw [hchars]
    refine ⟨chars_ne_nil_of_mem_lexemes hl, ?_⟩
    rcases form_of_mem_lexemes hl with hform | ⟨c, rfl, -⟩
    · rw [htag] at hform
      rcases hform with ⟨-, hblanks⟩ | hreturn
      · refine (List.pairwise_of_forall_mem_list fun a ha b hb => ?_).isChain
        rw [hblanks a ha, hblanks b hb, Bool.true_and]
      · rw [hreturn]
        exact .singleton _
    · exact .singleton _
  · exact absurd h Bool.false_ne_true

/-- Whitespace tokens that follow each other are their text cut wherever two characters are not both
blanks.

**Proof sketch.** Each of the tokens is blanks only or a single carriage return, so that nothing is
cut inside one. Behind blanks comes no blank, and a carriage return is none, so that there is a cut
between any two. -/
theorem splitBy_whitespace {text : String} {ws : List Token} (hws : ws <:+: tokenize text)
    (h : ∀ t ∈ ws, t.isWhitespace = true) :
    (ws.map (·.text.toList)).flatten.splitBy (fun a b => isBlank a && isBlank b) =
      ws.map (·.text.toList) := by
  have hmem (t : Token) (ht : t ∈ ws) : t ∈ tokenize text := hws.subset ht
  refine List.splitBy_flatten ?_ ?_ ?_
  · intro hnil
    obtain ⟨t, ht, hempty⟩ := List.mem_map.1 hnil
    exact (isChain_of_isWhitespace (hmem t ht) (h t ht)).1 hempty
  · intro cs hcs
    obtain ⟨t, ht, rfl⟩ := List.mem_map.1 hcs
    exact (isChain_of_isWhitespace (hmem t ht) (h t ht)).2
  · have hchain : (tokenize text).IsChain fun a b => a.isWhitespace = true →
        b.isWhitespace = true → Token.MeetsNoBlanks a b :=
      isChain_tokenize fun _ _ _ _ _ ha hb => Token.meetsNoBlanks_of_isWhitespace ha hb
    have hrun := List.IsChain.infix hchain hws
    rw [List.isChain_map]
    exact hrun.imp_of_mem_imp fun a b ha hb hab => hab (h a ha) (h b hb)

/-- What may hold a space: trivia, and strings and comments that break off. -/
lemma Kind.ofTag_of_isSolid_eq_false {t : Tag} {text : String} (h : t.isSolid = false)
    (hend : t ≠ .endOfInput) :
    (Kind.ofTag t text).isTrivia = true ∨ Kind.ofTag t text = .literal .string ∨
      Kind.ofTag t text = .malformed .unterminatedString ∨
        Kind.ofTag t text = .malformed .unterminatedBlockComment := by
  cases t <;> simp_all [Tag.isSolid, ofTag, isTrivia]

/-- Whitespace tokens that follow each other are their text, cut wherever two characters are not
both blanks. Other spaces stand in line breaks, comments and strings only. Where every carriage
return has a line feed behind it, no two whitespace tokens follow each other. -/
theorem whitespace_runs (text : String) :
    (∀ ws, ws <:+: tokenize text → (∀ t ∈ ws, t.isWhitespace = true) →
      (ws.map (·.text.toList)).flatten.splitBy (fun a b => isBlank a && isBlank b) =
        ws.map (·.text.toList)) ∧
    (∀ t ∈ tokenize text, (∃ x ∈ t.text.toList, isSpace x = true) →
      t.isTrivia = true ∨ t.kind = .literal .string ∨ t.kind = .malformed .unterminatedString ∨
        t.kind = .malformed .unterminatedBlockComment) ∧
    (NoLoneReturn text.toList → (tokenize text).IsChain Token.NotBothWhitespace) := by
  refine ⟨fun ws => splitBy_whitespace, fun t ht hspace => ?_, fun hreturns => ?_⟩
  · obtain ⟨x, hx, hspace⟩ := hspace
    rcases mem_tokenize_cases ht with ⟨l, hl, place, rfl⟩ | rfl
    · rw [Token.toList_ofLexeme_text] at hx
      refine Kind.ofTag_of_isSolid_eq_false ?_ (tag_ne_endOfInput_of_mem_lexemes hl)
      rw [Bool.eq_false_iff]
      intro hsolid
      rw [isSpace_eq_false_of_mem_lexemes hl hsolid x hx] at hspace
      exact Bool.false_ne_true hspace
    · exact absurd hx List.not_mem_nil
  · refine isChain_tokenize fun start stop c rest hsuffix => ?_
    refine Token.notBothWhitespace_of_noLoneReturn fun tail htail => hreturns tail ?_
    exact htail.trans hsuffix

/-- Blanks before a line feed with its carriage return. -/
theorem whitespace_runs_crlf : NoLoneReturn "a \t\r\n b".toList ∧
    (tokenize "a \t\r\n b").IsChain Token.NotBothWhitespace :=
  ⟨by decide, (whitespace_runs _).2.2 (by decide)⟩

/-- A carriage return between blanks is a token of its own, and so are the blanks on both sides. -/
theorem not_isChain_whitespace_loneReturn :
    ¬(tokenize " \r ").IsChain Token.NotBothWhitespace := by
  decide +kernel

end LexicalFront
