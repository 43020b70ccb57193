import LexicalFront.Proofs.Scanner
import LexicalFront.Proofs.Token.Tiling
import Mathlib.Order.Bounds.Basic
set_option autoImplicit false
set_option relaxedAutoImplicit false

/-!
# Scanning from any cursor

Lexemes may be taken off a text from every offset on, also from inside a character or from behind
the end. Before the end each one moves the cursor by at least a byte, so that the end is reached and
kept. What is taken depends on the characters behind the cursor alone: nothing before them counts.

## Main definitions

* `LexicalFront.Cursor.Exhausts` — the text is used up with a number of lexemes.

## Main results

* `LexicalFront.Cursor.exists_exhausts` — the text is used up with no more lexemes than bytes.
* `LexicalFront.Cursor.Before.lexeme_eq` — two cursors before the same characters take the same
  lexemes.
* `LexicalFront.Cursor.lexeme_from_anywhere` — what is taken off from any cursor.
-/

namespace LexicalFront

namespace Cursor

/-! ## One lexeme -/

/-- The cursor moves by the length of the lexeme. -/
lemma takeLexeme_rest (c : Cursor) : c.takeLexeme.rest = c.advance c.takeLexeme.length := by
  rw [takeLexeme_eq, afterScan]

/-- Before the end a lexeme has a byte, is no end of input, and does not reach over the end. -/
lemma takeLexeme_of_not_atEnd {c : Cursor} (h : c.atEnd = false) :
    c.takeLexeme.tag ≠ .endOfInput ∧ 1 ≤ c.takeLexeme.length ∧
      c.pos + c.takeLexeme.length ≤ c.sourceLength := by
  have hlt : c.pos < c.sourceLength := by
    rw [atEnd, decide_eq_false_iff_not, Nat.not_le] at h
    exact h
  rcases before_or_inside h with ⟨x, cs, hbefore⟩ | ⟨n, cs, hinside⟩
  · rw [hbefore.takeLexeme, takenBy]
    refine ⟨firstExtent_tag_ne_endOfInput x cs, ?_, ?_⟩
    · show 1 ≤ utf8Length (x :: _)
      have := x.utf8Size_pos
      rw [utf8Length_cons]
      omega
    · have hcut := congrArg utf8Length (List.take_append_drop (firstExtent x cs).more cs)
      rw [utf8Length_append] at hcut
      show c.pos + utf8Length (x :: _) ≤ c.sourceLength
      rw [hbefore.sourceLength_eq, utf8Length_cons, utf8Length_cons]
      omega
  · rw [hinside.takeLexeme]
    exact ⟨(by decide : Tag.invalidChar ≠ .endOfInput), le_rfl, hlt⟩

/-! ## Many lexemes -/

lemma afterLexemes_succ (c : Cursor) (n : Nat) :
    c.afterLexemes (n + 1) = c.takeLexeme.rest.afterLexemes n := rfl

lemma lexeme_succ (c : Cursor) (n : Nat) : c.lexeme (n + 1) = c.takeLexeme.rest.lexeme n := rfl

/-- Lexemes are taken off behind others. -/
lemma afterLexemes_add (c : Cursor) (m n : Nat) :
    c.afterLexemes (m + n) = (c.afterLexemes m).afterLexemes n := by
  induction m generalizing c with
  | zero => rw [Nat.zero_add, afterLexemes]
  | succ m ih => rw [Nat.succ_add, afterLexemes_succ, ih, afterLexemes_succ]

lemma lexeme_add (c : Cursor) (m n : Nat) : c.lexeme (m + n) = (c.afterLexemes m).lexeme n := by
  rw [lexeme, lexeme, afterLexemes_add]

/-- Each lexeme moves the cursor by its length. -/
lemma afterLexemes_succ_eq_advance (c : Cursor) (n : Nat) :
    c.afterLexemes (n + 1) = (c.afterLexemes n).advance (c.lexeme n).2 := by
  rw [afterLexemes_add]
  exact takeLexeme_rest _

/-! ## The end of the text -/

/-- At the end or behind it the cursor stays where it is. -/
lemma afterLexemes_of_atEnd {c : Cursor} (h : c.atEnd = true) (n : Nat) :
    c.afterLexemes n = c := by
  induction n with
  | zero => rfl
  | succ n ih => rw [afterLexemes_succ, takeLexeme_of_atEnd h, ih]

/-- And there is nothing but the end of input. -/
lemma lexeme_of_atEnd {c : Cursor} (h : c.atEnd = true) (n : Nat) :
    c.lexeme n = (.endOfInput, 0) := by
  rw [lexeme, afterLexemes_of_atEnd h, takeLexeme_of_atEnd h]

/-- The scanner comes from the cursor to the end of the text with some number of lexemes, and stays
there. -/
structure Exhausts (c : Cursor) (k : Nat) : Prop where
  /-- Each lexeme moves the cursor by its length. -/
  moves : ∀ n, c.afterLexemes (n + 1) = (c.afterLexemes n).advance (c.lexeme n).2
  /-- Those before the end have a byte. -/
  progress : ∀ n < k, (c.lexeme n).1 ≠ .endOfInput ∧ 1 ≤ (c.lexeme n).2
  /-- Behind them the text is used up. -/
  stops : ∀ n, k ≤ n → c.afterLexemes n = c.toEnd ∧ c.lexeme n = (.endOfInput, 0)

/-- At the end no lexeme is left. -/
lemma exhausts_zero {c : Cursor} (h : c.pos = c.sourceLength) : c.Exhausts 0 := by
  have hend : c.atEnd = true := decide_eq_true h.ge
  have hto : c.toEnd = c := by
    rw [toEnd, ← h]
  refine ⟨c.afterLexemes_succ_eq_advance, fun n hn => absurd hn (Nat.not_lt_zero n), ?_⟩
  exact fun n _ => ⟨by rw [afterLexemes_of_atEnd hend, hto], lexeme_of_atEnd hend n⟩

/-- Before the end, a lexeme is taken off first. -/
lemma Exhausts.succ {c : Cursor} {k : Nat} (hend : c.atEnd = false)
    (h : c.takeLexeme.rest.Exhausts k) : c.Exhausts (k + 1) := by
  obtain ⟨htag, hlength, -⟩ := takeLexeme_of_not_atEnd hend
  have hto : c.takeLexeme.rest.toEnd = c.toEnd := by
    rw [takeLexeme_rest]
    rfl
  refine ⟨c.afterLexemes_succ_eq_advance, fun n hn => ?_, fun n hn => ?_⟩
  · rcases n with _ | n
    · exact ⟨htag, hlength⟩
    · exact h.progress n (Nat.lt_of_succ_lt_succ hn)
  · rcases n with _ | n
    · exact absurd hn (Nat.not_succ_le_zero k)
    · rw [lexeme_succ, afterLexemes_succ, ← hto]
      exact h.stops n (Nat.le_of_succ_le_succ hn)

/-- The text is used up with at most as many lexemes as it has bytes behind the cursor. -/
theorem exists_exhausts {c : Cursor} (h : c.pos ≤ c.sourceLength) :
    ∃ k ≤ c.sourceLength - c.pos, c.Exhausts k := by
  -- induction on the bytes that are left, of which each lexeme takes one at least
  induction hleft : c.sourceLength - c.pos using Nat.strongRecOn generalizing c with
  | ind left ih =>
  rcases h.eq_or_lt with heq | hlt
  · exact ⟨0, Nat.zero_le _, exhausts_zero heq⟩
  · have hend : c.atEnd = false := decide_eq_false (Nat.not_le_of_lt hlt)
    obtain ⟨-, hlength, hle⟩ := takeLexeme_of_not_atEnd hend
    have hsource : c.takeLexeme.rest.sourceLength = c.sourceLength := by
      rw [takeLexeme_rest]
      rfl
    have hpos : c.takeLexeme.rest.pos = c.pos + c.takeLexeme.length := by
      rw [takeLexeme_rest, advance_pos]
    obtain ⟨k, hk, hrest⟩ := ih (left - c.takeLexeme.length) (by omega)
      (c := c.takeLexeme.rest) (by omega) (by omega)
    exact ⟨k + 1, by omega, hrest.succ hend⟩

/-! ## Nothing before the cursor counts -/

/-- Two cursors before the same characters take the same lexemes and move alike.

**Proof sketch.** Induction on `n`, over all pairs of cursors before the same characters. Both take
the first lexeme of these characters (`Before.takeLexeme`) and move by its length, after which they
are again before the same ones. At the end both stay. -/
theorem Before.lexeme_eq {c d : Cursor} {cs : List Char} (hc : c.Before cs) (hd : d.Before cs)
    (n : Nat) : c.lexeme n = d.lexeme n ∧
      ∃ m, c.afterLexemes n = c.advance m ∧ d.afterLexemes n = d.advance m := by
  -- the characters that are left change with each lexeme, and stay the same for both cursors
  induction n generalizing c d cs with
  | zero =>
    refine ⟨?_, 0, rfl, rfl⟩
    rcases cs with _ | ⟨x, cs⟩
    · rw [lexeme_of_atEnd (hc.atEnd_iff.2 rfl), lexeme_of_atEnd (hd.atEnd_iff.2 rfl)]
    · rw [lexeme, lexeme, afterLexemes, afterLexemes, hc.takeLexeme, hd.takeLexeme]
      rfl
  | succ n ih =>
    rcases cs with _ | ⟨x, cs⟩
    · have hcend := hc.atEnd_iff.2 rfl
      have hdend := hd.atEnd_iff.2 rfl
      refine ⟨by rw [lexeme_of_atEnd hcend, lexeme_of_atEnd hdend], 0, ?_, ?_⟩
      · rw [afterLexemes_of_atEnd hcend, advance_zero]
      · rw [afterLexemes_of_atEnd hdend, advance_zero]
    · have hsplit : x :: cs = (x :: cs.take (firstExtent x cs).more) ++
          cs.drop (firstExtent x cs).more := by
        rw [List.cons_append, List.take_append_drop]
      obtain ⟨hsame, m, hcm, hdm⟩ := ih (hsplit ▸ hc).advance (hsplit ▸ hd).advance
      rw [lexeme_succ, lexeme_succ, afterLexemes_succ, afterLexemes_succ, hc.takeLexeme,
        hd.takeLexeme]
      refine ⟨hsame, utf8Length (x :: cs.take (firstExtent x cs).more) + m, ?_, ?_⟩
      · rw [← advance_advance]
        exact hcm
      · rw [← advance_advance]
        exact hdm

/-- Inside a character its remaining bytes are taken one by one.

**Proof sketch.** Induction on `n`, the number of bytes that remain of the character. Each call
takes one byte (`Inside.takeLexeme`) and leaves the cursor inside with a byte less, or behind the
character if it was the last one. -/
lemma Inside.lexeme_eq {c : Cursor} {n : Nat} {cs : List Char} (h : c.Inside n cs) :
    (∀ i < n, c.lexeme i = (.invalidChar, 1)) ∧ (∀ i ≤ n, c.afterLexemes i = c.advance i) ∧
      (c.advance n).Before cs := by
  induction n generalizing c with
  | zero => exact absurd h.choose_spec.choose_spec.2.2.2 (Nat.lt_irrefl 0)
  | succ n ih =>
    have hfirst : c.lexeme 0 = (.invalidChar, 1) := by
      rw [lexeme, afterLexemes, h.takeLexeme]
    have hrest : c.takeLexeme.rest = c.advance 1 := by
      rw [h.takeLexeme]
    rcases n with _ | n
    · refine ⟨fun i hi => ?_, fun i hi => ?_, h.advance_one⟩
      · rw [Nat.lt_one_iff.1 hi, hfirst]
      · rcases Nat.le_one_iff_eq_zero_or_eq_one.1 hi with rfl | rfl
        · rfl
        · rw [afterLexemes_succ, hrest, afterLexemes]
    · obtain ⟨hlexemes, hcursors, hbehind⟩ := ih h.advance
      rw [advance_advance, Nat.add_comm 1] at hbehind
      refine ⟨fun i hi => ?_, fun i hi => ?_, hbehind⟩
      · rcases i with _ | i
        · exact hfirst
        · rw [lexeme_succ, hrest]
          exact hlexemes i (Nat.lt_of_succ_lt_succ hi)
      · rcases i with _ | i
        · rfl
        · rw [afterLexemes_succ, hrest, hcursors i (Nat.le_of_succ_le_succ hi), advance_advance,
            Nat.add_comm 1]

/-- An offset between two characters is a place before the characters that are left. -/
lemma exists_before_iff {text : String} {p : Nat} :
    (String.Pos.Raw.mk p).IsValid text ↔ ∃ cs, Before ⟨text, p⟩ cs := by
  rw [String.Pos.Raw.isValid_iff_exists_append]
  constructor
  · rintro ⟨front, rest, rfl, hp⟩
    refine ⟨rest.toList, dropBytes?_eq_some_iff.2 ⟨front.toList, String.toList_append, ?_⟩⟩
    rw [utf8Length_toList]
    exact (congrArg String.Pos.Raw.byteIdx hp).symm
  · rintro ⟨cs, h⟩
    obtain ⟨front, hsource, hlen⟩ := h.exists_front
    refine ⟨String.ofList front, String.ofList cs, ?_, ?_⟩
    · rw [← String.ofList_append, ← hsource, String.ofList_toList]
    · rw [String.Pos.Raw.ext_iff, String.byteIdx_rawEndPos, ← utf8Length_toList,
        String.toList_ofList, hlen]

/-- Inside a character, its end is the first offset between two characters. -/
lemma Inside.le_of_isValid {c : Cursor} {n : Nat} {cs : List Char} (h : c.Inside n cs) {p : Nat}
    (hle : c.pos ≤ p) (hp : (String.Pos.Raw.mk p).IsValid c.source) : c.pos + n ≤ p := by
  by_contra hlt
  obtain ⟨front, x, hsource, hpos, hend, -⟩ := h
  have hinside : Inside ⟨c.source, p⟩ (c.pos + n - p) cs :=
    ⟨front, x, hsource, hpos.trans_le hle, by show p + _ = _; omega, by omega⟩
  obtain ⟨rest, hrest⟩ := exists_before_iff.1 hp
  rw [Before, hinside.remaining?_eq_none] at hrest
  exact Option.some_ne_none rest hrest.symm

/-- Before the end there is a first offset between two characters, up to which single bytes are
taken off. -/
lemma exists_first_boundary {c : Cursor} (h : c.atEnd = false) :
    ∃ n cs, (c.advance n).Before cs ∧
      IsLeast {p | c.pos ≤ p ∧ (String.Pos.Raw.mk p).IsValid c.source} (c.pos + n) ∧
      (∀ i < n, c.lexeme i = (.invalidChar, 1)) ∧ c.afterLexemes n = c.advance n := by
  rcases before_or_inside h with ⟨x, cs, hbefore⟩ | ⟨n, cs, hinside⟩
  · refine ⟨0, x :: cs, hbefore, ⟨⟨le_rfl, exists_before_iff.2 ⟨x :: cs, hbefore⟩⟩, ?_⟩, ?_, rfl⟩
    · exact fun p hp => hp.1
    · exact fun i hi => absurd hi (Nat.not_lt_zero i)
  -- the end of the character: no offset before it is between two characters
  · obtain ⟨hlexemes, hcursors, hbehind⟩ := hinside.lexeme_eq
    refine ⟨n, cs, hbehind, ⟨⟨Nat.le_add_right _ _, exists_before_iff.2 ⟨cs, hbehind⟩⟩, ?_⟩,
      hlexemes, hcursors n le_rfl⟩
    exact fun p hp => hinside.le_of_isValid hp.1 hp.2

/-- Lexemes can be taken off a text from every offset on. At the end and behind it there is nothing
but the end of input, and the cursor stays. Before the end, each lexeme moves the cursor by its
length, which is a byte or more, and with no more lexemes than bytes the end is reached and kept.
From inside a character its remaining bytes are taken one by one as characters that begin nothing;
from the first offset on that is between two characters, the lexemes are those of the rest of the
text by itself, and the places are those places moved.

**Proof sketch.** At the end the cursor stays. Before it, the bytes up to the first boundary come
one by one (`exists_first_boundary`). From there on the cursor is before the same characters as a
fresh one on the rest of the text, so that the lexemes and the moves are the same
(`Before.lexeme_eq`). -/
theorem lexeme_from_anywhere (text : String) (start : Nat) :
    (text.utf8ByteSize ≤ start → ∀ n, (Cursor.mk text start).lexeme n = (.endOfInput, 0) ∧
      (Cursor.mk text start).afterLexemes n = ⟨text, start⟩) ∧
    (start < text.utf8ByteSize →
      (∃ k ≤ text.utf8ByteSize - start, (Cursor.mk text start).Exhausts k) ∧
      ∃ n, ∃ front rest : String, text = front ++ rest ∧ front.utf8ByteSize = start + n ∧
        IsLeast {p | start ≤ p ∧ (String.Pos.Raw.mk p).IsValid text} (start + n) ∧
        (∀ i < n, (Cursor.mk text start).lexeme i = (.invalidChar, 1)) ∧
        ∀ i, (Cursor.mk text start).lexeme (n + i) = (Cursor.start rest).lexeme i ∧
          ((Cursor.mk text start).afterLexemes (n + i)).pos =
            start + n + ((Cursor.start rest).afterLexemes i).pos) := by
  refine ⟨fun h n => ?_, fun h => ⟨exists_exhausts (c := ⟨text, start⟩) h.le, ?_⟩⟩
  · have hend : (Cursor.mk text start).atEnd = true := decide_eq_true h
    exact ⟨lexeme_of_atEnd hend n, afterLexemes_of_atEnd hend n⟩
  · have hend : (Cursor.mk text start).atEnd = false := decide_eq_false (Nat.not_le_of_lt h)
    obtain ⟨n, cs, hbefore, hleast, hbytes, hcursor⟩ := exists_first_boundary hend
    obtain ⟨front, hsource, hlen⟩ := hbefore.exists_front
    refine ⟨n, String.ofList front, String.ofList cs, ?_, ?_, hleast, hbytes, fun i => ?_⟩
    · rw [← String.ofList_append, ← hsource, advance_source, String.ofList_toList]
    · rw [← utf8Length_toList, String.toList_ofList, hlen, advance_pos]
    · have hfresh : (Cursor.start (String.ofList cs)).Before cs := before_append [] cs
      obtain ⟨hsame, m, hm, hm'⟩ := hbefore.lexeme_eq hfresh i
      have hstart : ((Cursor.start (String.ofList cs)).advance m).pos = m := Nat.zero_add m
      rw [lexeme_add, afterLexemes_add, hcursor, hm, hm', hstart]
      exact ⟨hsame, rfl⟩

/-- Behind the end, and inside a character of three bytes. -/
theorem lexeme_from_anywhere_euro :
    ("€1".utf8ByteSize ≤ 9 ∧ (Cursor.mk "€1" 9).lexeme 2 = (.endOfInput, 0)) ∧
      1 < "€1".utf8ByteSize ∧ ∃ k ≤ 3, (Cursor.mk "€1" 1).Exhausts k :=
  ⟨⟨by decide, ((lexeme_from_anywhere "€1" 9).1 (by decide) 2).1⟩, by decide,
    ((lexeme_from_anywhere "€1" 1).2 (by decide)).1⟩

end Cursor

end LexicalFront
