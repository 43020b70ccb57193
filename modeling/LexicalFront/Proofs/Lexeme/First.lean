import LexicalFront.Proofs.Lexeme.Delimited
import LexicalFront.Proofs.Lexeme.Number
set_option autoImplicit false
set_option relaxedAutoImplicit false

/-!
# The first lexeme of a text

The scanner chooses a rule by the first character and never goes back. This module shows that the
choice is right: whatever the text, the rule that was chosen takes the longest piece that lies in
any class at all.

## Main results

* `LexicalFront.firstExtent_cut` — what is cut off lies in the class of its tag.
* `LexicalFront.firstExtent_of_form` — a piece of any class is cut off as a whole.
* `LexicalFront.firstExtent_append_le` — more text never makes the first lexeme shorter.
* `LexicalFront.firstExtent_append_lineFeed` — a line feed ends the first lexeme like the end of the
  text, carriage returns and open block comments excepted.
* `LexicalFront.Tag.Form.unique` — no two classes have a piece in common.
* `LexicalFront.firstExtent_isLongest` — the first lexeme is the longest piece of all classes.

## Design

The longest piece is not searched for. A piece of some class at the start of the text is cut off as
a whole where it stands alone, and the rest of the text can only make the first lexeme longer; so
the first lexeme of the text is at least as long as the piece.
-/

namespace LexicalFront

/-! ## Operators -/

namespace Operator

/-- Longer spellings come first. -/
lemma all_pairwise :
    all.Pairwise fun a b => b.spelling.toList.length ≤ a.spelling.toList.length := by
  decide

/-- The operator that is found fits, and no operator that fits is longer. -/
lemma longest?_eq_some {cs : List Char} {o : Operator} (h : longest? cs = some o) :
    o.spelling.toList <+: cs ∧
      ∀ p : Operator, p.spelling.toList <+: cs →
        p.spelling.toList.length ≤ o.spelling.toList.length := by
  obtain ⟨ho, before, after, hall, hbefore⟩ := List.find?_eq_some_iff_append.1 h
  refine ⟨List.isPrefixOf_iff_prefix.1 ho, fun p hp => ?_⟩
  have hmem : p ∈ before ++ o :: after := hall ▸ mem_all p
  rcases List.mem_append.1 hmem with hp' | hp'
  · have := hbefore p hp'
    rw [List.isPrefixOf_iff_prefix.2 hp] at this
    exact absurd this (by simp)
  · rcases List.mem_cons.1 hp' with rfl | hp'
    · exact le_rfl
    · have hsorted := all_pairwise
      rw [hall] at hsorted
      exact (List.pairwise_cons.1 (List.pairwise_append.1 hsorted).2.1).1 p hp'

/-- No operator is found where none fits. -/
lemma longest?_eq_none_iff {cs : List Char} :
    longest? cs = none ↔ ∀ o : Operator, ¬o.spelling.toList <+: cs := by
  rw [longest?, List.find?_eq_none]
  refine ⟨fun h o ho => h o (mem_all o) (List.isPrefixOf_iff_prefix.2 ho), fun h o _ ho => ?_⟩
  exact h o (List.isPrefixOf_iff_prefix.1 ho)

/-- A spelling is found as a whole. -/
lemma longest?_spelling (o : Operator) : longest? o.spelling.toList = some o := by
  cases h : longest? o.spelling.toList with
  | none => exact absurd (List.prefix_refl _) (longest?_eq_none_iff.1 h o)
  | some p =>
    obtain ⟨hp, hlongest⟩ := longest?_eq_some h
    have heq := hp.eq_of_length_le (hlongest o (List.prefix_refl _))
    rw [spelling_injective (String.toList_inj.1 heq)]

/-- The first character of an operator is an operator by itself. -/
lemma exists_head (o : Operator) :
    ∃ p : Operator, p.spelling.toList = o.spelling.toList.take 1 := by
  have h : ∀ o ∈ all, ∃ p ∈ all, p.spelling.toList = o.spelling.toList.take 1 := by decide
  obtain ⟨p, -, hp⟩ := h o (mem_all o)
  exact ⟨p, hp⟩

/-- Whether a text begins with no character that another rule is chosen by, the slash excepted, and
not like a comment. -/
def beginsPlainly : List Char → Bool
  | c :: cs => !isBlank c && !isBreak c && !isIdentifierStart c && !Radix.decimal.isDigit c &&
      c != '"' && (c != '/' || cs.head?.all fun d => d != '/' && d != '*')
  | [] => true

/-- An operator begins with no character that another rule is chosen by, the slash excepted, and no
operator begins like a comment. -/
lemma spelling_head {o : Operator} {c : Char} {cs : List Char} (h : o.spelling.toList = c :: cs) :
    isBlank c = false ∧ isBreak c = false ∧ isIdentifierStart c = false ∧
      Radix.decimal.isDigit c = false ∧ c ≠ '"' ∧
      (c = '/' → ∀ d ∈ cs.head?, d ≠ '/' ∧ d ≠ '*') := by
  have hall : ∀ o ∈ all, beginsPlainly o.spelling.toList = true := by decide
  have hplain := hall o (mem_all o)
  rw [h, beginsPlainly] at hplain
  simp only [Bool.and_eq_true, Bool.not_eq_true', bne_iff_ne, Bool.or_eq_true,
    Option.all_eq_true] at hplain
  obtain ⟨⟨⟨⟨⟨hblank, hbreak⟩, hletter⟩, hdigit⟩, hquote⟩, hslash⟩ := hplain
  exact ⟨hblank, hbreak, hletter, hdigit, hquote, fun hc => hslash.resolve_left (absurd hc)⟩

end Operator

/-- An operator that is found is cut off as a whole. -/
lemma operatorExtent_eq {c : Char} {cs : List Char} {o : Operator}
    (h : Operator.longest? (c :: cs) = some o) :
    ∃ piece rest, cs = piece ++ rest ∧ o.spelling.toList = c :: piece ∧
      operatorExtent c cs = ⟨.operator o, piece.length⟩ := by
  obtain ⟨rest, hrest⟩ := (Operator.longest?_eq_some h).1
  cases hs : o.spelling.toList with
  | nil => exact absurd (Operator.length_spelling o).1 (by rw [hs]; exact Nat.lt_irrefl 0)
  | cons d piece =>
    rw [hs, List.cons_append] at hrest
    obtain ⟨rfl, rfl⟩ := List.cons.inj hrest
    refine ⟨piece, rest, rfl, rfl, ?_⟩
    simp only [operatorExtent, h, hs, List.length_cons, Nat.add_sub_cancel]

/-- The spelling of an operator is cut off as a whole. -/
lemma operatorExtent_of_spelling {o : Operator} {c : Char} {cs : List Char}
    (h : o.spelling.toList = c :: cs) : operatorExtent c cs = ⟨.operator o, cs.length⟩ := by
  simp only [operatorExtent, ← h, o.longest?_spelling]
  simp only [h, List.length_cons, Nat.add_sub_cancel]

/-- An operator is cut off the text, and spelled so; or the first character begins none. -/
lemma operatorExtent_cut (c : Char) (cs : List Char) :
    ∃ piece rest, cs = piece ++ rest ∧ (operatorExtent c cs).more = piece.length ∧
      ((operatorExtent c cs).tag = .invalidChar ∧ piece = [] ∨
        (operatorExtent c cs).tag.Form (c :: piece)) := by
  cases h : Operator.longest? (c :: cs) with
  | none =>
    refine ⟨[], cs, rfl, ?_, .inl ⟨?_, rfl⟩⟩
    · rw [operatorExtent, h]
      rfl
    · rw [operatorExtent, h]
  | some o =>
    obtain ⟨piece, rest, rfl, hs, heq⟩ := operatorExtent_eq h
    refine ⟨piece, rest, rfl, by rw [heq], .inr ?_⟩
    rw [heq]
    exact hs.symm

/-- More text never makes an operator shorter. -/
lemma operatorExtent_append_le (c : Char) (cs ds : List Char) :
    (operatorExtent c cs).more ≤ (operatorExtent c (cs ++ ds)).more := by
  cases h : Operator.longest? (c :: cs) with
  | none =>
    rw [operatorExtent, h]
    exact Nat.zero_le _
  | some o =>
    obtain ⟨piece, rest, rfl, hs, heq⟩ := operatorExtent_eq h
    have hfits : o.spelling.toList <+: c :: (piece ++ rest ++ ds) := by
      rw [hs, List.append_assoc]
      exact List.prefix_append (c :: piece) _
    cases h' : Operator.longest? (c :: (piece ++ rest ++ ds)) with
    | none => exact absurd hfits (Operator.longest?_eq_none_iff.1 h' o)
    | some p =>
      have hle := (Operator.longest?_eq_some h').2 o hfits
      rw [heq, operatorExtent, h']
      rw [hs, List.length_cons] at hle
      exact Nat.le_sub_of_add_le hle

/-- A character begins an operator in every text or in none. -/
lemma operatorExtent_tag_of_invalidChar {c : Char} {cs : List Char}
    (h : (operatorExtent c cs).tag = .invalidChar) (ds : List Char) :
    (operatorExtent c ds).tag = .invalidChar := by
  have hcs : Operator.longest? (c :: cs) = none := by
    cases ho : Operator.longest? (c :: cs) with
    | none => rfl
    | some o =>
      rw [operatorExtent, ho] at h
      exact absurd h (by simp)
  cases ho : Operator.longest? (c :: ds) with
  | none => rw [operatorExtent, ho]
  | some o =>
    obtain ⟨piece, -, -, hs, -⟩ := operatorExtent_eq ho
    obtain ⟨p, hp⟩ := o.exists_head
    rw [hs] at hp
    exact absurd ⟨cs, by rw [hp]; rfl⟩ (Operator.longest?_eq_none_iff.1 hcs p)

/-- A piece without a character is found before that character as before the end of the text. -/
lemma prefix_append_stop {x : Char} {piece : List Char} (hx : x ∉ piece) (cs ds : List Char) :
    piece <+: cs ++ x :: ds ↔ piece <+: cs := by
  refine ⟨fun h => ?_, fun h => h.trans (List.prefix_append _ _)⟩
  obtain hle | hlt := le_or_gt piece.length cs.length
  · exact List.prefix_of_prefix_length_le h (List.prefix_append _ _) hle
  · have hcs : cs ++ [x] <+: piece := by
      refine List.prefix_of_prefix_length_le ⟨ds, by simp⟩ h ?_
      rw [List.length_append]
      exact hlt
    exact absurd (hcs.subset (by simp)) hx

/-- A line feed ends an operator like the end of the text. -/
lemma operatorExtent_append_lineFeed (c : Char) (cs ds : List Char) :
    operatorExtent c (cs ++ '\n' :: ds) = operatorExtent c cs := by
  have hfeed : ∀ o ∈ Operator.all, '\n' ∉ o.spelling.toList := by decide
  have hfits : (fun o : Operator => o.spelling.toList.isPrefixOf (c :: (cs ++ '\n' :: ds))) =
      fun o => o.spelling.toList.isPrefixOf (c :: cs) := by
    funext o
    rw [Bool.eq_iff_iff, List.isPrefixOf_iff_prefix, List.isPrefixOf_iff_prefix]
    exact prefix_append_stop (hfeed o o.mem_all) (c :: cs) ds
  rw [operatorExtent, operatorExtent, Operator.longest?, Operator.longest?, hfits]

/-! ## The choice of the rule -/

/-- The ways a lexeme may begin, as far as the first character tells. -/
inductive Opening (c : Char) : Prop where
  | blank : isBlank c = true → Opening c
  | carriageReturn : c = '\r' → Opening c
  | lineFeed : c = '\n' → Opening c
  | letter : isIdentifierStart c = true → Opening c
  | digit : Radix.decimal.isDigit c = true → Opening c
  | quote : c = '"' → Opening c
  | slash : c = '/' → Opening c
  | other : (∀ cs, firstExtent c cs = operatorExtent c cs) → Opening c

/-- Every character is in one of the cases of the choice. -/
lemma opening (c : Char) : Opening c := by
  by_cases hblank : isBlank c = true
  · exact .blank hblank
  by_cases hreturn : c = '\r'
  · exact .carriageReturn hreturn
  by_cases hfeed : c = '\n'
  · exact .lineFeed hfeed
  by_cases hletter : isIdentifierStart c = true
  · exact .letter hletter
  by_cases hdigit : Radix.decimal.isDigit c = true
  · exact .digit hdigit
  by_cases hquote : c = '"'
  · exact .quote hquote
  by_cases hslash : c = '/'
  · exact .slash hslash
  refine .other fun cs => ?_
  simp only [firstExtent, hblank, hreturn, hfeed, hletter, hdigit, hquote, hslash, if_false,
    Bool.false_eq_true]

lemma firstExtent_of_isBlank {c : Char} (h : isBlank c = true) (cs : List Char) :
    firstExtent c cs = ⟨.whitespace, (cs.takeWhile isBlank).length⟩ := if_pos h

lemma firstExtent_carriageReturn (cs : List Char) :
    firstExtent '\r' cs = carriageReturnExtent cs := rfl

lemma firstExtent_lineFeed (cs : List Char) : firstExtent '\n' cs = ⟨.newline, 0⟩ := rfl

lemma firstExtent_quote (cs : List Char) : firstExtent '"' cs = stringExtent cs := rfl

lemma firstExtent_slash (cs : List Char) :
    firstExtent '/' cs = (commentExtent? cs).getD (operatorExtent '/' cs) := rfl

/-- What begins an identifier begins nothing that is asked for before. -/
lemma firstExtent_of_isIdentifierStart {c : Char} (h : isIdentifierStart c = true)
    (cs : List Char) :
    firstExtent c cs = ⟨.identifier, (cs.takeWhile isIdentifierPart).length⟩ := by
  have hblank : isBlank c = false := by
    by_contra hc
    simp only [isBlank, Bool.not_eq_false, Bool.or_eq_true, beq_iff_eq] at hc
    rcases hc with ((rfl | rfl) | rfl) | rfl <;> exact absurd h (by decide)
  have hreturn : c ≠ '\r' := by rintro rfl; exact absurd h (by decide)
  have hfeed : c ≠ '\n' := by rintro rfl; exact absurd h (by decide)
  simp only [firstExtent, hblank, hreturn, hfeed, h, if_true, if_false, Bool.false_eq_true]

/-- The order of characters is that of their code points. -/
private lemma char_le_iff (a b : Char) : a ≤ b ↔ a.toNat ≤ b.toNat := Iff.rfl

/-- What begins a number begins nothing that is asked for before. -/
lemma firstExtent_of_isDigit {c : Char} (h : Radix.decimal.isDigit c = true) (cs : List Char) :
    firstExtent c cs = numberExtent c cs := by
  have hrange : 48 ≤ c.toNat ∧ c.toNat ≤ 57 := by
    simpa [Radix.isDigit, char_le_iff] using h
  have hne : ∀ d : Char, d.toNat < 48 ∨ 57 < d.toNat → c ≠ d := by
    rintro d hd rfl
    omega
  have hblank : isBlank c = false := by
    simp [isBlank, hne]
  have hbig : ¬97 ≤ c.toNat ∧ ¬65 ≤ c.toNat ∧ ¬128 ≤ c.toNat := by omega
  have hletter : isIdentifierStart c = false := by
    simp [isIdentifierStart, isAsciiLetter, char_le_iff, hne, hbig]
  simp [firstExtent, hblank, hletter, hne, h]

/-! ## What is cut off -/

/-- A carriage return is cut off the text, with a line feed behind it. -/
lemma carriageReturnExtent_cut (cs : List Char) :
    ∃ piece rest, cs = piece ++ rest ∧ (carriageReturnExtent cs).more = piece.length ∧
      (carriageReturnExtent cs).tag.Form ('\r' :: piece) := by
  unfold carriageReturnExtent
  split
  · next cs => exact ⟨['\n'], cs, rfl, rfl, .inr rfl⟩
  · exact ⟨[], cs, rfl, rfl, .inr rfl⟩

/-- The first lexeme is cut off the text. It lies in the class of its tag, or it is one character
that begins nothing.

**Proof sketch.** By what begins with the first character. A rule with its own class has its own
lemma on what it cuts off; blanks and words are runs, and the rest goes to the operators. -/
theorem firstExtent_cut (c : Char) (cs : List Char) :
    ∃ piece rest, cs = piece ++ rest ∧ (firstExtent c cs).more = piece.length ∧
      ((firstExtent c cs).tag = .invalidChar ∧ piece = [] ∨
        (firstExtent c cs).tag.Form (c :: piece)) := by
  cases opening c with
  | blank h =>
    rw [firstExtent_of_isBlank h]
    refine ⟨_, _, (List.takeWhile_append_dropWhile).symm, rfl, .inr (.inl ⟨by simp, ?_⟩)⟩
    exact List.forall_mem_cons.2 ⟨h, fun d hd => List.mem_takeWhile_imp hd⟩
  | carriageReturn h =>
    subst h
    obtain ⟨piece, rest, hcs, hlen, hform⟩ := carriageReturnExtent_cut cs
    exact ⟨piece, rest, hcs, hlen, .inr hform⟩
  | lineFeed h =>
    subst h
    exact ⟨[], cs, rfl, rfl, .inr (.inl rfl)⟩
  | letter h =>
    rw [firstExtent_of_isIdentifierStart h]
    refine ⟨_, _, (List.takeWhile_append_dropWhile).symm, rfl, .inr ⟨c, _, rfl, h, ?_⟩⟩
    exact fun d hd => List.mem_takeWhile_imp hd
  | digit h =>
    rw [firstExtent_of_isDigit h]
    obtain ⟨piece, rest, hcs, hlen, hform⟩ := numberExtent_cut h cs
    exact ⟨piece, rest, hcs, hlen, .inr hform⟩
  | quote h =>
    subst h
    obtain ⟨piece, rest, hcs, hlen, hform⟩ := stringExtent_cut cs
    exact ⟨piece, rest, hcs, hlen, .inr hform⟩
  | slash h =>
    subst h
    rw [firstExtent_slash]
    cases he : commentExtent? cs with
    | none => exact operatorExtent_cut '/' cs
    | some e =>
      obtain ⟨piece, rest, hcs, hlen, hform⟩ := commentExtent?_cut he
      exact ⟨piece, rest, hcs, hlen, .inr hform⟩
  | other h =>
    rw [h]
    exact operatorExtent_cut c cs

/-! ## Pieces by themselves -/

/-- An operator is no comment. -/
lemma firstExtent_of_spelling {o : Operator} {c : Char} {cs : List Char}
    (h : o.spelling.toList = c :: cs) : firstExtent c cs = ⟨.operator o, cs.length⟩ := by
  obtain ⟨hblank, hbreak, hletter, hdigit, hquote, hslash⟩ := Operator.spelling_head h
  cases opening c with
  | blank h' => exact absurd h' (by rw [hblank]; decide)
  | carriageReturn h' => exact absurd hbreak (by rw [h']; decide)
  | lineFeed h' => exact absurd hbreak (by rw [h']; decide)
  | letter h' => exact absurd h' (by rw [hletter]; decide)
  | digit h' => exact absurd h' (by rw [hdigit]; decide)
  | quote h' => exact absurd h' hquote
  | slash h' =>
    subst h'
    have hnone : commentExtent? cs = none := by
      rcases cs with _ | ⟨d, cs⟩
      · rfl
      · obtain ⟨hs, ht⟩ := hslash rfl d rfl
        exact commentExtent?_eq_none hs ht cs
    rw [firstExtent_slash, hnone, Option.getD_none, operatorExtent_of_spelling h]
  | other h' => rw [h', operatorExtent_of_spelling h]

/-- A number of a base begins with a digit. -/
lemma isDigit_of_isRadixRun {r : Radix} {ds : List Char} {c : Char} {cs : List Char}
    (h : IsRadixRun r ds (c :: cs)) : Radix.decimal.isDigit c = true := by
  obtain ⟨m, heq, -⟩ := h
  obtain ⟨rfl, -⟩ := List.cons.inj heq
  decide

/-- An integer begins with a digit. -/
lemma isDigit_of_isInteger {r : Radix} {c : Char} {cs : List Char} (h : IsInteger r (c :: cs)) :
    Radix.decimal.isDigit c = true := by
  cases r with
  | decimal =>
    obtain ⟨d, ds, heq, hd, -⟩ := h
    obtain ⟨rfl, -⟩ := List.cons.inj heq
    exact hd
  | _ =>
    obtain ⟨ds, hrun, -⟩ := h
    exact isDigit_of_isRadixRun hrun

/-- A float begins with a digit. -/
lemma isDigit_of_isFloat {c : Char} {cs : List Char} (h : IsFloat (c :: cs)) :
    Radix.decimal.isDigit c = true := by
  obtain ⟨_, fraction, exponent, heq, ⟨d, ds, rfl, hd, -⟩, -⟩ := h
  obtain ⟨rfl, -⟩ := List.cons.inj heq
  exact hd

/-- A piece of any class is cut off as a whole where nothing follows it.

**Proof sketch.** By the class of the piece. Its first character sends the scanner to the rule of
that class, and with nothing behind it this rule takes the piece to its end. -/
theorem firstExtent_of_form {t : Tag} {c : Char} {cs : List Char} (h : t.Form (c :: cs)) :
    firstExtent c cs = ⟨t, cs.length⟩ := by
  cases t with
  | identifier =>
    obtain ⟨d, rest, heq, hstart, hpart⟩ := h
    obtain ⟨rfl, rfl⟩ := List.cons.inj heq
    rw [firstExtent_of_isIdentifierStart hstart, List.takeWhile_eq_self_iff.2 hpart]
  | integer r =>
    rw [firstExtent_of_isDigit (isDigit_of_isInteger h), numberExtent_of_isInteger h]
  | float => rw [firstExtent_of_isDigit (isDigit_of_isFloat h), numberExtent_of_isFloat h]
  | string =>
    obtain ⟨body, heq, hbody⟩ := h
    obtain ⟨rfl, rfl⟩ := List.cons.inj heq
    exact stringExtent_of_isClosedString ⟨body, rfl, hbody⟩
  | operator o => exact firstExtent_of_spelling h.symm
  | whitespace =>
    rcases h with ⟨-, h⟩ | h
    · rw [firstExtent_of_isBlank (h c List.mem_cons_self), List.takeWhile_eq_self_iff.2]
      exact fun d hd => h d (List.mem_cons_of_mem c hd)
    · obtain ⟨rfl, rfl⟩ := List.cons.inj h
      rfl
  | newline =>
    rcases h with h | h
    · obtain ⟨rfl, rfl⟩ := List.cons.inj h
      rfl
    · obtain ⟨rfl, rfl⟩ := List.cons.inj h
      rfl
  | lineComment =>
    obtain ⟨body, heq, hbody⟩ := h
    obtain ⟨rfl, rfl⟩ := List.cons.inj heq
    rw [firstExtent_slash, commentExtent?_of_isLineComment ⟨body, rfl, hbody⟩, Option.getD_some]
  | blockComment =>
    obtain ⟨body, heq, hbody⟩ := h
    obtain ⟨rfl, rfl⟩ := List.cons.inj heq
    rw [firstExtent_slash, commentExtent?_of_isClosedComment ⟨body, rfl, hbody⟩, Option.getD_some]
  | unterminatedString =>
    have hc : c = '"' := by
      obtain ⟨body, -, heq | heq⟩ := h <;> exact (List.cons.inj heq).1
    subst hc
    exact stringExtent_of_isOpenString h
  | unterminatedBlockComment =>
    obtain ⟨body, heq, hbody⟩ := h
    obtain ⟨rfl, rfl⟩ := List.cons.inj heq
    rw [firstExtent_slash, commentExtent?_of_isOpenComment ⟨body, rfl, hbody⟩, Option.getD_some]
  | missingRadixDigits =>
    have hc : Radix.decimal.isDigit c = true := by
      obtain ⟨r, ds, hrun, -⟩ := h
      exact isDigit_of_isRadixRun hrun
    rw [firstExtent_of_isDigit hc, numberExtent_of_isRadixWithoutDigits h]
  | invalidChar => exact h.elim
  | endOfInput => exact h.elim

/-- No two classes have a piece in common. -/
theorem Tag.Form.unique {t u : Tag} {cs : List Char} (ht : t.Form cs) (hu : u.Form cs) : t = u := by
  rcases cs with _ | ⟨c, cs⟩
  · exact absurd rfl ht.ne_nil
  · have h := (firstExtent_of_form ht).symm.trans (firstExtent_of_form hu)
    exact congrArg Extent.tag h

/-! ## More text -/

/-- Only the character behind a carriage return matters. -/
lemma carriageReturnExtent_append {cs : List Char} (h : cs ≠ []) (ds : List Char) :
    carriageReturnExtent (cs ++ ds) = carriageReturnExtent cs := by
  rcases cs with _ | ⟨c, cs⟩
  · exact absurd rfl h
  · by_cases hc : c = '\n'
    · subst hc
      rfl
    · have hother : ∀ rest, carriageReturnExtent (c :: rest) = ⟨.whitespace, 0⟩ := fun rest =>
        carriageReturnExtent.eq_2 (c :: rest) fun _ heq => hc (List.cons.inj heq).1
      rw [List.cons_append, hother, hother]

/-- More text never makes a line break shorter. -/
lemma carriageReturnExtent_append_le (cs ds : List Char) :
    (carriageReturnExtent cs).more ≤ (carriageReturnExtent (cs ++ ds)).more := by
  rcases cs with _ | ⟨c, cs⟩
  · exact Nat.zero_le _
  · rw [carriageReturnExtent_append (List.cons_ne_nil c cs)]

/-- More text never makes an operator or a comment shorter. -/
lemma firstExtent_slash_append_le (cs ds : List Char) :
    (firstExtent '/' cs).more ≤ (firstExtent '/' (cs ++ ds)).more := by
  rw [firstExtent_slash, firstExtent_slash]
  cases he : commentExtent? cs with
  | some e =>
    obtain ⟨e', he', hle⟩ := commentExtent?_append_le he ds
    rw [he']
    exact hle
  | none =>
    rcases cs with _ | ⟨c, cs⟩
    · exact Nat.zero_le _
    · have hne : c ≠ '/' ∧ c ≠ '*' := by
        constructor
        · rintro rfl
          simp [commentExtent?] at he
        · rintro rfl
          rw [commentExtent?] at he
          split at he <;> simp at he
      rw [List.cons_append, commentExtent?_eq_none hne.1 hne.2]
      exact operatorExtent_append_le '/' (c :: cs) ds

/-- More text never makes the first lexeme shorter.

**Proof sketch.** By what begins with the first character. More text leads to the same rule, and
each rule takes at least as much of a longer text. -/
theorem firstExtent_append_le (c : Char) (cs ds : List Char) :
    (firstExtent c cs).more ≤ (firstExtent c (cs ++ ds)).more := by
  cases opening c with
  | blank h =>
    rw [firstExtent_of_isBlank h, firstExtent_of_isBlank h]
    exact length_takeWhile_append_le cs ds
  | carriageReturn h =>
    subst h
    exact carriageReturnExtent_append_le cs ds
  | lineFeed h =>
    subst h
    exact le_rfl
  | letter h =>
    rw [firstExtent_of_isIdentifierStart h, firstExtent_of_isIdentifierStart h]
    exact length_takeWhile_append_le cs ds
  | digit h =>
    rw [firstExtent_of_isDigit h, firstExtent_of_isDigit h]
    exact numberExtent_append_le c cs ds
  | quote h =>
    subst h
    exact stringExtent_append_le cs ds
  | slash h =>
    subst h
    exact firstExtent_slash_append_le cs ds
  | other h =>
    rw [h, h]
    exact operatorExtent_append_le c cs ds

/-- A line feed ends the first lexeme like the end of the text. A carriage return is a line break
together with it, and an open block comment goes on behind it.

**Proof sketch.** By what begins with the first character. A line feed belongs to no blanks, words,
numbers and operators, and closes strings and line comments; so each rule stops where it stopped at
the end. Only the two exceptions that are excluded look behind it. -/
theorem firstExtent_append_lineFeed {c : Char} {cs : List Char} (hc : c = '\r' → cs ≠ [])
    (ht : (firstExtent c cs).tag ≠ .unterminatedBlockComment) (ds : List Char) :
    firstExtent c (cs ++ '\n' :: ds) = firstExtent c cs := by
  cases opening c with
  | blank h =>
    rw [firstExtent_of_isBlank h, firstExtent_of_isBlank h, takeWhile_append_stop (by decide)]
  | carriageReturn h =>
    subst h
    exact carriageReturnExtent_append (hc rfl) _
  | lineFeed h => subst h; rfl
  | letter h =>
    rw [firstExtent_of_isIdentifierStart h, firstExtent_of_isIdentifierStart h,
      takeWhile_append_stop (by decide)]
  | digit h =>
    rw [firstExtent_of_isDigit h, firstExtent_of_isDigit h, numberExtent_append_lineFeed]
  | quote h =>
    subst h
    exact stringExtent_append_lineFeed cs ds
  | slash h =>
    subst h
    rw [firstExtent_slash] at ht
    rw [firstExtent_slash, firstExtent_slash, operatorExtent_append_lineFeed,
      commentExtent?_append_lineFeed]
    intro e he
    rw [Option.mem_def.1 he, Option.getD_some] at ht
    exact ht
  | other h => rw [h, h, operatorExtent_append_lineFeed]

/-! ## The longest piece -/

/-- A character begins nothing in every text or in none.

**Proof sketch.** By what begins with the first character. A rule with a class of its own cuts off a
piece of this class, which is no invalid character. What remains is a character for the operators,
and whether one begins with it is a matter of the character alone. -/
lemma firstExtent_tag_of_invalidChar {c : Char} {cs : List Char}
    (h : (firstExtent c cs).tag = .invalidChar) (ds : List Char) :
    (firstExtent c ds).tag = .invalidChar := by
  cases opening c with
  | blank hc =>
    rw [firstExtent_of_isBlank hc] at h
    exact absurd h (by simp)
  | carriageReturn hc =>
    subst hc
    obtain ⟨piece, rest, -, -, hform⟩ := carriageReturnExtent_cut cs
    rw [firstExtent_carriageReturn] at h
    rw [h] at hform
    exact hform.elim
  | lineFeed hc =>
    subst hc
    exact absurd h (by simp [firstExtent_lineFeed])
  | letter hc =>
    rw [firstExtent_of_isIdentifierStart hc] at h
    exact absurd h (by simp)
  | digit hc =>
    obtain ⟨piece, rest, -, -, hform⟩ := numberExtent_cut hc cs
    rw [firstExtent_of_isDigit hc] at h
    rw [h] at hform
    exact hform.elim
  | quote hc =>
    subst hc
    obtain ⟨piece, rest, -, -, hform⟩ := stringExtent_cut cs
    rw [firstExtent_quote] at h
    rw [h] at hform
    exact hform.elim
  | slash hc =>
    subst hc
    rw [firstExtent_slash] at h
    cases he : commentExtent? cs with
    | none =>
      rw [he] at h
      exact absurd (operatorExtent_tag_of_invalidChar h []) (by decide)
    | some e =>
      obtain ⟨piece, rest, -, -, hform⟩ := commentExtent?_cut he
      rw [he, Option.getD_some] at h
      rw [h] at hform
      exact hform.elim
  | other hc =>
    rw [hc] at h ⊢
    exact operatorExtent_tag_of_invalidChar h ds

/-- Where the first character begins nothing, no piece of any class is at the start of the text. -/
theorem not_form_of_invalidChar {c : Char} {cs : List Char}
    (h : (firstExtent c cs).tag = .invalidChar) {t : Tag} {piece : List Char}
    (hpiece : piece <+: c :: cs) : ¬t.Form piece := by
  intro hform
  rcases piece with _ | ⟨d, piece⟩
  · exact hform.ne_nil rfl
  · obtain ⟨rest, hrest⟩ := hpiece
    obtain ⟨rfl, -⟩ := List.cons.inj hrest
    have ht := firstExtent_tag_of_invalidChar h piece
    rw [firstExtent_of_form hform] at ht
    obtain rfl : t = .invalidChar := ht
    exact hform

/-- The first lexeme is the longest piece at the start of the text that lies in any class, unless
its first character begins nothing.

**Proof sketch.** Any other piece at the start is cut off as a whole where it stands alone
(`firstExtent_of_form`), and the first lexeme does not get shorter when the rest of the text is put
behind it (`firstExtent_append_le`). -/
theorem firstExtent_isLongest {c : Char} {cs : List Char}
    (h : (firstExtent c cs).tag ≠ .invalidChar) :
    (firstExtent c cs).tag.IsLongest (c :: cs.take (firstExtent c cs).more) (c :: cs) := by
  obtain ⟨piece, rest, hcs, hlen, hinvalid | hform⟩ := firstExtent_cut c cs
  · exact absurd hinvalid.1 h
  · have hpiece : cs.take (firstExtent c cs).more = piece := by
      rw [hlen, hcs, List.take_left]
    rw [hpiece]
    refine ⟨⟨rest, by rw [hcs]; rfl⟩, hform, fun u other hprefix hother => ?_⟩
    rcases other with _ | ⟨d, other⟩
    · exact Nat.zero_le _
    · obtain ⟨ds, hds⟩ := hprefix
      obtain ⟨rfl, rfl⟩ := List.cons.inj hds
      have hle : (firstExtent d other).more ≤ piece.length :=
        hlen ▸ firstExtent_append_le d other ds
      rw [firstExtent_of_form hother] at hle
      exact Nat.succ_le_succ hle

end LexicalFront
