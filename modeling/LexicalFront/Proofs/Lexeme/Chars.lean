import LexicalFront.Proofs.Lexeme.First
import LexicalFront.Proofs.Text.Ascii
import Mathlib.Data.List.Infix
set_option autoImplicit false
set_option relaxedAutoImplicit false

/-!
# The characters of lexemes

Which characters the tests of the rules let pass, and which ones a lexeme can hold: blanks and line
breaks stand in few classes only, and which those are decides what can be said about whitespace and
about lines.

## Main definitions

* `LexicalFront.isSpace` — blanks and line breaks.
* `LexicalFront.NoLoneReturn` — texts in which carriage returns stand before line feeds only.
* `LexicalFront.Tag.isSolid`, `LexicalFront.Tag.isOfOneLine` — the tags whose lexemes hold no
  spaces, and those whose lexemes hold no line breaks.

## Main results

* `LexicalFront.isSpace_eq_false_of_mem_lexemes` — words, numbers, operators and characters that
  begin nothing hold no spaces.
* `LexicalFront.isBreak_eq_false_of_mem_lexemes` — strings and line comments hold no line breaks
  either.
-/

namespace LexicalFront

/-! ## Tests that the rules make -/

/-- Blanks are ASCII characters. -/
lemma asciiOnly_isBlank : AsciiOnly isBlank := by
  intro x hx
  simp only [isBlank, Bool.or_eq_true, beq_iff_eq] at hx
  rcases hx with ((rfl | rfl) | rfl) | rfl <;> decide

/-- Line breaks are ASCII characters. -/
lemma asciiOnly_isBreak : AsciiOnly isBreak := by
  intro x hx
  simp only [isBreak, Bool.or_eq_true, beq_iff_eq] at hx
  rcases hx with rfl | rfl <;> decide

/-- ASCII letters are ASCII characters. -/
lemma asciiOnly_isAsciiLetter : AsciiOnly isAsciiLetter := by
  intro x hx
  simp only [isAsciiLetter, Bool.or_eq_true, Bool.and_eq_true, decide_eq_true_eq] at hx
  rcases hx with hx | hx
  · exact Nat.lt_of_le_of_lt hx.2 (by decide)
  · exact Nat.lt_of_le_of_lt hx.2 (by decide)

/-- Digits are ASCII characters. -/
lemma asciiOnly_isDigit (r : Radix) : AsciiOnly r.isDigit := by
  intro x hx
  cases r <;> simp only [Radix.isDigit, Bool.or_eq_true, Bool.and_eq_true, decide_eq_true_eq,
    beq_iff_eq] at hx
  case binary => rcases hx with rfl | rfl <;> decide
  case hexadecimal =>
    rcases hx with (hx | hx) | hx <;> exact Nat.lt_of_le_of_lt hx.2 (by decide)
  all_goals exact Nat.lt_of_le_of_lt hx.2 (by decide)

/-- So are digits and underscores. -/
lemma asciiOnly_isDigitOrUnderscore (r : Radix) : AsciiOnly r.isDigitOrUnderscore := by
  intro x hx
  rw [Radix.isDigitOrUnderscore, Bool.or_eq_true, beq_iff_eq] at hx
  rcases hx with hx | rfl
  · exact asciiOnly_isDigit r x hx
  · decide

/-! ## Numbers -/

section Number

variable {P : Char → Prop} {r : Radix} {cs : List Char}

/-- All characters of a decimal number are digits or underscores. -/
lemma IsDecimal.forall_mem (h : IsDecimal cs) : IsDigitRun .decimal cs := by
  obtain ⟨d, ds, rfl, hd, hds⟩ := h
  refine List.forall_mem_cons.2 ⟨?_, hds⟩
  rw [Radix.isDigitOrUnderscore, hd, Bool.true_or]

variable (hdigit : ∀ x, Radix.decimal.isDigitOrUnderscore x = true → P x)

include hdigit

/-- What holds of points and digits holds of the characters of fractions. -/
lemma IsFraction.forall_mem (h : IsFraction cs) (hpoint : P '.') : ∀ x ∈ cs, P x := by
  obtain ⟨ds, rfl, hds⟩ := h
  exact List.forall_mem_cons.2 ⟨hpoint, fun x hx => hdigit x (hds.forall_mem x hx)⟩

/-- What holds of the letters, of signs and of digits holds of the characters of exponents. -/
lemma IsExponent.forall_mem (h : IsExponent cs) (hletter : P 'e' ∧ P 'E')
    (hmark : P '+' ∧ P '-') : ∀ x ∈ cs, P x := by
  obtain ⟨e, sign, ds, rfl, he, hsign, hds⟩ := h
  refine List.forall_mem_cons.2 ⟨?_, List.forall_mem_append.2 ⟨?_, ?_⟩⟩
  · rcases he with rfl | rfl
    · exact hletter.1
    · exact hletter.2
  · rcases hsign with rfl | rfl | rfl
    · exact fun x hx => absurd hx List.not_mem_nil
    · exact List.forall_mem_singleton.2 hmark.1
    · exact List.forall_mem_singleton.2 hmark.2
  · exact fun x hx => hdigit x (hds.forall_mem x hx)

end Number

/-! ## Spaces -/

/-- Blanks and characters that break lines. -/
def isSpace (c : Char) : Bool := isBlank c || isBreak c

/-- All of them. -/
def spaces : List Char := [' ', '\t', '\x0b', '\x0c', '\n', '\r']

lemma mem_spaces_of_isSpace {x : Char} (h : isSpace x = true) : x ∈ spaces := by
  simp only [isSpace, isBlank, isBreak, Bool.or_eq_true, beq_iff_eq] at h
  rcases h with (((rfl | rfl) | rfl) | rfl) | rfl | rfl <;> decide

/-- What passes a test that no space passes is no space. -/
lemma isSpace_eq_false_of {p : Char → Bool} (hp : spaces.any p = false) {x : Char}
    (hx : p x = true) : isSpace x = false := by
  rw [Bool.eq_false_iff]
  exact fun hspace => List.any_eq_false.1 hp x (mem_spaces_of_isSpace hspace) hx

/-- No digit is a space. -/
lemma isSpace_eq_false_of_isDigitOrUnderscore {r : Radix} {x : Char}
    (hx : r.isDigitOrUnderscore x = true) : isSpace x = false := by
  refine isSpace_eq_false_of ?_ hx
  cases r <;> decide

/-- No character of a word is a space. -/
lemma isSpace_eq_false_of_isIdentifierPart {x : Char} (hx : isIdentifierPart x = true) :
    isSpace x = false :=
  isSpace_eq_false_of (by decide) hx

/-- Nor is the first one. -/
lemma isSpace_eq_false_of_isIdentifierStart {x : Char} (hx : isIdentifierStart x = true) :
    isSpace x = false :=
  isSpace_eq_false_of (by decide) hx

/-- No letter of a base is a space. -/
lemma isSpace_eq_false_of_ofMark? {m : Char} {r : Radix} (h : Radix.ofMark? m = some r) :
    isSpace m = false :=
  isSpace_eq_false_of (p := fun x => (Radix.ofMark? x).isSome) (by decide) (by rw [h]; rfl)

/-- Numbers with the letter of a base hold no spaces. -/
lemma IsRadixRun.isSpace_eq_false {r : Radix} {ds cs : List Char} (h : IsRadixRun r ds cs) :
    ∀ x ∈ cs, isSpace x = false := by
  obtain ⟨m, rfl, hm, hds⟩ := h
  refine List.forall_mem_cons.2 ⟨by decide, List.forall_mem_cons.2 ⟨?_, fun x hx => ?_⟩⟩
  · exact isSpace_eq_false_of_ofMark? hm
  · exact isSpace_eq_false_of_isDigitOrUnderscore (hds x hx)

/-- Decimal numbers hold no spaces. -/
lemma IsDecimal.isSpace_eq_false {cs : List Char} (h : IsDecimal cs) :
    ∀ x ∈ cs, isSpace x = false :=
  fun x hx => isSpace_eq_false_of_isDigitOrUnderscore (h.forall_mem x hx)

/-- Integers hold no spaces. -/
lemma IsInteger.isSpace_eq_false {r : Radix} {cs : List Char} (h : IsInteger r cs) :
    ∀ x ∈ cs, isSpace x = false := by
  cases r with
  | decimal => exact IsDecimal.isSpace_eq_false h
  | _ =>
    obtain ⟨ds, hrun, -⟩ := h
    exact hrun.isSpace_eq_false

/-- Floats hold no spaces. -/
lemma IsFloat.isSpace_eq_false {cs : List Char} (h : IsFloat cs) :
    ∀ x ∈ cs, isSpace x = false := by
  obtain ⟨whole, fraction, exponent, rfl, hwhole, hfraction, hexponent, -⟩ := h
  have hdigit (x : Char) (hx : Radix.decimal.isDigitOrUnderscore x = true) : isSpace x = false :=
    isSpace_eq_false_of_isDigitOrUnderscore hx
  refine List.forall_mem_append.2 ⟨List.forall_mem_append.2 ⟨hwhole.isSpace_eq_false, ?_⟩, ?_⟩
  · rcases hfraction with rfl | hfraction
    · exact fun x hx => absurd hx List.not_mem_nil
    · exact hfraction.forall_mem hdigit (by decide)
  · rcases hexponent with rfl | hexponent
    · exact fun x hx => absurd hx List.not_mem_nil
    · exact hexponent.forall_mem hdigit (by decide) (by decide)

/-- Operators hold no spaces. -/
lemma Operator.isSpace_eq_false_of_mem_spelling {o : Operator} {x : Char}
    (hx : x ∈ o.spelling.toList) : isSpace x = false := by
  have hall : ∀ o ∈ all, o.spelling.toList.any isSpace = false := by decide
  rw [Bool.eq_false_iff]
  exact List.any_eq_false.1 (hall o (mem_all o)) x hx

/-! ## Carriage returns -/

/-- Without a line feed behind it, a carriage return is a blank by itself. -/
lemma carriageReturnExtent_of_ne {cs : List Char} (h : cs.head? ≠ some '\n') :
    carriageReturnExtent cs = ⟨.whitespace, 0⟩ := by
  refine carriageReturnExtent.eq_2 cs fun rest hrest => ?_
  rw [hrest] at h
  exact h rfl

/-- Every carriage return of the text has a line feed behind it. -/
def NoLoneReturn (cs : List Char) : Prop := ∀ rest, '\r' :: rest <:+ cs → rest.head? = some '\n'

instance (cs : List Char) : Decidable (NoLoneReturn cs) :=
  decidable_of_iff (∀ l ∈ cs.tails, l.head? = some '\r' → l.tail.head? = some '\n') <| by
    constructor
    · exact fun h rest hrest => h _ ((List.mem_tails _ _).2 hrest) rfl
    · intro h l hl hreturn
      obtain ⟨rest, rfl⟩ := List.head?_eq_some_iff.1 hreturn
      exact h rest ((List.mem_tails _ _).1 hl)

/-! ## Classes without spaces, and without line breaks -/

/-- Tags whose lexemes hold neither blanks nor line breaks. -/
def Tag.isSolid : Tag → Bool
  | identifier | integer _ | float | operator _ | missingRadixDigits | invalidChar => true
  | _ => false

/-- Words, numbers and operators hold no spaces. -/
lemma Tag.Form.isSpace_eq_false {t : Tag} {cs : List Char} (h : t.Form cs)
    (ht : t.isSolid = true) : ∀ x ∈ cs, isSpace x = false := by
  cases t with
  | identifier =>
    obtain ⟨c, rest, rfl, hc, hrest⟩ := h
    refine List.forall_mem_cons.2 ⟨isSpace_eq_false_of_isIdentifierStart hc, fun x hx => ?_⟩
    exact isSpace_eq_false_of_isIdentifierPart (hrest x hx)
  | integer r => exact IsInteger.isSpace_eq_false h
  | float => exact IsFloat.isSpace_eq_false h
  | operator o =>
    rw [Form] at h
    rw [h]
    exact fun x hx => Operator.isSpace_eq_false_of_mem_spelling hx
  | missingRadixDigits =>
    obtain ⟨r, ds, hrun, -⟩ := h
    exact hrun.isSpace_eq_false
  | invalidChar => exact h.elim
  | _ => exact absurd ht Bool.false_ne_true

/-- Inside a string there is no line break. -/
lemma IsStringBody.isBreak_eq_false {cs : List Char} (h : IsStringBody cs) :
    ∀ x ∈ cs, isBreak x = false := by
  induction h with
  | nil => exact fun x hx => absurd hx List.not_mem_nil
  | plain _ _ hc _ ih => exact List.forall_mem_cons.2 ⟨hc, ih⟩
  | escaped hc _ ih =>
    exact List.forall_mem_cons.2 ⟨by decide, List.forall_mem_cons.2 ⟨hc, ih⟩⟩

/-- Tags whose lexemes stay on their line. -/
def Tag.isOfOneLine : Tag → Bool
  | string | unterminatedString | lineComment => true
  | t => t.isSolid

/-- Apart from trivia, only an open block comment goes on behind its line. -/
lemma Tag.isOfOneLine_of_group {t : Tag} (htrivia : t.group ≠ .trivia)
    (hopen : t ≠ .unterminatedBlockComment) (hend : t ≠ .endOfInput) : t.isOfOneLine = true := by
  cases t <;> simp_all [group, isOfOneLine, isSolid]

/-- Strings and line comments hold no line break either. -/
lemma Tag.Form.isBreak_eq_false {t : Tag} {cs : List Char} (h : t.Form cs)
    (ht : t.isOfOneLine = true) : ∀ x ∈ cs, isBreak x = false := by
  have hquote : isBreak '"' = false := by decide
  cases t with
  | string =>
    obtain ⟨body, rfl, hbody⟩ := h
    refine List.forall_mem_cons.2 ⟨hquote, List.forall_mem_append.2 ⟨hbody.isBreak_eq_false, ?_⟩⟩
    simpa using hquote
  | unterminatedString =>
    obtain ⟨body, hbody, rfl | rfl⟩ := h
    · exact List.forall_mem_cons.2 ⟨hquote, hbody.isBreak_eq_false⟩
    · refine List.forall_mem_cons.2 ⟨hquote, List.forall_mem_append.2 ⟨hbody.isBreak_eq_false, ?_⟩⟩
      simp [isBreak]
  | lineComment =>
    obtain ⟨body, rfl, hbody⟩ := h
    exact List.forall_mem_cons.2 ⟨by decide, List.forall_mem_cons.2 ⟨by decide, hbody⟩⟩
  | _ =>
    intro x hx
    have hspace := h.isSpace_eq_false ht x hx
    rw [isSpace, Bool.or_eq_false_iff] at hspace
    exact hspace.2

/-! ## Lexemes of a text -/

/-- A lexeme of a text is in the class of its tag, or a character that begins nothing in any
text. -/
theorem form_of_mem_lexemes {cs : List Char} {l : Lexeme} (h : l ∈ lexemes cs) :
    l.tag.Form l.chars ∨
      ∃ c, l = ⟨.invalidChar, [c]⟩ ∧ ∀ ds, (firstExtent c ds).tag = .invalidChar := by
  fun_induction lexemes cs with
  | case1 => exact absurd h List.not_mem_nil
  | case2 c cs extent ih =>
    rcases List.mem_cons.1 h with rfl | h
    · obtain ⟨piece, rest, hcs, hlen, ⟨htag, rfl⟩ | hform⟩ := firstExtent_cut c cs
      · refine .inr ⟨c, ?_, firstExtent_tag_of_invalidChar htag⟩
        rw [htag, hlen]
        rfl
      · have hpiece : cs.take (firstExtent c cs).more = piece := by
          rw [hlen, hcs, List.take_left]
        exact .inl (by rw [hpiece]; exact hform)
    · exact ih h

/-- The end of the text is no lexeme. -/
lemma tag_ne_endOfInput_of_mem_lexemes {cs : List Char} {l : Lexeme} (h : l ∈ lexemes cs) :
    l.tag ≠ .endOfInput := by
  rcases form_of_mem_lexemes h with hform | ⟨c, rfl, -⟩
  · intro htag
    rw [htag] at hform
    exact hform
  · exact nofun

/-- A character that begins nothing is no space. -/
lemma isSpace_eq_false_of_invalidChar {c : Char} {cs : List Char}
    (h : (firstExtent c cs).tag = .invalidChar) : isSpace c = false := by
  refine isSpace_eq_false_of (p := fun x => (firstExtent x []).tag == .invalidChar) (by decide) ?_
  exact beq_iff_eq.2 (firstExtent_tag_of_invalidChar h [])

/-- Words, numbers, operators and characters that begin nothing hold no spaces. -/
theorem isSpace_eq_false_of_mem_lexemes {cs : List Char} {l : Lexeme} (h : l ∈ lexemes cs)
    (ht : l.tag.isSolid = true) : ∀ x ∈ l.chars, isSpace x = false := by
  rcases form_of_mem_lexemes h with hform | ⟨c, rfl, hc⟩
  · exact hform.isSpace_eq_false ht
  · intro x hx
    rw [List.mem_singleton.1 hx]
    exact isSpace_eq_false_of_invalidChar (hc [])

/-- Strings and line comments hold no line breaks either. -/
theorem isBreak_eq_false_of_mem_lexemes {cs : List Char} {l : Lexeme} (h : l ∈ lexemes cs)
    (ht : l.tag.isOfOneLine = true) : ∀ x ∈ l.chars, isBreak x = false := by
  rcases form_of_mem_lexemes h with hform | ⟨c, rfl, hc⟩
  · exact hform.isBreak_eq_false ht
  · intro x hx
    have hspace := isSpace_eq_false_of_invalidChar (hc [])
    rw [isSpace, Bool.or_eq_false_iff] at hspace
    rw [List.mem_singleton.1 hx]
    exact hspace.2

end LexicalFront
