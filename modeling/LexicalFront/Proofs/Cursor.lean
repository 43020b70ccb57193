import LexicalFront.Proofs.Lexeme.Chars
import LexicalFront.Scanner
import Mathlib.Data.List.GetD
set_option autoImplicit false
set_option relaxedAutoImplicit false

/-!
# Cursors between and inside characters

A cursor that is neither inside a character nor past the end stands before the characters that are
left, and what it reads and how far it moves depends on these alone. This module says so for every
way of reading and moving: each move is over the bytes of an initial segment of the characters that
are left, so that the cursor stands between two characters again. Inside a character no other one
starts, and no byte is that of an ASCII character.

## Main definitions

* `LexicalFront.Cursor.Before` — the cursor stands before some characters.
* `LexicalFront.Cursor.Ahead` — they begin some ASCII characters away.
* `LexicalFront.Cursor.Inside` — the cursor stands inside a character.

## Main results

* `LexicalFront.Cursor.Ahead.peek` — what a rule learns from the byte at some distance.
* `LexicalFront.Cursor.Before.eatChars`, `LexicalFront.Cursor.Before.eatLine`,
  `LexicalFront.Cursor.Before.skipToStringMark`, `LexicalFront.Cursor.Before.eatBlockComment` — the
  loops over bytes and the searches.
* `LexicalFront.Cursor.Before.eatWord`, `LexicalFront.Cursor.Before.eatString`,
  `LexicalFront.Cursor.Before.eatFraction?`, `LexicalFront.Cursor.Before.eatExponent?` — the longer
  parts of a lexeme.
* `LexicalFront.Cursor.before_or_inside` — where a cursor may stand.
-/

namespace LexicalFront

/-! ## Offsets -/

/-- Before the end of a text each offset is at a character or inside one. -/
lemma exists_char_of_lt {cs : List Char} {n : Nat} (h : n < utf8Length cs) :
    ∃ front x rest, cs = front ++ x :: rest ∧ utf8Length front ≤ n ∧
      n < utf8Length front + x.utf8Size := by
  induction cs generalizing n with
  | nil => exact absurd h (Nat.not_lt_zero n)
  | cons x cs ih =>
    rcases Nat.lt_or_ge n x.utf8Size with hlt | hge
    · exact ⟨[], x, cs, rfl, Nat.zero_le n, by rwa [utf8Length_nil, Nat.zero_add]⟩
    · rw [utf8Length_cons] at h
      obtain ⟨front, y, rest, rfl, hle, hlt⟩ := ih (n := n - x.utf8Size) (by omega)
      refine ⟨x :: front, y, rest, rfl, ?_, ?_⟩ <;> rw [utf8Length_cons] <;> omega

namespace Cursor

/-! ## Standing before characters -/

/-- The cursor stands between two characters, before the ones given. -/
def Before (c : Cursor) (cs : List Char) : Prop := c.remaining? = some cs

@[simp] lemma advance_advance (c : Cursor) (m n : Nat) :
    (c.advance m).advance n = c.advance (m + n) :=
  congrArg (Cursor.mk c.source) (Nat.add_assoc c.pos m n)

@[simp] lemma advance_zero (c : Cursor) : c.advance 0 = c := rfl

@[simp] lemma advance_pos (c : Cursor) (n : Nat) : (c.advance n).pos = c.pos + n := rfl

@[simp] lemma advance_source (c : Cursor) (n : Nat) : (c.advance n).source = c.source := rfl

/-- What is read at a distance is read from the bytes that are left. -/
lemma lookahead_eq_getD (c : Cursor) (n : Nat) : c.lookahead n = c.rest.getD n 0 := by
  rw [lookahead, rest, List.getD_eq_getElem?_getD, List.getD_eq_getElem?_getD, List.getElem?_drop]

/-- Behind some characters of a text the cursor stands before the others. -/
lemma before_append (front cs : List Char) :
    Before ⟨String.ofList (front ++ cs), utf8Length front⟩ cs := by
  rw [Before, remaining?, String.toList_ofList]
  exact dropBytes?_eq_some_iff.2 ⟨front, rfl, rfl⟩

namespace Before

section

variable {c : Cursor} {cs : List Char} (h : c.Before cs)

include h

/-- The characters before the cursor have as many bytes as the position says. -/
lemma exists_front : ∃ front, c.source.toList = front ++ cs ∧ utf8Length front = c.pos :=
  dropBytes?_eq_some_iff.1 h

/-- The bytes that are left are those of the characters. -/
lemma rest_eq : c.rest = utf8Bytes cs := by
  obtain ⟨front, hsource, hlen⟩ := h.exists_front
  rw [rest, hsource, utf8Bytes_append, ← hlen, ← length_utf8Bytes, List.drop_left]

/-- So is their number. -/
lemma sourceLength_eq : c.sourceLength = c.pos + utf8Length cs := by
  obtain ⟨front, hsource, hlen⟩ := h.exists_front
  rw [sourceLength, ← utf8Length_toList, hsource, utf8Length_append, hlen]

/-- The text is used up when no character is left. -/
lemma atEnd_iff : c.atEnd = true ↔ cs = [] := by
  rw [atEnd, decide_eq_true_eq, h.sourceLength_eq, ← utf8Length_eq_zero]
  omega

/-- The character at the cursor is the first one that is left. -/
lemma char?_eq : c.char? = cs.head? := by
  rw [char?, h]
  rfl

/-- The whole rest of the text is moved over. -/
lemma toEnd_eq : c.toEnd = c.advance (utf8Length cs) :=
  congrArg (Cursor.mk c.source) h.sourceLength_eq

end

/-- A move over characters ends before the ones behind them. -/
lemma advance {c : Cursor} {front cs : List Char} (h : c.Before (front ++ cs)) :
    (c.advance (utf8Length front)).Before cs := by
  obtain ⟨before, hsource, hlen⟩ := h.exists_front
  refine dropBytes?_eq_some_iff.2 ⟨before ++ front, ?_, ?_⟩
  · rw [advance_source, hsource, List.append_assoc]
  · rw [utf8Length_append, hlen, advance_pos]

/-- A move over one character ends before the next one. -/
lemma tail {c : Cursor} {x : Char} {cs : List Char} (h : c.Before (x :: cs)) :
    (c.advance x.utf8Size).Before cs := by
  have hone : c.Before ([x] ++ cs) := h
  simpa using hone.advance

/-- A move over one character. -/
lemma advanceChar_eq {c : Cursor} {x : Char} {cs : List Char} (h : c.Before (x :: cs)) :
    c.advanceChar = c.advance x.utf8Size := by
  rw [advanceChar, h.char?_eq]
  rfl

/-- The text that was moved over. -/
lemma sliceFrom_eq {c : Cursor} {front cs : List Char} (h : c.Before (front ++ cs)) :
    (c.advance (utf8Length front)).sliceFrom c.pos = String.ofList front := by
  obtain ⟨before, hsource, hlen⟩ := h.exists_front
  have htext : c.source = String.ofList (before ++ front ++ cs) := by
    rw [← String.toList_inj, hsource, String.toList_ofList, List.append_assoc]
  rw [sliceFrom, slice, advance_source, advance_pos, htext, ← hlen, sliceBytes?_append,
    Option.getD_some]

end Before

/-! ## Reading -/

/-- Some ASCII characters away from the cursor, the others of the text begin. -/
def Ahead (c : Cursor) (n : Nat) (cs : List Char) : Prop :=
  ∃ front, c.Before (front ++ cs) ∧ (∀ x ∈ front, IsAscii x) ∧ front.length = n

namespace Ahead

variable {c : Cursor} {n : Nat} {cs : List Char}

/-- At the cursor the characters that are left begin. -/
lemma of_before (h : c.Before cs) : c.Ahead 0 cs :=
  ⟨[], h, fun _ hx => absurd hx List.not_mem_nil, rfl⟩

/-- Behind an ASCII character the next one is one byte further away. -/
lemma succ {x : Char} (h : c.Ahead n (x :: cs)) (hx : IsAscii x) : c.Ahead (n + 1) cs := by
  obtain ⟨front, hbefore, hfront, rfl⟩ := h
  refine ⟨front ++ [x], ?_, ?_, ?_⟩
  · rw [List.append_assoc]
    exact hbefore
  · rw [List.forall_mem_append]
    exact ⟨hfront, by simpa using hx⟩
  · rw [List.length_append, List.length_singleton]

/-- Behind ASCII characters the next ones are as many bytes further away. -/
lemma append {front : List Char} (h : c.Ahead n (front ++ cs)) (hfront : ∀ x ∈ front, IsAscii x) :
    c.Ahead (n + front.length) cs := by
  induction front generalizing n with
  | nil => exact h
  | cons x front ih =>
    rw [List.forall_mem_cons] at hfront
    rw [List.length_cons, Nat.add_comm front.length, ← Nat.add_assoc]
    exact ih (h.succ hfront.1) hfront.2

/-- A move over ASCII characters is by as many bytes. -/
lemma advance (h : c.Ahead n cs) : (c.advance n).Before cs := by
  obtain ⟨front, hbefore, hfront, rfl⟩ := h
  rw [← utf8Length_of_isAscii hfront]
  exact hbefore.advance

/-- A rule that tells only ASCII characters apart, and these from zero, learns from the byte at a
distance what the character there is. -/
lemma peek (h : c.Ahead n cs) {α : Sort*} {f : Char → α} {d : α} (hzero : f '\x00' = d)
    (hf : ∀ x, ¬IsAscii x → f x = d) : f (c.peek n) = cs.head?.elim d f := by
  obtain ⟨front, hbefore, hfront, rfl⟩ := h
  have hbyte : c.lookahead front.length = (utf8Bytes cs).getD 0 0 := by
    rw [lookahead_eq_getD, hbefore.rest_eq, utf8Bytes_append, ← utf8Length_of_isAscii hfront,
      ← length_utf8Bytes, List.getD_append_right _ _ _ _ le_rfl, Nat.sub_self]
  rw [Cursor.peek, hbyte]
  cases cs with
  | nil => exact hzero
  | cons x cs =>
    rw [List.head?_cons, Option.elim_some, utf8Bytes_cons]
    by_cases hx : IsAscii x
    · rw [utf8EncodeChar_of_isAscii hx, List.singleton_append, List.getD_cons_zero,
        ofUInt8_of_isAscii hx]
    · obtain ⟨b, bytes, hb⟩ := List.exists_cons_of_ne_nil (String.utf8EncodeChar_ne_nil (c := x))
      have hlarge := le_of_mem_utf8EncodeChar hx (hb ▸ List.mem_cons_self)
      rw [hb, List.cons_append, List.getD_cons_zero, hf _ (not_isAscii_ofUInt8 hlarge), hf x hx]

/-- Whether the character at a distance is a given one. -/
lemma peek_eq_iff (h : c.Ahead n cs) {y : Char} (hy : IsAscii y) (h0 : y ≠ '\x00') :
    c.peek n = y ↔ cs.head? = some y := by
  have heq := h.peek (f := fun x => x = y) (d := False) (eq_false h0.symm)
    fun x hx => eq_false fun hxy => hx (hxy ▸ hy)
  rw [heq]
  cases cs with
  | nil => simp
  | cons x cs => simp

/-- Whether the character at a distance passes a test. -/
lemma test (h : c.Ahead n cs) {p : Char → Bool} (hp : AsciiOnly p) (h0 : p '\x00' = false) :
    p (c.peek n) = cs.head?.any p := by
  rw [h.peek h0 fun x hx => hp.eq_false hx]
  cases cs <;> rfl

/-- Behind a sign, if there is one, a rule looks one byte further. -/
lemma behind_sign (h : c.Ahead n cs) :
    (if c.peek n = '+' ∨ c.peek n = '-' then n + 1 else n) = n + signLength cs := by
  have hread := h.peek (f := fun x => if x = '+' ∨ x = '-' then n + 1 else n) rfl
    fun x hx => if_neg (by rintro (rfl | rfl) <;> exact hx (by decide))
  refine hread.trans ?_
  rcases cs with _ | ⟨x, cs⟩
  · rfl
  · rw [List.head?_cons, Option.elim_some, signLength]
    split_ifs <;> rfl

/-- A sign is an ASCII character. -/
lemma sign (h : c.Ahead n cs) : c.Ahead (n + signLength cs) (cs.drop (signLength cs)) := by
  obtain ⟨sign, rest, rfl, hlen, hsign⟩ := signLength_cut cs
  rw [hlen, List.drop_left]
  rcases hsign with rfl | rfl | rfl
  · exact h
  · exact h.succ (by decide)
  · exact h.succ (by decide)

end Ahead

namespace Before

/-- An ASCII character at the cursor is read as itself. -/
lemma peek_of_isAscii {c : Cursor} {x : Char} {cs : List Char} (h : c.Before (x :: cs))
    (hx : IsAscii x) : c.peek 0 = x := by
  rw [Cursor.peek, lookahead_eq_getD, h.rest_eq, utf8Bytes_cons, utf8EncodeChar_of_isAscii hx,
    List.singleton_append, List.getD_cons_zero, ofUInt8_of_isAscii hx]

/-- Exactly the other characters are read as large bytes. -/
lemma le_current_iff {c : Cursor} {x : Char} {cs : List Char} (h : c.Before (x :: cs)) :
    0x80 ≤ c.current ↔ ¬IsAscii x := by
  constructor
  · intro hlarge hx
    have hread : ¬IsAscii (c.peek 0) := not_isAscii_ofUInt8 hlarge
    rw [h.peek_of_isAscii hx] at hread
    exact hread hx
  · intro hx
    obtain ⟨b, bytes, hb⟩ := List.exists_cons_of_ne_nil (String.utf8EncodeChar_ne_nil (c := x))
    rw [current, lookahead_eq_getD, h.rest_eq, utf8Bytes_cons, hb, List.cons_append,
      List.getD_cons_zero]
    exact le_of_mem_utf8EncodeChar hx (hb ▸ List.mem_cons_self)

/-! ## Runs and searches -/

/-- A run of bytes that pass a test is a run of characters. -/
lemma eatChars {c : Cursor} {cs : List Char} (h : c.Before cs) {p : Char → Bool}
    (hp : AsciiOnly p) : c.eatChars p = c.advance (utf8Length (cs.takeWhile p)) := by
  rw [Cursor.eatChars, eatWhile, h.rest_eq, takeWhile_utf8Bytes hp]

/-- The next line break is the first character that is one. -/
lemma eatLine {c : Cursor} {cs : List Char} (h : c.Before cs) :
    c.eatLine = c.advance (utf8Length (cs.takeWhile (!isBreak ·))) := by
  have hbytes : (fun b : UInt8 => b == 0x0a || b == 0x0d) = fun b => isBreak (Char.ofUInt8 b) := by
    funext b
    rw [isBreak, ← beq_ofNat_toNat b (x := '\n') (by decide),
      ← beq_ofNat_toNat b (x := '\r') (by decide)]
    rfl
  rw [Cursor.eatLine, findByte?, hbytes, h.rest_eq, findIdx?_utf8Bytes asciiOnly_isBreak]
  split_ifs with hany
  · rfl
  · have hall : cs.takeWhile (!isBreak ·) = cs := by
      rw [List.takeWhile_eq_self_iff]
      intro x hx
      rw [Bool.not_eq_true, List.any_eq_false] at hany
      rw [Bool.eq_false_iff.2 (hany x hx)]
      rfl
    rw [hall]
    exact h.toEnd_eq

/-- Of two searches the earlier hit is that of a search for either. -/
lemma earliest?_findIdx? {α : Type} (p q : α → Bool) (l : List α) :
    earliest? (l.findIdx? p) (l.findIdx? q) = l.findIdx? fun a => p a || q a := by
  induction l with
  | nil => rfl
  | cons a l ih =>
    rw [List.findIdx?_cons, List.findIdx?_cons, List.findIdx?_cons, ← ih]
    cases p a <;> cases q a <;> cases l.findIdx? p <;> cases l.findIdx? q <;>
      simp [earliest?]

/-- The characters that matter inside a string. -/
def isStringMark (x : Char) : Bool := x == '"' || x == '\\' || isBreak x

/-- They are ASCII characters. -/
lemma asciiOnly_isStringMark : AsciiOnly isStringMark := by
  intro x hx
  simp only [isStringMark, Bool.or_eq_true, beq_iff_eq] at hx
  rcases hx with (rfl | rfl) | hx
  · decide
  · decide
  · exact asciiOnly_isBreak x hx

/-- The next byte that matters inside a string is the first character that does.

**Proof sketch.** The bytes that matter are ASCII, so that the search on bytes is the search on
characters (`findIdx?_utf8Bytes`). Then cut the text at the first such character: if there is none
the cursor goes to the end, and else the byte that is told is that character. -/
lemma skipToStringMark {c : Cursor} {cs : List Char} (h : c.Before cs) :
    c.skipToStringMark = (c.advance (utf8Length (cs.takeWhile (!isStringMark ·))),
      (cs.dropWhile (!isStringMark ·)).head?.elim 0 fun x => UInt8.ofNat x.toNat) := by
  have hbytes : (fun b : UInt8 => (b == 0x22 || b == 0x5c || b == 0x0a) || b == 0x0d) =
      fun b => isStringMark (Char.ofUInt8 b) := by
    funext b
    rw [isStringMark, isBreak, ← beq_ofNat_toNat b (x := '"') (by decide),
      ← beq_ofNat_toNat b (x := '\\') (by decide), ← beq_ofNat_toNat b (x := '\n') (by decide),
      ← beq_ofNat_toNat b (x := '\r') (by decide), ← Bool.or_assoc]
    rfl
  rw [Cursor.skipToStringMark, findByte?, findByte?, earliest?_findIdx?, hbytes, h.rest_eq,
    findIdx?_utf8Bytes asciiOnly_isStringMark]
  have hsplit := List.takeWhile_append_dropWhile (p := (!isStringMark ·)) (l := cs)
  cases hrest : cs.dropWhile (!isStringMark ·) with
  | nil =>
    rw [hrest, List.append_nil] at hsplit
    have hnone : cs.any isStringMark = false := by
      rw [List.any_eq_false]
      intro x hx
      rw [← hsplit] at hx
      simpa using List.mem_takeWhile_imp hx
    rw [hnone, hsplit, if_neg Bool.false_ne_true, h.toEnd_eq]
    rfl
  | cons x rest =>
    have hmark : isStringMark x = true := by
      simpa using eq_false_of_dropWhile_eq_cons hrest
    rw [hrest] at hsplit
    have hany : cs.any isStringMark = true := by
      rw [List.any_eq_true]
      exact ⟨x, by rw [← hsplit]; simp, hmark⟩
    have hafter : (c.advance (utf8Length (cs.takeWhile (!isStringMark ·)))).Before (x :: rest) :=
      advance (by rw [hsplit]; exact h)
    rw [hany, if_pos rfl, List.head?_cons, Option.elim_some]
    simp only
    rw [current, lookahead_eq_getD, hafter.rest_eq, utf8Bytes_cons,
      utf8EncodeChar_of_isAscii (asciiOnly_isStringMark x hmark), List.singleton_append,
      List.getD_cons_zero]

/-- A byte is passed that does not begin the pair. -/
lemma findPair?_cons {a b x : UInt8} {bytes : List UInt8} (h : x = a → bytes.head? ≠ some b) :
    findPair? a b (x :: bytes) = (findPair? a b bytes).map (1 + ·) := by
  cases bytes with
  | nil => rfl
  | cons y bytes =>
    have hpair : ¬(x == a && y == b) = true := by
      rw [Bool.and_eq_true, beq_iff_eq, beq_iff_eq]
      rintro ⟨hx, rfl⟩
      exact h hx rfl
    rw [findPair?, if_neg hpair]

/-- Bytes are passed that are not the first one of the pair. -/
lemma findPair?_append {a b : UInt8} {front : List UInt8} (h : ∀ x ∈ front, x ≠ a)
    (bytes : List UInt8) :
    findPair? a b (front ++ bytes) = (findPair? a b bytes).map (front.length + ·) := by
  induction front with
  | nil => simp
  | cons x front ih =>
    rw [List.forall_mem_cons] at h
    rw [List.cons_append, findPair?_cons fun hx => absurd hx h.1, ih h.2, Option.map_map]
    congr 1
    funext n
    simp only [Function.comp_apply, List.length_cons]
    omega

/-- The first byte of a text is that of an ASCII character only if its first character is that
character. -/
lemma head?_utf8Bytes {x : Char} (hx : IsAscii x) {cs : List Char}
    (h : (utf8Bytes cs).head? = some (UInt8.ofNat x.toNat)) : cs.head? = some x := by
  have hpre : utf8Bytes [x] <+: utf8Bytes cs := by
    obtain ⟨bytes, hbytes⟩ := List.head?_eq_some_iff.1 h
    rw [hbytes, utf8Bytes_cons, utf8EncodeChar_of_isAscii hx]
    exact ⟨bytes, rfl⟩
  obtain ⟨rest, rfl⟩ := (utf8Bytes_isPrefix_iff (by simpa using hx) cs).1 hpre
  rfl

/-- The first two bytes that close a block comment are the first two characters that do.

**Proof sketch.** Induction on the text. Where a comment is closed right here both searches stop.
Elsewhere the bytes of the first character are passed over: a star and a slash after it would be
these two characters, and no byte of a character outside ASCII is a star. What is left is a shift by
the size of the character. -/
lemma findPair?_utf8Bytes (cs : List Char) :
    (findPair? 0x2a 0x2f (utf8Bytes cs)).map (· + 2) =
      (blockCommentEnd? cs).map fun n => utf8Length (cs.take n) := by
  induction cs with
  | nil => rfl
  | cons x cs ih =>
    by_cases hclose : ['*', '/'] <+: x :: cs
    · obtain ⟨rest, hrest⟩ := hclose
      rw [← hrest]
      rfl
    · have hbytes : findPair? 0x2a 0x2f (utf8Bytes (x :: cs)) =
          (findPair? 0x2a 0x2f (utf8Bytes cs)).map (x.utf8Size + ·) := by
        rw [utf8Bytes_cons]
        by_cases hx : IsAscii x
        · rw [utf8EncodeChar_of_isAscii hx, List.singleton_append, utf8Size_of_isAscii hx]
          refine findPair?_cons fun hstar hslash => hclose ?_
          have hx' : x = '*' := by
            rw [← ofUInt8_of_isAscii hx, hstar]
            rfl
          have hhead := head?_utf8Bytes (x := '/') (by decide) hslash
          obtain ⟨rest, hrest⟩ := List.head?_eq_some_iff.1 hhead
          rw [hx', hrest]
          exact ⟨rest, rfl⟩
        · rw [← String.length_utf8EncodeChar]
          refine findPair?_append (fun b hb => ?_) _
          rintro rfl
          exact absurd (le_of_mem_utf8EncodeChar hx hb) (by decide)
      rw [hbytes, blockCommentEnd?_cons hclose, Option.map_map, Option.map_map]
      have hshift := congrArg (Option.map (x.utf8Size + ·)) ih
      rw [Option.map_map, Option.map_map] at hshift
      convert hshift using 2
      · funext n
        simp only [Function.comp_apply]
        omega
      · funext n
        rw [Function.comp_apply, Nat.add_comm, List.take_succ_cons, utf8Length_cons]
        rfl

/-- The end of a block comment is behind the first two characters that close it. -/
lemma eatBlockComment {c : Cursor} {cs : List Char} (h : c.Before cs) :
    c.eatBlockComment = (blockCommentEnd? cs).elim (c.advance (utf8Length cs), false) fun n =>
      (c.advance (utf8Length (cs.take n)), true) := by
  have hpair := findPair?_utf8Bytes cs
  rw [Cursor.eatBlockComment, h.rest_eq]
  cases hend : blockCommentEnd? cs with
  | none =>
    rw [hend, Option.map_none, Option.map_eq_none_iff] at hpair
    rw [hpair, h.toEnd_eq]
    rfl
  | some n =>
    rw [hend, Option.map_some, Option.map_eq_some_iff] at hpair
    obtain ⟨i, hi, hlen⟩ := hpair
    rw [hi, Option.elim_some, ← hlen]

/-! ## Longer parts of a lexeme -/

/-- A word goes on with an ASCII character of the kinds that it may go on with, or with any other
one that is alphanumeric. -/
lemma isIdentifierPart_of_isAscii {x : Char} (hx : IsAscii x) :
    isIdentifierPart x = isAsciiPart x := by
  have hsmall : decide (0x80 ≤ x.toNat) = false := decide_eq_false (Nat.not_le_of_lt hx)
  rw [isIdentifierPart, isAsciiPart, hsmall, Bool.false_and, Bool.or_false]

/-- Characters outside of ASCII are not of these kinds. -/
lemma asciiOnly_isAsciiPart : AsciiOnly isAsciiPart := by
  intro x hx
  simp only [isAsciiPart, Bool.or_eq_true, beq_iff_eq] at hx
  rcases hx with (hx | hx) | rfl
  · exact asciiOnly_isAsciiLetter x hx
  · exact asciiOnly_isDigit .decimal x hx
  · decide

/-- A word goes on with a character outside of ASCII if that is alphanumeric. -/
lemma isIdentifierPart_of_not_isAscii {x : Char} (hx : ¬IsAscii x) :
    isIdentifierPart x = isAlphanumeric x := by
  have hlarge : decide (0x80 ≤ x.toNat) = true := decide_eq_true (Nat.le_of_not_lt hx)
  have hpart := asciiOnly_isAsciiPart.eq_false hx
  rw [isAsciiPart] at hpart
  rw [isIdentifierPart, hpart, hlarge, Bool.true_and, Bool.false_or]

/-- The rest of a word is a run of characters.

**Proof sketch.** Induction on the text. An ASCII character is told by its byte, any other one is
read as a whole. In both cases the cursor either stops as the run of characters does, or moves by
the size of the character and goes on. -/
lemma eatWord {c : Cursor} {cs : List Char} (h : c.Before cs) :
    c.eatWord = c.advance (utf8Length (cs.takeWhile isIdentifierPart)) := by
  induction cs generalizing c with
  | nil =>
    have hpeek : isAsciiPart (c.peek 0) = false :=
      (Ahead.of_before h).test asciiOnly_isAsciiPart (by decide)
    have hchar : ¬(0x80 ≤ c.current ∧ c.char?.any isAlphanumeric = true) := by
      rw [h.char?_eq]
      exact fun hc => Bool.false_ne_true hc.2
    rw [Cursor.eatWord, dif_neg (Bool.eq_false_iff.1 hpeek), dif_neg hchar]
    rfl
  | cons x cs ih =>
    have hpeek : isAsciiPart (c.peek 0) = isAsciiPart x :=
      (Ahead.of_before h).test asciiOnly_isAsciiPart (by decide)
    have htail := h.tail
    have hchar : (0x80 ≤ c.current ∧ c.char?.any isAlphanumeric = true) ↔
        ¬IsAscii x ∧ isAlphanumeric x = true := by
      rw [h.le_current_iff, h.char?_eq]
      exact Iff.rfl
    rw [Cursor.eatWord, hpeek]
    by_cases hx : IsAscii x
    · rw [List.takeWhile_cons, isIdentifierPart_of_isAscii hx]
      by_cases hpart : isAsciiPart x = true
      · rw [utf8Size_of_isAscii hx] at htail
        rw [dif_pos hpart, if_pos hpart, ih htail, advance_advance, utf8Length_cons,
          utf8Size_of_isAscii hx]
      · rw [dif_neg hpart, dif_neg fun hc => (hchar.1 hc).1 hx, if_neg hpart]
        rfl
    · rw [List.takeWhile_cons, isIdentifierPart_of_not_isAscii hx,
        dif_neg (Bool.eq_false_iff.1 (asciiOnly_isAsciiPart.eq_false hx))]
      by_cases hpart : isAlphanumeric x = true
      · rw [dif_pos (hchar.2 ⟨hx, hpart⟩), if_pos hpart, h.advanceChar_eq, ih htail,
          advance_advance, utf8Length_cons]
      · rw [dif_neg fun hc => hpart (hchar.1 hc).2, if_neg hpart]
        rfl

/-- A character that matters inside a string is found at once. -/
lemma skipToStringMark_of_mark {c : Cursor} {x : Char} {cs : List Char} (h : c.Before (x :: cs))
    (hx : isStringMark x = true) : c.skipToStringMark = (c, UInt8.ofNat x.toNat) := by
  rw [h.skipToStringMark, List.takeWhile_cons, List.dropWhile_cons, hx]
  rfl

/-- Any other character is passed. -/
lemma skipToStringMark_of_not_mark {c : Cursor} {x : Char} {cs : List Char}
    (h : c.Before (x :: cs)) (hx : isStringMark x = false) :
    c.skipToStringMark = (c.advance x.utf8Size).skipToStringMark := by
  rw [h.skipToStringMark, h.tail.skipToStringMark, List.takeWhile_cons, List.dropWhile_cons, hx,
    advance_advance]
  rfl

/-- A string depends on the next character that matters only. -/
lemma eatString_congr {c d : Cursor} (h : c.skipToStringMark = d.skipToStringMark) :
    c.eatString = d.eatString := by
  rw [Cursor.eatString, h, ← Cursor.eatString]

/-- A backslash takes the character behind it along, unless that is a line break or there is
none. -/
lemma eatString_backslash {c : Cursor} {cs : List Char} (h : c.Before ('\\' :: cs)) :
    c.eatString = if cs.head?.all isBreak then (c.advance 1, false)
      else (c.advance 1).advanceChar.eatString := by
  have hnext : (c.advance 1).Before cs := h.tail
  have hmeets : ((c.advance 1).atEnd || isBreak ((c.advance 1).peek 0)) = cs.head?.all isBreak := by
    rw [(Ahead.of_before hnext).test asciiOnly_isBreak (by decide), Bool.eq_iff_iff,
      Bool.or_eq_true, hnext.atEnd_iff]
    cases cs <;> simp
  have hmark : c.skipToStringMark = (c, 0x5c) := skipToStringMark_of_mark h (by decide)
  have hbyte : (0x5c : UInt8) ≠ 0x22 := by decide
  rw [Cursor.eatString, hmark, if_neg hbyte, dif_pos rfl]
  simp only [hmeets]

/-- The rest of a string goes as far as its characters say, and is closed if they say so.

**Proof sketch.** Induction along `stringBody`. Each case is one turn of the loop: the end of the
text, the closing quote, a backslash with nothing, a break or a character behind it, and a break. A
character that is none of these is passed over by the search, which leads to the same turn one
character later. -/
lemma eatString {c : Cursor} {cs : List Char} (h : c.Before cs) :
    c.eatString = (c.advance (utf8Length (cs.take (stringBody cs).2)), (stringBody cs).1) := by
  fun_induction stringBody cs generalizing c with
  | case1 =>
    rw [Cursor.eatString, h.skipToStringMark]
    rfl
  | case2 cs =>
    rw [Cursor.eatString, skipToStringMark_of_mark h (by decide)]
    rfl
  | case3 =>
    rw [eatString_backslash h]
    rfl
  | case4 x cs hx =>
    rw [eatString_backslash h, List.head?_cons, Option.all_some, if_pos hx]
    rfl
  | case5 x cs hx body =>
    rename_i ih
    have hnext : (c.advance 1).Before (x :: cs) := h.tail
    rw [eatString_backslash h, List.head?_cons, Option.all_some, if_neg hx, hnext.advanceChar_eq,
      ih hnext.tail, Nat.add_comm 2, List.take_succ_cons, List.take_succ_cons, utf8Length_cons,
      utf8Length_cons, advance_advance, advance_advance]
    rfl
  | case6 x cs hquote hnil hcons hx =>
    have hmark : isStringMark x = true := by
      rw [isStringMark, hx, Bool.or_true]
    have hbyte : UInt8.ofNat x.toNat ≠ 0x22 ∧ UInt8.ofNat x.toNat ≠ 0x5c := by
      simp only [isBreak, Bool.or_eq_true, beq_iff_eq] at hx
      rcases hx with rfl | rfl <;> decide
    rw [Cursor.eatString, skipToStringMark_of_mark h hmark, if_neg hbyte.1, dif_neg hbyte.2]
    rfl
  | case7 x cs hquote hnil hcons hx body =>
    rename_i ih
    have hquote' : x ≠ '"' := hquote
    have hslash : x ≠ '\\' := by
      rintro rfl
      rcases cs with _ | ⟨y, cs⟩
      · exact hnil rfl rfl
      · exact hcons y cs rfl rfl
    have hmark : isStringMark x = false := by
      simp [isStringMark, hquote', hslash, hx]
    rw [eatString_congr (skipToStringMark_of_not_mark h hmark), ih h.tail, Nat.add_comm 1,
      List.take_succ_cons, utf8Length_cons, advance_advance]

/-- A run of digits and underscores. -/
lemma eatDigits {c : Cursor} {cs : List Char} (h : c.Before cs) (r : Radix) :
    c.eatChars r.isDigitOrUnderscore = c.advance (digitRun r cs) := by
  rw [h.eatChars (asciiOnly_isDigitOrUnderscore r), utf8Length_of_isAscii, digitRun]
  exact fun x hx => asciiOnly_isDigitOrUnderscore r x (List.mem_takeWhile_imp hx)

/-- A digit begins a run of digits and underscores. -/
lemma digitRun_cons_of_isDigit {r : Radix} {d : Char} (hd : r.isDigit d = true) (cs : List Char) :
    digitRun r (d :: cs) = 1 + digitRun r cs := by
  have hrun : IsDigitRun r [d] := by
    simp [IsDigitRun, Radix.isDigitOrUnderscore, hd]
  exact digitRun_append hrun cs

/-- A fraction goes as far as its characters say. -/
lemma eatFraction? {c : Cursor} {cs : List Char} (h : c.Before cs) :
    c.eatFraction? =
      if fractionLength cs = 0 then none else some (c.advance (fractionLength cs)) := by
  have hstart := Ahead.of_before h
  have hpoint := hstart.peek_eq_iff (y := '.') (by decide) (by decide)
  by_cases hcs : cs.head? = some '.'
  · obtain ⟨cs, rfl⟩ := List.head?_eq_some_iff.1 hcs
    have hdigits := hstart.succ (by decide)
    rw [Cursor.eatFraction?, hpoint.2 hcs, hdigits.test (asciiOnly_isDigit .decimal) (by decide)]
    rcases cs with _ | ⟨d, cs⟩
    · rfl
    · rw [fractionLength_point, List.head?_cons, Option.any_some]
      by_cases hd : Radix.decimal.isDigit d = true
      · rw [if_pos ⟨rfl, hd⟩, if_pos hd, if_neg (by omega), hdigits.advance.eatDigits,
          digitRun_cons_of_isDigit hd, advance_advance, ← Nat.add_assoc]
      · rw [if_neg fun hc => hd hc.2, if_neg hd, if_pos rfl]
  · have hzero : fractionLength cs = 0 := by
      rcases cs with _ | ⟨x, cs⟩
      · rfl
      · exact fractionLength_of_ne (fun hx => hcs (hx ▸ rfl)) cs
    rw [Cursor.eatFraction?, if_neg fun hc => hcs (hpoint.1 hc.1), hzero, if_pos rfl]

/-- An exponent goes as far as its characters say.

**Proof sketch.** Without the letter both sides are nothing. Behind the letter and the sign, if
there is one, both ask for a digit; if there is one the digits are run over (`eatDigits`), and else
there is no exponent. -/
lemma eatExponent? {c : Cursor} {cs : List Char} (h : c.Before cs) :
    c.eatExponent? =
      if exponentLength cs = 0 then none else some (c.advance (exponentLength cs)) := by
  have hstart := Ahead.of_before h
  have hletter : (c.peek 0 = 'e' ∨ c.peek 0 = 'E') ↔
      cs.head? = some 'e' ∨ cs.head? = some 'E' := by
    rw [hstart.peek_eq_iff (by decide) (by decide), hstart.peek_eq_iff (by decide) (by decide)]
  by_cases hcs : cs.head? = some 'e' ∨ cs.head? = some 'E'
  · obtain ⟨e, cs, rfl, he⟩ : ∃ e ds, cs = e :: ds ∧ (e = 'e' ∨ e = 'E') := by
      rcases hcs with hcs | hcs <;> obtain ⟨ds, rfl⟩ := List.head?_eq_some_iff.1 hcs
      · exact ⟨_, ds, rfl, .inl rfl⟩
      · exact ⟨_, ds, rfl, .inr rfl⟩
    have hsigned := hstart.succ (by rcases he with rfl | rfl <;> decide)
    have hmark : (if c.peek 1 = '+' ∨ c.peek 1 = '-' then 2 else 1) = 1 + signLength cs :=
      hsigned.behind_sign
    have hdigits := hsigned.sign
    have hdigit := hdigits.test (asciiOnly_isDigit .decimal) (by decide)
    rw [Cursor.eatExponent?, if_pos (hletter.2 hcs), exponentLength_letter he]
    simp only [hmark]
    rcases hds : cs.drop (signLength cs) with _ | ⟨d, ds⟩
    · rw [hds] at hdigit
      rw [if_neg (by rw [hdigit]; exact Bool.false_ne_true)]
      rfl
    · rw [hds] at hdigits hdigit
      rw [List.head?_cons, Option.any_some] at hdigit
      by_cases hd : Radix.decimal.isDigit d = true
      · rw [if_pos (hdigit.trans hd), hdigits.advance.eatDigits, digitRun_cons_of_isDigit hd,
          advance_advance]
        simp only [hd, if_true]
        rw [if_neg (by omega)]
        congr 2
        omega
      · rw [if_neg (hdigit ▸ hd)]
        simp only [hd, Bool.false_eq_true, if_false, if_true]
  · have hzero : exponentLength cs = 0 := by
      rcases cs with _ | ⟨x, cs⟩
      · rfl
      · exact exponentLength_of_ne (fun hx => hcs (by simpa using hx)) cs
    rw [Cursor.eatExponent?, if_neg fun hc => hcs (hletter.1 hc), hzero, if_pos rfl]

end Before

/-! ## Inside a character -/

/-- The cursor stands inside a character, some bytes before its end, behind which the others
follow. -/
def Inside (c : Cursor) (n : Nat) (cs : List Char) : Prop :=
  ∃ front x, c.source.toList = front ++ x :: cs ∧ utf8Length front < c.pos ∧
    c.pos + n = utf8Length front + x.utf8Size ∧ 0 < n

/-- A cursor that is not at the end stands before a character or inside one. -/
theorem before_or_inside {c : Cursor} (h : c.atEnd = false) :
    (∃ x cs, c.Before (x :: cs)) ∨ ∃ n cs, c.Inside n cs := by
  have hlt : c.pos < utf8Length c.source.toList := by
    rw [atEnd, decide_eq_false_iff_not, Nat.not_le] at h
    rwa [utf8Length_toList]
  obtain ⟨front, x, cs, hsource, hle, hpos⟩ := exists_char_of_lt hlt
  rcases hle.eq_or_lt with heq | hlt
  · exact .inl ⟨x, cs, dropBytes?_eq_some_iff.2 ⟨front, hsource, heq⟩⟩
  · refine .inr ⟨utf8Length front + x.utf8Size - c.pos, cs, front, x, hsource, hlt, ?_, ?_⟩
    · omega
    · omega

namespace Inside

variable {c : Cursor} {n : Nat} {cs : List Char} (h : c.Inside n cs)

include h

/-- No character starts at the cursor. -/
lemma remaining?_eq_none : c.remaining? = none := by
  obtain ⟨front, x, hsource, hlt, hend, hpos⟩ := h
  by_contra hne
  obtain ⟨rest, hrest⟩ := Option.ne_none_iff_exists'.1 hne
  obtain ⟨other, hother, hlen⟩ := dropBytes?_eq_some_iff.1 hrest
  rw [hsource] at hother
  rcases List.append_eq_append_iff.1 hother with ⟨middle, rfl, hmiddle⟩ | ⟨middle, rfl, -⟩
  · rcases middle with _ | ⟨y, middle⟩
    · rw [List.append_nil] at hlen
      omega
    · obtain ⟨rfl, -⟩ := List.cons.inj hmiddle
      simp only [utf8Length_append, utf8Length_cons] at hlen
      omega
  · rw [utf8Length_append] at hlt
    omega

/-- The byte at the cursor is that of no ASCII character. -/
lemma le_current : 0x80 ≤ c.current := by
  obtain ⟨front, x, hsource, hlt, hend, hpos⟩ := h
  have hx : ¬IsAscii x := fun hx => by
    rw [utf8Size_of_isAscii hx] at hend
    omega
  have hindex : c.pos - utf8Length front < (String.utf8EncodeChar x).length := by
    rw [String.length_utf8EncodeChar]
    omega
  have hbyte : c.current = (String.utf8EncodeChar x)[c.pos - utf8Length front] := by
    rw [current, lookahead, hsource, utf8Bytes_append, utf8Bytes_cons, Nat.add_zero,
      List.getD_append_right _ _ _ _ (by rw [length_utf8Bytes]; exact hlt.le), length_utf8Bytes,
      List.getD_append _ _ _ _ hindex, List.getD_eq_getElem _ _ hindex]
  rw [hbyte]
  exact le_of_mem_utf8EncodeChar hx (List.getElem_mem hindex)

/-- The text is not used up. -/
lemma atEnd_eq : c.atEnd = false := by
  obtain ⟨front, x, hsource, hlt, hend, hpos⟩ := h
  have hlen : c.sourceLength = utf8Length front + (x.utf8Size + utf8Length cs) := by
    rw [sourceLength, ← utf8Length_toList, hsource, utf8Length_append, utf8Length_cons]
  rw [atEnd, decide_eq_false_iff_not, hlen]
  omega

end Inside

/-- A byte further, the cursor is closer to the end of the character. -/
lemma Inside.advance {c : Cursor} {n : Nat} {cs : List Char} (h : c.Inside (n + 1 + 1) cs) :
    (c.advance 1).Inside (n + 1) cs := by
  obtain ⟨front, x, hsource, hlt, hend, hpos⟩ := h
  exact ⟨front, x, hsource, Nat.lt_succ_of_lt hlt, by rw [advance_pos]; omega, n.succ_pos⟩

/-- Behind the last byte of the character the next one begins. -/
lemma Inside.advance_one {c : Cursor} {cs : List Char} (h : c.Inside 1 cs) :
    (c.advance 1).Before cs := by
  obtain ⟨front, x, hsource, hlt, hend, hpos⟩ := h
  refine dropBytes?_eq_some_iff.2 ⟨front ++ [x], ?_, ?_⟩
  · rw [advance_source, hsource, List.append_assoc, List.singleton_append]
  · rw [utf8Length_append, utf8Length_cons, utf8Length_nil, advance_pos]
    omega

end Cursor

end LexicalFront
