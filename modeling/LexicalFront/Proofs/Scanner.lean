import LexicalFront.Proofs.Cursor
set_option autoImplicit false
set_option relaxedAutoImplicit false

/-!
# Rules on bytes and rules on characters

The scanner moves over bytes, and the rules of `LexicalFront.firstExtent` count characters. Rule by
rule, the two take the same lexeme from a cursor between two characters; and inside a character,
where no rule on characters applies, the scanner takes single bytes that begin nothing.

## Main definitions

* `LexicalFront.Cursor.takenBy` — what a rule on characters says, as a lexeme taken off.

## Main results

* `LexicalFront.Cursor.Before.takeLexeme` — between two characters the scanner takes the lexeme that
  the characters say.
* `LexicalFront.Cursor.takeLexeme_eq` — wherever the cursor is, the scanner takes what
  `LexicalFront.Cursor.scan` says.
-/

namespace LexicalFront

/-! ## Searching for the longest start -/

section Starts

variable {α : Type} {ofBytes? : List UInt8 → Option α} {bytes : List UInt8} {n : Nat}

/-- What is found is looked up, and for no longer start anything is. -/
lemma startOf?_eq_some {a : α} {k : Nat} (h : startOf? ofBytes? bytes n = some (a, k)) :
    ofBytes? (bytes.take k) = some a ∧ k ≤ n ∧
      ∀ m, k < m → m ≤ n → ofBytes? (bytes.take m) = none := by
  induction n with
  | zero => exact absurd h nofun
  | succ n ih =>
    rw [startOf?] at h
    split at h
    · next p hp =>
      obtain ⟨rfl, rfl⟩ := Prod.mk.inj (Option.some.inj h)
      exact ⟨hp, le_rfl, fun m hlt hle => absurd hle (Nat.not_le_of_lt hlt)⟩
    · next hp =>
      obtain ⟨ha, hk, hlonger⟩ := ih h
      refine ⟨ha, hk.trans (Nat.le_succ n), fun m hlt hle => ?_⟩
      rcases Nat.le_succ_iff.1 hle with hle | rfl
      · exact hlonger m hlt hle
      · exact hp

/-- Nothing is found where nothing is for the starts of the lengths that are tried. -/
lemma startOf?_eq_none (h : startOf? ofBytes? bytes n = none) :
    ∀ m, 0 < m → m ≤ n → ofBytes? (bytes.take m) = none := by
  induction n with
  | zero => exact fun m hpos hle => absurd hle (Nat.not_le_of_lt hpos)
  | succ n ih =>
    rw [startOf?] at h
    split at h
    · exact absurd h nofun
    · next hp =>
      intro m hpos hle
      rcases Nat.le_succ_iff.1 hle with hle | rfl
      · exact ih h m hpos hle
      · exact hp

end Starts

/-! ## Operators as bytes -/

namespace Operator

/-- Operators are ASCII text. -/
lemma isAscii_of_mem_spelling {o : Operator} {x : Char} (hx : x ∈ o.spelling.toList) :
    IsAscii x := by
  have hall : ∀ o ∈ all, o.spelling.toList.all (decide <| IsAscii ·) = true := by decide
  exact of_decide_eq_true (List.all_eq_true.1 (hall o (mem_all o)) x hx)

/-- An operator is found by its bytes. -/
lemma ofBytes?_eq_some_iff {bytes : List UInt8} {o : Operator} :
    ofBytes? bytes = some o ↔ bytes = utf8Bytes o.spelling.toList := by
  constructor
  · intro h
    have hbytes := List.find?_some h
    exact (beq_iff_eq.1 hbytes).symm
  · rintro rfl
    cases h : ofBytes? (utf8Bytes o.spelling.toList) with
    | none =>
      have := List.find?_eq_none.1 h o (mem_all o)
      simp at this
    | some p =>
      have hp : utf8Bytes p.spelling.toList = utf8Bytes o.spelling.toList := by
        simpa using List.find?_some h
      have hpo : p.spelling.toList <+: o.spelling.toList :=
        (utf8Bytes_isPrefix_iff (fun x hx => isAscii_of_mem_spelling hx) _).1
          (hp ▸ List.prefix_refl _)
      have hop : o.spelling.toList <+: p.spelling.toList :=
        (utf8Bytes_isPrefix_iff (fun x hx => isAscii_of_mem_spelling hx) _).1
          (hp ▸ List.prefix_refl _)
      rw [spelling_injective (String.toList_inj.1 (hpo.eq_of_length_le hop.length_le))]

/-- The first bytes of a text are an operator if its first characters are. -/
lemma ofBytes?_take_eq_some_iff {cs : List Char} {n : Nat} (hn : n ≤ utf8Length cs)
    {o : Operator} : ofBytes? ((utf8Bytes cs).take n) = some o ↔
      o.spelling.toList <+: cs ∧ o.spelling.toList.length = n := by
  have hascii : ∀ x ∈ o.spelling.toList, IsAscii x := fun x hx => isAscii_of_mem_spelling hx
  rw [ofBytes?_eq_some_iff, ← utf8Bytes_isPrefix_iff hascii, ← utf8Length_of_isAscii hascii,
    ← length_utf8Bytes]
  constructor
  · intro h
    rw [← h]
    refine ⟨List.take_prefix _ _, List.length_take_of_le ?_⟩
    rwa [length_utf8Bytes]
  · rintro ⟨hpre, rfl⟩
    exact (List.prefix_iff_eq_take.1 hpre).symm

/-- Searching the bytes finds the longest operator, and its length.

**Proof sketch.** An operator stands at the start of the bytes exactly if it stands at the start of
the characters, and with the same length, since operators are ASCII. The search goes from long to
short, so that what it finds is the longest one; two spellings of the same length that begin the
same text are equal. -/
lemma startOf?_utf8Bytes (cs : List Char) :
    startOf? ofBytes? (utf8Bytes cs) (min maxLength (utf8Bytes cs).length) =
      (longest? cs).map fun o => (o, o.spelling.toList.length) := by
  have hfits (o : Operator) (ho : o.spelling.toList <+: cs) :
      o.spelling.toList.length ≤ min maxLength (utf8Bytes cs).length := by
    refine le_min (length_spelling o).2 ?_
    have hbytes := (utf8Bytes_isPrefix_iff (fun x hx => isAscii_of_mem_spelling hx) cs).2 ho
    rw [← utf8Length_of_isAscii fun x hx => isAscii_of_mem_spelling hx, ← length_utf8Bytes]
    exact hbytes.length_le
  have hle (n : Nat) (hn : n ≤ min maxLength (utf8Bytes cs).length) : n ≤ utf8Length cs := by
    rw [← length_utf8Bytes]
    exact hn.trans (min_le_right _ _)
  cases hlongest : longest? cs with
  | none =>
    cases hstart : startOf? ofBytes? (utf8Bytes cs) (min maxLength (utf8Bytes cs).length) with
    | none => rfl
    | some found =>
      obtain ⟨ho, hk, -⟩ := startOf?_eq_some hstart
      exact absurd ((ofBytes?_take_eq_some_iff (hle _ hk)).1 ho).1
        (longest?_eq_none_iff.1 hlongest _)
  | some o =>
    obtain ⟨ho, hmax⟩ := longest?_eq_some hlongest
    have hbytes := (ofBytes?_take_eq_some_iff (hle _ (hfits o ho))).2 ⟨ho, rfl⟩
    cases hstart : startOf? ofBytes? (utf8Bytes cs) (min maxLength (utf8Bytes cs).length) with
    | none =>
      rw [startOf?_eq_none hstart _ (length_spelling o).1 (hfits o ho)] at hbytes
      exact absurd hbytes nofun
    | some found =>
      obtain ⟨p, k⟩ := found
      obtain ⟨hp, hk, hlonger⟩ := startOf?_eq_some hstart
      obtain ⟨hpre, rfl⟩ := (ofBytes?_take_eq_some_iff (hle _ hk)).1 hp
      have hlen : o.spelling.toList.length ≤ p.spelling.toList.length := by
        by_contra hlt
        rw [hlonger _ (Nat.lt_of_not_le hlt) (hfits o ho)] at hbytes
        exact absurd hbytes nofun
      have heq := List.prefix_of_prefix_length_le ho hpre hlen
      have hsame := heq.eq_of_length_le (hmax p hpre)
      rw [Option.map_some, spelling_injective (String.toList_inj.1 hsame)]

/-- An operator begins with one of the marks that the scanner looks for. -/
lemma mem_operatorMarks_of_spelling {o : Operator} {x : Char} {cs : List Char}
    (h : o.spelling.toList = x :: cs) : x = '/' ∨ x ∈ Cursor.operatorMarks := by
  have hall : ∀ o ∈ all, o.spelling.toList.head?.all
      (fun x => x == '/' || Cursor.operatorMarks.contains x) = true := by decide
  have hx := hall o (mem_all o)
  rw [h, List.head?_cons, Option.all_some, Bool.or_eq_true, beq_iff_eq, List.contains_iff_mem] at hx
  exact hx

end Operator

/-- These marks are ASCII characters. -/
lemma isAscii_of_mem_operatorMarks {x : Char} (hx : x ∈ Cursor.operatorMarks) : IsAscii x := by
  have hall : Cursor.operatorMarks.all (decide <| IsAscii ·) = true := by decide
  exact of_decide_eq_true (List.all_eq_true.1 hall x hx)

/-- Without such a mark no operator begins. -/
lemma operatorExtent_of_notMem {x : Char} (hslash : x ≠ '/') (hx : x ∉ Cursor.operatorMarks)
    (cs : List Char) : operatorExtent x cs = ⟨.invalidChar, 0⟩ := by
  cases h : Operator.longest? (x :: cs) with
  | none => rw [operatorExtent, h]
  | some o =>
    obtain ⟨piece, -, -, hs, -⟩ := operatorExtent_eq h
    rcases Operator.mem_operatorMarks_of_spelling hs with heq | hmem
    · exact absurd heq hslash
    · exact absurd hmem hx

namespace Cursor

/-- What a rule says of the characters at the cursor, as a lexeme taken off. -/
def takenBy (c : Cursor) (x : Char) (cs : List Char) (e : Extent) : Taken :=
  ⟨e.tag, utf8Length (x :: cs.take e.more), c.advance (utf8Length (x :: cs.take e.more))⟩

/-- A rule that moves over the characters of an extent takes what the extent says. -/
lemma finish_eq_takenBy (c : Cursor) {x : Char} {cs : List Char} {tag : Tag} {more n : Nat}
    (hn : n = utf8Length (x :: cs.take more)) :
    c.finish tag (c.advance n) = c.takenBy x cs ⟨tag, more⟩ := by
  rw [hn, takenBy, finish, advance_pos, Nat.add_sub_cancel_left]

/-- The size of an extent that goes over a second ASCII character. -/
lemma utf8Length_cons_take {x y : Char} (hx : IsAscii x) (hy : IsAscii y) (n : Nat)
    (cs : List Char) :
    utf8Length (x :: (y :: cs).take (1 + n)) = 2 + utf8Length (cs.take n) := by
  rw [Nat.add_comm 1, List.take_succ_cons, utf8Length_cons, utf8Length_cons,
    utf8Size_of_isAscii hx, utf8Size_of_isAscii hy, ← Nat.add_assoc]

namespace Before

variable {c : Cursor} {x : Char} {cs : List Char}

/-! ## Blanks and line breaks -/

/-- Blanks. -/
lemma takeBlanks (h : c.Before (x :: cs)) (hx : isBlank x = true) :
    c.takeBlanks = c.takenBy x cs ⟨.whitespace, (cs.takeWhile isBlank).length⟩ := by
  rw [Cursor.takeBlanks, h.eatChars asciiOnly_isBlank, List.takeWhile_cons_of_pos hx]
  refine c.finish_eq_takenBy ?_
  rw [take_length_takeWhile]

/-- A carriage return. -/
lemma takeCarriageReturn (h : c.Before ('\r' :: cs)) :
    c.takeCarriageReturn = c.takenBy '\r' cs (carriageReturnExtent cs) := by
  have hnext : (c.advance 1).Before cs := ((Ahead.of_before h).succ (by decide)).advance
  have hpeek := (Ahead.of_before hnext).peek_eq_iff (y := '\n') (by decide) (by decide)
  rw [Cursor.takeCarriageReturn]
  by_cases hfeed : cs.head? = some '\n'
  · obtain ⟨cs, rfl⟩ := List.head?_eq_some_iff.1 hfeed
    rw [if_pos (hpeek.2 rfl)]
    exact c.finish_eq_takenBy rfl
  · rw [if_neg fun heq => hfeed (hpeek.1 heq), carriageReturnExtent_of_ne hfeed]
    exact c.finish_eq_takenBy rfl

/-- A line feed. -/
lemma takeLineFeed (c : Cursor) (cs : List Char) :
    c.takeLineFeed = c.takenBy '\n' cs ⟨.newline, 0⟩ :=
  c.finish_eq_takenBy rfl

/-! ## Words and single characters -/

/-- A word. -/
lemma takeWord (h : c.Before (x :: cs)) :
    c.takeWord = c.takenBy x cs ⟨.identifier, (cs.takeWhile isIdentifierPart).length⟩ := by
  rw [Cursor.takeWord, h.advanceChar_eq, h.tail.eatWord, advance_advance]
  refine c.finish_eq_takenBy ?_
  rw [take_length_takeWhile, utf8Length_cons]

/-- A character that begins nothing. -/
lemma takeInvalid (h : c.Before (x :: cs)) : c.takeInvalid = c.takenBy x cs ⟨.invalidChar, 0⟩ := by
  rw [Cursor.takeInvalid, h.advanceChar_eq]
  exact c.finish_eq_takenBy rfl

/-- A character outside of ASCII. -/
lemma takeNonAscii (h : c.Before (x :: cs)) (hx : ¬IsAscii x) :
    c.takeNonAscii = c.takenBy x cs (firstExtent x cs) := by
  have hstart : isIdentifierStart x = isAlphabetic x := by
    have hlarge : decide (0x80 ≤ x.toNat) = true := decide_eq_true (Nat.le_of_not_lt hx)
    have hunderscore : (x == '_') = false := beq_false_of_ne (by rintro rfl; exact hx (by decide))
    rw [isIdentifierStart, asciiOnly_isAsciiLetter.eq_false hx, hunderscore, hlarge,
      Bool.true_and, Bool.false_or, Bool.false_or]
  have hne (y : Char) (hy : IsAscii y) : x ≠ y := by
    rintro rfl
    exact hx hy
  rw [Cursor.takeNonAscii, h.char?_eq, List.head?_cons, Option.any_some]
  by_cases halphabetic : isAlphabetic x = true
  · rw [if_pos halphabetic, firstExtent_of_isIdentifierStart (hstart.trans halphabetic)]
    exact h.takeWord
  · have hextent : firstExtent x cs = ⟨.invalidChar, 0⟩ := by
      rw [firstExtent, asciiOnly_isBlank.eq_false hx, hstart,
        (asciiOnly_isDigit .decimal).eq_false hx, if_neg Bool.false_ne_true,
        if_neg (hne '\r' (by decide)), if_neg (hne '\n' (by decide)), if_neg halphabetic,
        if_neg Bool.false_ne_true, if_neg (hne '"' (by decide)), if_neg (hne '/' (by decide))]
      exact operatorExtent_of_notMem (hne '/' (by decide))
        (fun hmem => hx (isAscii_of_mem_operatorMarks hmem)) cs
    rw [if_neg halphabetic, hextent]
    exact h.takeInvalid

/-! ## Operators and comments -/

/-- The longest operator. -/
lemma takeOperator (h : c.Before (x :: cs)) :
    c.takeOperator = c.takenBy x cs (operatorExtent x cs) := by
  rw [Cursor.takeOperator, h.rest_eq, Operator.startOf?_utf8Bytes]
  cases ho : Operator.longest? (x :: cs) with
  | none =>
    rw [operatorExtent, ho]
    exact h.takeInvalid
  | some o =>
    obtain ⟨piece, rest, rfl, hs, heq⟩ := operatorExtent_eq ho
    rw [heq, Option.map_some]
    refine c.finish_eq_takenBy ?_
    rw [List.take_left, ← hs, utf8Length_of_isAscii fun y hy => Operator.isAscii_of_mem_spelling hy]

/-- A comment, or an operator that begins with a slash.

**Proof sketch.** By the second character. Two slashes run to the end of the line (`eatLine`), a
slash and a star to the end of the comment or of the text (`eatBlockComment`), and otherwise it is
left to the operators. -/
lemma takeSlash (h : c.Before ('/' :: cs)) :
    c.takeSlash = c.takenBy '/' cs ((commentExtent? cs).getD (operatorExtent '/' cs)) := by
  have hsecond := (Ahead.of_before h).succ (by decide)
  have hpeek (y : Char) (hy : IsAscii y) (h0 : y ≠ '\x00') := hsecond.peek_eq_iff hy h0
  rw [Cursor.takeSlash]
  by_cases hslash : cs.head? = some '/'
  · obtain ⟨cs, rfl⟩ := List.head?_eq_some_iff.1 hslash
    have hbody : (c.advance 2).Before cs := (hsecond.succ (by decide)).advance
    rw [if_pos ((hpeek '/' (by decide) (by decide)).2 rfl), hbody.eatLine, advance_advance,
      commentExtent?, Option.getD_some]
    refine c.finish_eq_takenBy ?_
    rw [utf8Length_cons_take (by decide) (by decide), take_length_takeWhile]
  rw [if_neg fun heq => hslash ((hpeek '/' (by decide) (by decide)).1 heq)]
  by_cases hstar : cs.head? = some '*'
  · obtain ⟨cs, rfl⟩ := List.head?_eq_some_iff.1 hstar
    have hbody : (c.advance 2).Before cs := (hsecond.succ (by decide)).advance
    rw [if_pos ((hpeek '*' (by decide) (by decide)).2 rfl), hbody.eatBlockComment, commentExtent?]
    cases hend : blockCommentEnd? cs with
    | none =>
      simp only [Option.elim_none, Option.getD_some, Bool.false_eq_true, if_false, advance_advance]
      refine c.finish_eq_takenBy ?_
      rw [utf8Length_cons_take (by decide) (by decide), List.take_length]
    | some n =>
      simp only [Option.elim_some, Option.getD_some, if_true, advance_advance]
      refine c.finish_eq_takenBy ?_
      rw [utf8Length_cons_take (by decide) (by decide)]
  · have hnone : commentExtent? cs = none := by
      rcases cs with _ | ⟨y, cs⟩
      · rfl
      · exact commentExtent?_eq_none (fun hy => hslash (by rw [hy]; rfl))
          (fun hy => hstar (by rw [hy]; rfl)) cs
    rw [if_neg fun heq => hstar ((hpeek '*' (by decide) (by decide)).1 heq), hnone,
      Option.getD_none]
    exact h.takeOperator

/-! ## Strings -/

/-- A string. -/
lemma takeString (h : c.Before ('"' :: cs)) :
    c.takeString = c.takenBy '"' cs (stringExtent cs) := by
  have hbody : (c.advance 1).Before cs := ((Ahead.of_before h).succ (by decide)).advance
  rw [Cursor.takeString, hbody.eatString, stringExtent]
  simp only [advance_advance]
  exact c.finish_eq_takenBy rfl

/-! ## Numbers -/

/-- Digits and underscores are ASCII characters. -/
lemma isAscii_of_isDigitRun {r : Radix} {ds : List Char} (h : IsDigitRun r ds) :
    ∀ y ∈ ds, IsAscii y :=
  fun y hy => asciiOnly_isDigitOrUnderscore r y (h y hy)

/-- Fractions are ASCII text. -/
lemma isAscii_of_isFraction {ds : List Char} (h : ds = [] ∨ IsFraction ds) :
    ∀ y ∈ ds, IsAscii y := by
  rcases h with rfl | h
  · exact fun y hy => absurd hy List.not_mem_nil
  · exact h.forall_mem (asciiOnly_isDigitOrUnderscore .decimal) (by decide)

/-- Exponents are ASCII text. -/
lemma isAscii_of_isExponent {ds : List Char} (h : ds = [] ∨ IsExponent ds) :
    ∀ y ∈ ds, IsAscii y := by
  rcases h with rfl | h
  · exact fun y hy => absurd hy List.not_mem_nil
  · exact h.forall_mem (asciiOnly_isDigitOrUnderscore .decimal) (by decide) (by decide)

/-- The letters of bases are ASCII characters. -/
lemma isAscii_of_ofMark? {m : Char} {r : Radix} (h : Radix.ofMark? m = some r) : IsAscii m := by
  unfold Radix.ofMark? at h
  split_ifs at h with hx ho hb
  · rcases hx with rfl | rfl <;> decide
  · rcases ho with rfl | rfl <;> decide
  · rcases hb with rfl | rfl <;> decide

/-- A part that may be missing is moved over, or not. -/
lemma getD_advance (c : Cursor) (n : Nat) :
    (if n = 0 then none else some (c.advance n)).getD c = c.advance n := by
  split_ifs with hn
  · rw [hn]
    rfl
  · rfl

/-- Whether a part is there. -/
lemma isSome_part (c : Cursor) (n : Nat) :
    (if n = 0 then none else some c).isSome = decide (n ≠ 0) := by
  split_ifs with hn
  · rw [decide_eq_false (not_not_intro hn)]
    rfl
  · rw [decide_eq_true hn]
    rfl

/-- A decimal number is its digits, its fraction and its exponent, of which either of the last two
makes it a float. -/
lemma decimalExtent_parts {ds fraction exponent rest : List Char}
    (hdigits : digitRun .decimal (ds ++ (fraction ++ (exponent ++ rest))) = ds.length)
    (hfraction : fractionLength (fraction ++ (exponent ++ rest)) = fraction.length)
    (hexponent : exponentLength (exponent ++ rest) = exponent.length) :
    decimalExtent (ds ++ (fraction ++ (exponent ++ rest))) =
      ⟨if (decide (fraction.length ≠ 0) || decide (exponent.length ≠ 0)) = true then .float
        else .integer .decimal, (ds ++ (fraction ++ exponent)).length⟩ := by
  have htag : (if fraction.length + exponent.length = 0 then Tag.integer .decimal else .float) =
      if (decide (fraction.length ≠ 0) || decide (exponent.length ≠ 0)) = true then .float
        else .integer .decimal := by
    by_cases hzero : fraction.length = 0 ∧ exponent.length = 0
    · simp [hzero]
    · rw [if_neg (by omega), if_pos (by simp only [Bool.or_eq_true, decide_eq_true_eq]; omega)]
  rw [decimalExtent_eq, hdigits, List.drop_left, tailLength, hfraction, List.drop_left, hexponent,
    htag, List.length_append, List.length_append]

/-- A decimal number.

**Proof sketch.** Cut the text into digits, fraction, exponent and the rest. The cursor goes over
the three parts in turn (`eatDigits`, `eatFraction?`, `eatExponent?`); what it did not find is a
part of length zero. The sum of the lengths is the size of the lexeme. -/
lemma takeDecimal (h : c.Before (x :: cs)) (hx : Radix.decimal.isDigit x = true) :
    c.takeDecimal = c.takenBy x cs (decimalExtent cs) := by
  obtain ⟨ds, rest, rfl, hdigits, hds⟩ := digitRun_cut .decimal cs
  obtain ⟨fraction, rest, rfl, hfraction, hf⟩ := fractionLength_cut rest
  obtain ⟨exponent, rest, rfl, hexponent, he⟩ := exponentLength_cut rest
  -- all that belongs to a number is ASCII text, so that bytes and characters are counted alike
  have hxa := asciiOnly_isDigit .decimal x hx
  have hdsa := isAscii_of_isDigitRun hds
  have hfa := isAscii_of_isFraction hf
  have hwhole := ((Ahead.of_before h).succ hxa).append hdsa
  have hbehind := hwhole.append hfa
  rw [Nat.zero_add] at hwhole hbehind
  have hsize : utf8Length (x :: (ds ++ (fraction ++ exponent))) =
      1 + ds.length + fraction.length + exponent.length := by
    rw [utf8Length_of_isAscii]
    · simp only [List.length_cons, List.length_append]
      omega
    · simp only [List.forall_mem_cons, List.forall_mem_append]
      exact ⟨hxa, hdsa, hfa, isAscii_of_isExponent he⟩
  have htake : (ds ++ (fraction ++ (exponent ++ rest))).take (ds ++ (fraction ++ exponent)).length =
      ds ++ (fraction ++ exponent) := by
    have hsplit : ds ++ (fraction ++ (exponent ++ rest)) =
        ds ++ (fraction ++ exponent) ++ rest := by
      simp only [List.append_assoc]
    rw [hsplit, List.take_left]
  rw [decimalExtent_parts hdigits hfraction hexponent, Cursor.takeDecimal, h.eatDigits,
    digitRun_cons_of_isDigit hx, hdigits]
  rw [hwhole.advance.eatFraction?, hfraction, getD_advance, advance_advance,
    hbehind.advance.eatExponent?, hexponent, getD_advance, advance_advance, isSome_part,
    isSome_part]
  refine c.finish_eq_takenBy ?_
  rw [htake, hsize]

/-- An integer whose base is announced. -/
lemma takeRadixInteger {m : Char} {r : Radix} (h : c.Before ('0' :: m :: cs)) (hm : IsAscii m) :
    c.takeRadixInteger r = c.takenBy '0' (m :: cs) (radixExtent r cs) := by
  obtain ⟨ds, rest, rfl, hdigits, hds⟩ := digitRun_cut r cs
  have hbody := (((Ahead.of_before h).succ (by decide)).succ hm).advance
  have hrun : (ds ++ rest).takeWhile r.isDigitOrUnderscore = ds := by
    rw [List.prefix_iff_eq_take.1 (List.takeWhile_prefix _), ← digitRun, hdigits, List.take_left]
  have hlen : ds.length = utf8Length ds :=
    (utf8Length_of_isAscii (isAscii_of_isDigitRun hds)).symm
  rw [Cursor.takeRadixInteger, hbody.eatDigits, hdigits, hlen, hbody.sliceFrom_eq,
    String.toList_ofList, any_utf8Bytes (asciiOnly_isDigit r), advance_advance, radixExtent, hrun,
    hdigits]
  refine c.finish_eq_takenBy ?_
  rw [utf8Length_cons_take (by decide) hm, List.take_left]

/-- A number. -/
lemma takeNumber (h : c.Before (x :: cs)) (hx : Radix.decimal.isDigit x = true) :
    c.takeNumber = c.takenBy x cs (numberExtent x cs) := by
  have hfirst := h.peek_of_isAscii (asciiOnly_isDigit .decimal x hx)
  rw [Cursor.takeNumber, hfirst]
  by_cases hzero : x = '0'
  · subst hzero
    have hnone (y : Char) (hy : ¬IsAscii y) : Radix.ofMark? y = none := by
      by_contra hne
      obtain ⟨r, hr⟩ := Option.ne_none_iff_exists'.1 hne
      exact hy (isAscii_of_ofMark? hr)
    have hmark := ((Ahead.of_before h).succ (by decide)).peek (f := Radix.ofMark?) rfl hnone
    rw [if_pos rfl, hmark]
    rcases cs with _ | ⟨m, cs⟩
    · exact h.takeDecimal hx
    · rw [List.head?_cons, Option.elim_some]
      cases hm : Radix.ofMark? m with
      | none =>
        rw [numberExtent_decimal fun _ y hy => by rwa [← Option.some.inj hy]]
        exact h.takeDecimal hx
      | some r =>
        rw [numberExtent_radix hm]
        exact h.takeRadixInteger (isAscii_of_ofMark? hm)
  · rw [if_neg hzero, numberExtent_decimal fun h0 => absurd h0 hzero]
    exact h.takeDecimal hx

end Before

/-! ## The choice of the rule -/

/-- A large byte is left to the rule for characters outside of ASCII. -/
lemma takeLexeme_of_le_current {c : Cursor} (hend : c.atEnd = false) (h : 0x80 ≤ c.current) :
    c.takeLexeme = c.takeNonAscii := by
  have hx : ¬IsAscii (c.peek 0) := not_isAscii_ofUInt8 h
  have hne (y : Char) (hy : IsAscii y) : c.peek 0 ≠ y := fun heq => hx (heq ▸ hy)
  have hmark : c.peek 0 ∉ operatorMarks := fun hmem => hx (isAscii_of_mem_operatorMarks hmem)
  simp only [takeLexeme, hend, asciiOnly_isBlank.eq_false hx, asciiOnly_isAsciiLetter.eq_false hx,
    (asciiOnly_isDigit .decimal).eq_false hx, beq_false_of_ne (hne '_' (by decide)),
    hne '\r' (by decide), hne '\n' (by decide), hne '"' (by decide), hne '/' (by decide), hmark, h,
    Bool.false_eq_true, Bool.or_false, if_false, if_true]

/-- Between two characters the scanner takes the lexeme that the characters say.

**Proof sketch.** By the first character. Outside ASCII it is a word or nothing (`takeNonAscii`).
For an ASCII character the byte is the character, and each branch of the scanner is the rule of the
same branch of `firstExtent`, which has a lemma of its own. -/
theorem Before.takeLexeme {c : Cursor} {x : Char} {cs : List Char} (h : c.Before (x :: cs)) :
    c.takeLexeme = c.takenBy x cs (firstExtent x cs) := by
  have hend : c.atEnd = false := by
    rw [Bool.eq_false_iff, ne_eq, h.atEnd_iff]
    exact List.cons_ne_nil x cs
  by_cases hx : IsAscii x
  · have hsmall : ¬0x80 ≤ c.current := fun hle => h.le_current_iff.1 hle hx
    have hstart : isIdentifierStart x = (isAsciiLetter x || x == '_') := by
      rw [isIdentifierStart, decide_eq_false (Nat.not_le_of_lt hx), Bool.false_and, Bool.or_false]
    -- the scanner asks what the character is in the order in which the rules on characters do
    rw [Cursor.takeLexeme, hend, if_neg Bool.false_ne_true, h.peek_of_isAscii hx, firstExtent,
      hstart]
    simp only [hsmall, if_false]
    split_ifs with hblank hreturn hfeed hletter hdigit hquote hslash hmark
    · exact h.takeBlanks hblank
    · subst hreturn
      exact h.takeCarriageReturn
    · subst hfeed
      exact takeLineFeed c cs
    · exact h.takeWord
    · exact h.takeNumber hdigit
    · subst hquote
      exact h.takeString
    · subst hslash
      exact h.takeSlash
    · exact h.takeOperator
    · rw [operatorExtent_of_notMem hslash hmark]
      exact h.takeInvalid
  · rw [takeLexeme_of_le_current hend (h.le_current_iff.2 hx)]
    exact h.takeNonAscii hx

/-- Inside a character a byte is taken that begins nothing. -/
theorem Inside.takeLexeme {c : Cursor} {n : Nat} {cs : List Char} (h : c.Inside n cs) :
    c.takeLexeme = ⟨.invalidChar, 1, c.advance 1⟩ := by
  have hchar : c.char? = none := by
    rw [char?, h.remaining?_eq_none, Option.bind_none]
  rw [takeLexeme_of_le_current h.atEnd_eq h.le_current, takeNonAscii, hchar, Option.any_none,
    if_neg Bool.false_ne_true, takeInvalid, advanceChar, hchar, Option.elim_none, finish,
    advance_pos, Nat.add_sub_cancel_left]

/-- At the end of the text nothing is taken. -/
lemma takeLexeme_of_atEnd {c : Cursor} (h : c.atEnd = true) :
    c.takeLexeme = ⟨.endOfInput, 0, c⟩ := if_pos h

/-- Wherever the cursor is, what the scanner takes off the bytes is what the characters that are
left say. -/
theorem takeLexeme_eq (c : Cursor) : c.takeLexeme = ⟨c.scan.1, c.scan.2, c.afterScan⟩ := by
  cases hend : c.atEnd with
  | true => simp only [takeLexeme_of_atEnd hend, afterScan, scan, hend, if_true, advance_zero]
  | false =>
    rcases before_or_inside hend with ⟨x, cs, h⟩ | ⟨n, cs, h⟩
    · have hremaining : c.remaining? = some (x :: cs) := h
      simp only [h.takeLexeme, takenBy, afterScan, scan, hend, hremaining, Bool.false_eq_true,
        if_false]
    · simp only [h.takeLexeme, afterScan, scan, hend, h.remaining?_eq_none, Bool.false_eq_true,
        if_false]

end Cursor

end LexicalFront
