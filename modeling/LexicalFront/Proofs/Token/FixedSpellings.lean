import LexicalFront.Token.Cooking
import LexicalFront.Proofs.Scanner
import LexicalFront.Proofs.Token.MaximalMunch
import LexicalFront.Proofs.Token.Tiling
set_option autoImplicit false
set_option relaxedAutoImplicit false

/-!
# Words and operators with a fixed spelling

A token is a reserved word or an operator exactly if it is spelled like one. The tables by which
the tokenizer comes to this agree: the marks that send the scanner to the operators, the operators
by their tags, the spellings of the tags, the operators of the tags, and the reserved words by their
lengths. Where a table is asked for an operator it has one, so what the tokenizer would do without
is never done.

## Main results

* `LexicalFront.Keyword.lookup?_eq` — looking a text up by its length finds the reserved word that
  is spelled so.
* `LexicalFront.RawTag.map_startOf?` — searching the tags finds the operators.
* `LexicalFront.Cursor.rawToken_spec` — the lexeme found by the tables is the one at the cursor.
* `LexicalFront.Tokenizer.nextCooked_eq` — the tables give the tokens.
* `LexicalFront.fixed_spellings` — the spellings of reserved words and operators are theirs alone.
-/

namespace LexicalFront

/-! ## Reserved words by their lengths -/

namespace Keyword

/-- What is listed for a length is spelled as it is listed. -/
lemma spelling_of_mem_withLength {n : Nat} (hn : n ≤ 9) {text : String} {k : Keyword}
    (h : (text, k) ∈ withLength n) : k.spelling = text := by
  have hall : ∀ n < 10, ∀ entry ∈ withLength n, entry.2.spelling = entry.1 := by decide
  exact hall n (Nat.lt_succ_of_le hn) _ h

/-- Every reserved word is found by its spelling. -/
lemma lookup?_spelling (k : Keyword) : lookup? k.spelling = some k := by
  cases k <;> decide

/-- A reserved word that is found is spelled like the text. -/
lemma spelling_of_lookup? {text : String} {k : Keyword} (h : lookup? text = some k) :
    k.spelling = text := by
  unfold lookup? at h
  dsimp only at h
  split at h
  · next hguard =>
    obtain ⟨before, after, heq, -⟩ := List.lookup_eq_some_iff.1 h
    refine spelling_of_mem_withLength hguard.2.1 ?_
    rw [heq]
    exact List.mem_append_right _ (List.mem_cons_self ..)
  · exact absurd h nofun

/-- Looking a text up finds the reserved word that is spelled so. -/
theorem lookup?_eq (text : String) : lookup? text = ofSpelling? text := by
  cases hfound : lookup? text with
  | some k => rw [← spelling_of_lookup? hfound, ofSpelling?_spelling]
  | none =>
    cases hspelled : ofSpelling? text with
    | none => rfl
    | some k =>
      rw [← spelling_of_ofSpelling? hspelled, lookup?_spelling] at hfound
      exact absurd hfound nofun

end Keyword

/-! ## Operators by their tags -/

namespace RawTag

/-- A tag has the spelling of its operator. -/
lemma lexeme?_eq (t : RawTag) : t.lexeme? = t.cookOperator?.map Operator.spelling := by
  cases t <;> rfl

/-- The tags are listed as the operators are. -/
lemma map_cookOperator?_operators :
    operators.map cookOperator? = Operator.all.map some := rfl

/-- Bytes that spell an operator are found among the tags. -/
lemma map_ofBytes? (bytes : List UInt8) :
    (ofBytes? bytes).map cookOperator? = (Operator.ofBytes? bytes).map some := by
  have hmatch : (fun t : RawTag => t.lexeme?.any fun s => utf8Bytes s.toList == bytes) =
      (fun o? : Option Operator => o?.any fun o => utf8Bytes o.spelling.toList == bytes) ∘
        cookOperator? := by
    funext t
    rw [lexeme?_eq, Option.any_map]
    rfl
  rw [ofBytes?, hmatch, ← List.find?_map, map_cookOperator?_operators, List.find?_map]
  rfl

/-- The search for the longest operator finds the same among the tags. -/
theorem map_startOf? (bytes : List UInt8) (n : Nat) :
    (startOf? ofBytes? bytes n).map (fun found => (found.1.cookOperator?, found.2)) =
      (startOf? Operator.ofBytes? bytes n).map fun found => (some found.1, found.2) := by
  induction n with
  | zero => rfl
  | succ n ih =>
    have hbytes := map_ofBytes? (bytes.take (n + 1))
    rw [startOf?, startOf?]
    cases htag : ofBytes? (bytes.take (n + 1)) with
    | none =>
      rw [htag, Option.map_none, eq_comm, Option.map_eq_none_iff] at hbytes
      rw [hbytes]
      exact ih
    | some tag =>
      rw [htag, Option.map_some, eq_comm, Option.map_eq_some_iff] at hbytes
      obtain ⟨o, ho, hcook⟩ := hbytes
      rw [ho]
      simp only [Option.map_some, hcook]

end RawTag

/-! ## The way to the operators -/

namespace Cursor

/-- Where the scanner is sent to the operators, a character begins by which an operator is
spelled. -/
lemma exists_before_of_atOperator {c : Cursor} (h : c.atOperator = true) :
    ∃ x cs, c.Before (x :: cs) ∧ c.peek 0 = x ∧ (x ∈ operatorMarks ∨
      x = '/' ∧ c.peek 1 ≠ '/' ∧ c.peek 1 ≠ '*') := by
  rw [atOperator, Bool.and_eq_true, Bool.not_eq_true', decide_eq_true_eq] at h
  obtain ⟨hend, hmark⟩ := h
  have hascii : IsAscii (c.peek 0) := by
    rcases hmark with hmem | ⟨hslash, -⟩
    · exact isAscii_of_mem_operatorMarks hmem
    · rw [hslash]
      decide
  rcases before_or_inside hend with ⟨x, cs, hbefore⟩ | ⟨n, cs, hinside⟩
  · have hx : IsAscii x := by
      by_contra hx
      exact not_isAscii_ofUInt8 (hbefore.le_current_iff.2 hx) hascii
    have hpeek : c.peek 0 = x := hbefore.peek_of_isAscii hx
    exact ⟨x, cs, hbefore, hpeek, hpeek ▸ hmark⟩
  · exact absurd hascii (not_isAscii_ofUInt8 hinside.le_current)

/-- Each of these characters is an operator by itself. -/
lemma exists_spelling_of_mark {x : Char} (h : x ∈ operatorMarks ∨ x = '/') :
    ∃ o : Operator, o.spelling.toList = [x] := by
  have hall : ('/' :: operatorMarks).all
      (fun x => Operator.all.any fun o => o.spelling.toList == [x]) = true := by decide
  have hany := List.all_eq_true.1 hall x (List.mem_cons.2 h.symm)
  obtain ⟨o, -, ho⟩ := List.any_eq_true.1 hany
  exact ⟨o, beq_iff_eq.1 ho⟩

/-- There the scanner takes an operator off. -/
lemma takeLexeme_of_atOperator {c : Cursor} (h : c.atOperator = true) :
    c.takeLexeme = c.takeOperator := by
  obtain ⟨x, cs, hbefore, hpeek, hmark⟩ := exists_before_of_atOperator h
  have hend : c.atEnd = false := by
    rw [Bool.eq_false_iff, ne_eq, hbefore.atEnd_iff]
    exact List.cons_ne_nil x cs
  have hother : operatorMarks.all (fun x => decide (isBlank x = false ∧ x ≠ '\r' ∧ x ≠ '\n' ∧
      (isAsciiLetter x || x == '_') = false ∧ Radix.decimal.isDigit x = false ∧ x ≠ '"' ∧
      x ≠ '/')) = true := by decide
  rcases hmark with hmem | ⟨rfl, hline, hblock⟩
  · obtain ⟨hblank, hreturn, hfeed, hletter, hdigit, hquote, hslash⟩ :=
      of_decide_eq_true (List.all_eq_true.1 hother x hmem)
    simp only [takeLexeme, hend, hpeek, hblank, hreturn, hfeed, hletter, hdigit, hquote, hslash,
      hmem, Bool.false_eq_true, if_false, if_true]
  · rw [takeLexeme, hend, if_neg Bool.false_ne_true, hpeek]
    exact (if_neg hline).trans (if_neg hblock)

/-- And it finds one. -/
lemma exists_startOf?_of_atOperator {c : Cursor} (h : c.atOperator = true) :
    ∃ o n, startOf? Operator.ofBytes? c.rest (min Operator.maxLength c.rest.length) =
      some (o, n) := by
  obtain ⟨x, cs, hbefore, -, hmark⟩ := exists_before_of_atOperator h
  obtain ⟨o, ho⟩ := exists_spelling_of_mark (hmark.imp_right And.left)
  rw [hbefore.rest_eq, Operator.startOf?_utf8Bytes]
  cases hlongest : Operator.longest? (x :: cs) with
  | none =>
    have hprefix : o.spelling.toList <+: x :: cs := ho ▸ ⟨cs, rfl⟩
    exact absurd hprefix (Operator.longest?_eq_none_iff.1 hlongest o)
  | some p => exact ⟨p, _, rfl⟩

/-- Its tag is found in the table, and the operator of the tag in the other one. -/
lemma exists_rawStartOf?_of_atOperator {c : Cursor} (h : c.atOperator = true) :
    ∃ tag o n, startOf? RawTag.ofBytes? c.rest (min Operator.maxLength c.rest.length) =
        some (tag, n) ∧
      tag.cookOperator? = some o ∧ c.takeLexeme = ⟨.operator o, n, c.advance n⟩ := by
  obtain ⟨o, n, hstart⟩ := exists_startOf?_of_atOperator h
  have hmap := RawTag.map_startOf? c.rest (min Operator.maxLength c.rest.length)
  rw [hstart, Option.map_some, Option.map_eq_some_iff] at hmap
  obtain ⟨⟨tag, m⟩, htag, heq⟩ := hmap
  obtain ⟨hcook, rfl⟩ := Prod.mk.inj heq
  refine ⟨tag, o, m, htag, hcook, ?_⟩
  rw [takeLexeme_of_atOperator h, takeOperator, hstart]
  show Taken.mk _ (c.pos + m - c.pos) _ = _
  rw [Nat.add_sub_cancel_left]

end Cursor

/-! ## The next token -/

namespace RawTag

/-- The tag of an operator makes it that operator. -/
lemma cook_of_cookOperator? {t : RawTag} {o : Operator} (h : t.cookOperator? = some o)
    (text : String) : t.cook text = .operator o ∧ t ≠ .eof := by
  cases t <;> cases h <;> exact ⟨rfl, nofun⟩

/-- A lexeme that is no operator gets the same kind. -/
lemma cook_ofTag {t : Tag} (h : t.group ≠ .operator) (text : String) :
    (ofTag t h).cook text = .ofTag t text := by
  cases t with
  | identifier =>
    rw [ofTag, cook, Keyword.lookup?_eq, Kind.ofTag]
    cases Keyword.ofSpelling? text <;> rfl
  | integer r => cases r <;> rfl
  | operator o => exact absurd rfl h
  | _ => rfl

/-- The tag of the end is that of the end. -/
lemma ofTag_eq_eof_iff {t : Tag} (h : t.group ≠ .operator) :
    ofTag t h = .eof ↔ t = .endOfInput := by
  cases t with
  | integer r => cases r <;> exact ⟨nofun, nofun⟩
  | operator o => exact absurd rfl h
  | endOfInput => exact ⟨fun _ => rfl, fun _ => rfl⟩
  | _ => exact ⟨nofun, nofun⟩

/-- Only the tag for a character that begins nothing says that it is unexpected. -/
lemma cook_eq_unexpectedCharacter_iff (t : RawTag) (text : String) :
    t.cook text = .malformed .unexpectedCharacter ↔ t = .invalidChar := by
  cases t with
  | ident =>
    rw [cook]
    cases Keyword.lookup? text <;> exact ⟨nofun, nofun⟩
  | invalidChar => exact ⟨fun _ => rfl, fun _ => rfl⟩
  | _ => exact ⟨nofun, nofun⟩

end RawTag

/-- The tables lead to the lexeme that is at the cursor. -/
theorem Cursor.rawToken_spec (c : Cursor) :
    (∀ text, c.rawToken.tag.cook text = .ofTag c.takeLexeme.tag text) ∧
      (c.rawToken.tag = .eof ↔ c.takeLexeme.tag = .endOfInput) ∧
      c.rawToken.length = c.takeLexeme.length ∧ c.rawToken.rest = c.takeLexeme.rest := by
  by_cases h : c.atOperator = true
  · obtain ⟨tag, o, n, hstart, hcook, htaken⟩ := exists_rawStartOf?_of_atOperator h
    have hraw : c.rawToken = ⟨tag, n, c.advance n⟩ := by
      rw [rawToken, dif_pos h, rawOperator, hstart]
    rw [hraw, htaken]
    refine ⟨fun text => (RawTag.cook_of_cookOperator? hcook text).1, ?_, rfl, rfl⟩
    exact ⟨fun heof => absurd heof (RawTag.cook_of_cookOperator? hcook "").2, nofun⟩
  · rw [rawToken, dif_neg h]
    exact ⟨RawTag.cook_ofTag _, RawTag.ofTag_eq_eof_iff _, rfl, rfl⟩

/-- The next token by the tables is the next token. -/
theorem Tokenizer.nextCooked_eq (t : Tokenizer) : t.nextCooked = t.next := by
  obtain ⟨hcook, heof, hlength, hrest⟩ := t.cursor.rawToken_spec
  have htaken := t.cursor.takeLexeme_eq
  have hend : (t.cursor.rawToken.tag == .eof) = (t.cursor.scan.1 == .endOfInput) := by
    rw [htaken] at heof
    rw [Bool.eq_iff_iff, beq_iff_eq, beq_iff_eq]
    exact heof
  rw [nextCooked, next, tokenAt]
  simp only [hcook, hlength, hrest, htaken, hend]

/-! ## The tokens of a text -/

/-- Before the end marker, a token is as long as the grammar lets it be. -/
lemma munched_of_mem_dropLast {text : String} {t : Token} (h : t ∈ (tokenize text).dropLast) :
    ∃ rest, Munched t rest := by
  obtain ⟨before, c, rest, -, rfl⟩ := mem_dropLast_tokenize h
  by_cases htag : (firstExtent c rest).tag = .invalidChar
  · exact ⟨_, munched_of_invalidChar _ htag⟩
  · exact ⟨_, munched_of_ne_invalidChar _ htag⟩

/-- A token whose text is in a class has the kind of the class. -/
lemma Munched.kind_of_form {t : Token} {rest : List Char} (h : Munched t rest) {u : Tag}
    (hform : u.Form t.text.toList) : t.kind = .ofTag u t.text := by
  obtain ⟨other, hlongest, hkind⟩ := h.longest ⟨u, _, h.isPrefix, hform⟩
  rw [hkind, hlongest.form.unique hform]

/-- Only an operator has the kind of an operator. -/
lemma Kind.ofTag_eq_operator_iff {tag : Tag} {text : String} {o : Operator} :
    Kind.ofTag tag text = .operator o ↔ tag = .operator o := by
  cases tag with
  | identifier =>
    rw [Kind.ofTag]
    cases Keyword.ofSpelling? text <;> simp
  | operator p => rw [Kind.ofTag, Kind.operator.injEq, Tag.operator.injEq]
  | _ => simp [Kind.ofTag]

/-- An operator is spelled as it is, and what is spelled so is the operator. -/
lemma Munched.operator_iff {t : Token} {rest : List Char} (h : Munched t rest) (o : Operator) :
    t.kind = .operator o ↔ t.text = o.spelling := by
  constructor
  · intro hkind
    have hpiece : ∃ tag piece, piece <+: rest ∧ Tag.Form tag piece := by
      by_contra hnone
      have hunexpected := h.unexpected.2 fun tag piece hpre hform =>
        hnone ⟨tag, piece, hpre, hform⟩
      rw [hkind] at hunexpected
      exact absurd hunexpected nofun
    obtain ⟨tag, hlongest, htag⟩ := h.longest hpiece
    rw [hkind, eq_comm, Kind.ofTag_eq_operator_iff] at htag
    subst htag
    exact String.toList_inj.1 hlongest.form
  · intro hspelled
    exact h.kind_of_form (u := .operator o) (congrArg String.toList hspelled)

/-- The spellings of reserved words and of operators are theirs alone: a token is the reserved word,
or the operator, exactly if it is spelled like it, and so no other word is spelled like one. The
tokens are those that the tables give, a step at a time from any place. Wherever the scanner is sent
to the operators it finds the tag of one, of which the other table makes the operator; and no tag
but that of a character that begins nothing makes a lexeme an unexpected character.

**Proof sketch.** Tokens before the end marker are munched, which decides between words and
operators by their text; the end marker is empty, and no spelling is. A word that is spelled like a
keyword or an operator would be one. The rest is about the two tables, which hold the same operators
under their tags. -/
theorem fixed_spellings (text : String) :
    (∀ t ∈ tokenize text,
      (∀ k : Keyword, t.kind = .keyword k ↔ t.text = k.spelling) ∧
      (∀ o : Operator, t.kind = .operator o ↔ t.text = o.spelling) ∧
      (t.kind = .identifier →
        (∀ k : Keyword, t.text ≠ k.spelling) ∧ ∀ o : Operator, t.text ≠ o.spelling)) ∧
    (Tokenizer.start text).Yields (tokenize text) ∧
    (∀ t : Tokenizer, t.nextCooked = t.next) ∧
    (∀ c : Cursor, c.atOperator = true →
      ∃ tag o n, startOf? RawTag.ofBytes? c.rest (min Operator.maxLength c.rest.length) =
          some (tag, n) ∧
        tag.cookOperator? = some o ∧ tag.lexeme? = some o.spelling ∧
        c.takeLexeme = ⟨.operator o, n, c.advance n⟩) ∧
    ∀ (tag : RawTag) (word : String),
      tag.cook word = .malformed .unexpectedCharacter ↔ tag = .invalidChar := by
  have hspelled (t : Token) (ht : t ∈ tokenize text) :
      (∀ k : Keyword, t.kind = .keyword k ↔ t.text = k.spelling) ∧
        ∀ o : Operator, t.kind = .operator o ↔ t.text = o.spelling := by
    rw [tokenize_eq_dropLast_append, List.mem_append, List.mem_singleton] at ht
    rcases ht with ht | rfl
    · obtain ⟨rest, hmunched⟩ := munched_of_mem_dropLast ht
      exact ⟨hmunched.keyword, hmunched.operator_iff⟩
    -- the end marker is empty, and no spelling is
    · refine ⟨fun k => ⟨nofun, fun h => ?_⟩, fun o => ⟨nofun, fun h => ?_⟩⟩
      · obtain ⟨c, rest, hword, -⟩ := k.isWord_spelling
        rw [← h] at hword
        exact absurd hword nofun
      · have hlength := o.length_spelling.1
        rw [← h] at hlength
        exact absurd hlength (Nat.lt_irrefl 0)
  refine ⟨fun t ht => ?_, Tokenizer.yields_tokenize text, Tokenizer.nextCooked_eq, fun c h => ?_,
    RawTag.cook_eq_unexpectedCharacter_iff⟩
  · obtain ⟨hkeyword, hoperator⟩ := hspelled t ht
    refine ⟨hkeyword, hoperator, fun hword => ⟨fun k hk => ?_, fun o ho => ?_⟩⟩
    · rw [(hkeyword k).2 hk] at hword
      exact absurd hword nofun
    · rw [(hoperator o).2 ho] at hword
      exact absurd hword nofun
  · obtain ⟨tag, o, n, hstart, hcook, htaken⟩ := Cursor.exists_rawStartOf?_of_atOperator h
    exact ⟨tag, o, n, hstart, hcook, by rw [RawTag.lexeme?_eq, hcook, Option.map_some], htaken⟩

end LexicalFront
