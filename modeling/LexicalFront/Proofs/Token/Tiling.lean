import LexicalFront.Proofs.Token.Places
import LexicalFront.Tokenizer
import Mathlib.Data.List.Chain
set_option autoImplicit false
set_option relaxedAutoImplicit false

/-!
# Tokens cover their text

Every text has tokens, and they cover it: each starts where the one before it stops, none is empty
but the end marker, and their texts put together are the text. The tokens are handed out one at a
time by a tokenizer that knows only a byte position; this module shows that the position is between
two characters whenever it is asked, so that no token loses its text.

## Main definitions

* `LexicalFront.Tokenizer.Yields` — the tokens that a tokenizer hands out until there are no more.
* `LexicalFront.Tiling` — tokens that cover a text.

## Main results

* `LexicalFront.Tokenizer.yields_tokenize` — a tokenizer hands out the tokens of its text.
* `LexicalFront.tokenizer_tiling` — they cover the text.
-/

namespace LexicalFront

/-! ## Handing out tokens -/

namespace Tokenizer

/-- Asking a tokenizer for tokens until there are no more gives these. -/
inductive Yields : Tokenizer → List Token → Prop where
  | none {t : Tokenizer} : t.next.1 = none → Yields t []
  | some {t : Tokenizer} {token : Token} {tokens : List Token} :
    t.next.1 = some token → Yields t.next.2 tokens → Yields t (token :: tokens)

end Tokenizer

/-- A cursor between two characters looks at the lexeme that starts there. -/
lemma Cursor.scan_of_boundary {before rest : List Char} {c : Char} :
    Cursor.scan ⟨String.ofList (before ++ c :: rest), utf8Length before⟩ =
      ((firstExtent c rest).tag,
        utf8Length (c :: rest.take (firstExtent c rest).more)) := by
  have hsize := c.utf8Size_pos
  have hend : Cursor.atEnd ⟨String.ofList (before ++ c :: rest), utf8Length before⟩ = false := by
    rw [Cursor.atEnd, Cursor.sourceLength, ← utf8Length_toList, String.toList_ofList,
      utf8Length_append, utf8Length_cons, decide_eq_false_iff_not]
    show ¬utf8Length before + (c.utf8Size + utf8Length rest) ≤ utf8Length before
    omega
  have hrest : Cursor.remaining? ⟨String.ofList (before ++ c :: rest), utf8Length before⟩ =
      some (c :: rest) := by
    rw [Cursor.remaining?, String.toList_ofList]
    exact dropBytes?_eq_some_iff.2 ⟨before, rfl, rfl⟩
  simp only [Cursor.scan, hend, hrest, Bool.false_eq_true, if_false]

/-- A cursor behind the last character is at the end. -/
lemma Cursor.scan_of_end (cs : List Char) :
    Cursor.scan ⟨String.ofList cs, utf8Length cs⟩ = (.endOfInput, 0) := by
  have hend : Cursor.atEnd ⟨String.ofList cs, utf8Length cs⟩ = true := by
    rw [Cursor.atEnd, Cursor.sourceLength, ← utf8Length_toList, String.toList_ofList]
    exact decide_eq_true le_rfl
  rw [Cursor.scan, if_pos hend]

/-- No rule ends the text. -/
lemma firstExtent_tag_ne_endOfInput (c : Char) (cs : List Char) :
    (firstExtent c cs).tag ≠ .endOfInput := by
  intro h
  obtain ⟨piece, rest, -, -, hinvalid | hform⟩ := firstExtent_cut c cs
  · exact absurd (h.symm.trans hinvalid.1) (by decide)
  · rw [h] at hform
    exact hform

/-- Only at the end of the text there is an end of input. -/
lemma Cursor.scan_tag_ne_endOfInput (c : Cursor) (h : ¬c.atEnd = true) :
    c.scan.1 ≠ .endOfInput := by
  rw [Cursor.scan, if_neg h]
  split
  · exact firstExtent_tag_ne_endOfInput _ _
  · exact (by decide : Tag.invalidChar ≠ .endOfInput)

/-- A piece of a text is what its place cuts out of the text. -/
lemma slice?_ofLexeme (before after : List Char) (l : Lexeme) :
    (Token.ofLexeme (utf8Length before) l).span.slice?
        (String.ofList (before ++ l.chars ++ after)) =
      some (Token.ofLexeme (utf8Length before) l).text :=
  sliceBytes?_append before l.chars after

namespace Tokenizer

/-- Between two characters a tokenizer hands out the lexeme that starts there. -/
lemma tokenAt_of_boundary (before rest : List Char) (c : Char) :
    tokenAt ⟨String.ofList (before ++ c :: rest), utf8Length before⟩ =
      Token.ofLexeme (utf8Length before)
        ⟨(firstExtent c rest).tag, c :: rest.take (firstExtent c rest).more⟩ := by
  have hslice := slice?_ofLexeme before (rest.drop (firstExtent c rest).more)
    ⟨(firstExtent c rest).tag, c :: rest.take (firstExtent c rest).more⟩
  rw [List.append_assoc, List.cons_append, List.take_append_drop] at hslice
  rw [tokenAt, Cursor.scan_of_boundary]
  simp only [Token.ofLexeme] at hslice ⊢
  rw [hslice, Option.getD_some]

/-- Behind the last character a tokenizer hands out the end marker. -/
lemma tokenAt_of_end (cs : List Char) :
    tokenAt ⟨String.ofList cs, utf8Length cs⟩ = Token.endMarker (utf8Length cs) := by
  have hslice := slice?_ofLexeme cs [] ⟨.endOfInput, []⟩
  rw [List.append_nil, List.append_nil] at hslice
  simp only [Token.ofLexeme] at hslice
  rw [tokenAt, Cursor.scan_of_end]
  simp only
  rw [utf8Length_nil] at hslice
  rw [hslice]
  rfl

/-- Between two characters the lexeme that starts there is handed out, and the tokenizer stands
behind it, again between two characters. -/
lemma next_of_boundary (before rest : List Char) (c : Char) :
    next ⟨⟨String.ofList (before ++ c :: rest), utf8Length before⟩, false⟩ =
      (some (Token.ofLexeme (utf8Length before)
          ⟨(firstExtent c rest).tag, c :: rest.take (firstExtent c rest).more⟩),
        ⟨⟨String.ofList (before ++ c :: rest),
          utf8Length (before ++ c :: rest.take (firstExtent c rest).more)⟩, false⟩) := by
  simp only [next, Bool.false_eq_true, if_false, tokenAt_of_boundary, Cursor.afterScan,
    Cursor.advance, Cursor.scan_of_boundary, utf8Length_append]
  rw [beq_false_of_ne (firstExtent_tag_ne_endOfInput c rest)]

/-- Behind the last character the end marker is handed out, and the tokenizer is finished. -/
lemma next_of_end (cs : List Char) :
    next ⟨⟨String.ofList cs, utf8Length cs⟩, false⟩ =
      (some (Token.endMarker (utf8Length cs)), ⟨⟨String.ofList cs, utf8Length cs⟩, true⟩) := by
  simp only [next, Bool.false_eq_true, if_false, tokenAt_of_end, Cursor.afterScan, Cursor.advance,
    Cursor.scan_of_end, Nat.add_zero, BEq.rfl]

/-- From a place between two characters on a tokenizer hands out the tokens of the lexemes there.

**Proof sketch.** Induction on the lexemes of the rest. The place behind a lexeme is again between
two characters, since the length of the lexeme is that of its characters. -/
lemma yields_ofLexemes (before rest : List Char) :
    Yields ⟨⟨String.ofList (before ++ rest), utf8Length before⟩, false⟩
      (Token.ofLexemes (utf8Length before) (lexemes rest)) := by
  fun_induction lexemes rest generalizing before with
  | case1 =>
    rw [List.append_nil]
    have hnext := next_of_end before
    refine .some (congrArg Prod.fst hnext) (.none ?_)
    rw [hnext]
    rfl
  | case2 c rest extent ih =>
    have hplace := ih (before ++ c :: rest.take extent.more)
    rw [List.append_assoc, List.cons_append, List.take_append_drop] at hplace
    have hnext := next_of_boundary before rest c
    refine .some (congrArg Prod.fst hnext) ?_
    rw [hnext]
    rw [utf8Length_append] at hplace ⊢
    exact hplace

/-- A tokenizer hands out the tokens of its text. -/
theorem yields_tokenize (text : String) : Yields (start text) (tokenize text) := by
  have h := yields_ofLexemes [] text.toList
  rw [List.nil_append, String.ofList_toList] at h
  exact h

/-- A tokenizer that hands out nothing has nothing to come. -/
lemma toList_of_next_eq_none {t : Tokenizer} (h : t.next.1 = none) : t.toList = [] := by
  cases hf : t.finished with
  | true => rw [toList, if_pos hf]
  | false =>
    rw [next, hf] at h
    exact absurd h (by simp)

/-- The token that is handed out is the first one to come. -/
lemma toList_of_next_eq_some {t : Tokenizer} {token : Token} (h : t.next.1 = some token) :
    t.toList = token :: t.next.2.toList := by
  cases hf : t.finished with
  | true =>
    rw [next, if_pos hf] at h
    exact absurd h (by simp)
  | false =>
    have hnext : t.next =
        (some (tokenAt t.cursor), ⟨t.cursor.afterScan, t.cursor.scan.1 == .endOfInput⟩) := by
      rw [next, hf]
      rfl
    rw [hnext] at h ⊢
    obtain rfl := Option.some.inj h
    rw [toList, hf, if_neg Bool.false_ne_true]
    by_cases hend : t.cursor.atEnd = true
    · have hscan : t.cursor.scan = (.endOfInput, 0) := by rw [Cursor.scan, if_pos hend]
      rw [dif_pos hend, hscan, toList]
      rfl
    · rw [dif_neg hend, beq_false_of_ne (t.cursor.scan_tag_ne_endOfInput hend)]

/-- All tokens to come are those that are handed out. -/
theorem Yields.toList_eq {t : Tokenizer} {tokens : List Token} (h : Yields t tokens) :
    t.toList = tokens := by
  induction h with
  | none h => exact toList_of_next_eq_none h
  | some h _ ih => rw [toList_of_next_eq_some h, ih]

end Tokenizer

/-! ## Covering the text -/

/-- Tokens that cover a text without gaps and without overlaps, each with the text of its place, and
the end marker behind them. -/
structure Tiling (text : String) (tokens : List Token) : Prop where
  /-- The first one starts at the first byte. -/
  starts : tokens.head?.map (·.span.start) = some 0
  /-- Each starts where the one before it stops. -/
  adjacent : tokens.IsChain fun a b => a.span.stop = b.span.start
  /-- The last one stops behind the last byte. -/
  stops : tokens.getLast?.map (·.span.stop) = some text.utf8ByteSize
  /-- All places are between two characters. -/
  boundaries : ∀ t ∈ tokens, (String.Pos.Raw.mk t.span.start).IsValid text ∧
    (String.Pos.Raw.mk t.span.stop).IsValid text
  /-- The text of each is cut out of the text by its place. -/
  slices : ∀ t ∈ tokens, t.span.slice? text = some t.text
  /-- Byte for byte, too. -/
  bytes : ∀ t ∈ tokens, text.toByteArray.extract t.span.start t.span.stop = t.text.toByteArray
  /-- The end marker is the last one, and the only one that is empty. -/
  ending : ∃ front, tokens = front ++ [.endMarker text.utf8ByteSize] ∧
    ∀ t ∈ front, t.isEnd = false ∧ t.text ≠ "" ∧ t.span.start < t.span.stop
  /-- Nothing of the text is lost. -/
  join : String.join (tokens.map (·.text)) = text

/-- Each token starts where the one before it stops. -/
lemma isChain_ofLexemes (start : Nat) (ls : List Lexeme) :
    (Token.ofLexemes start ls).IsChain fun a b => a.span.stop = b.span.start := by
  induction ls generalizing start with
  | nil => exact .singleton _
  | cons l ls ih =>
    have hhead := Token.head?_ofLexemes (start + utf8Length l.chars) ls
    rw [Token.ofLexemes]
    cases htail : Token.ofLexemes (start + utf8Length l.chars) ls with
    | nil => exact .singleton _
    | cons t ts =>
      have ht := ih (start + utf8Length l.chars)
      rw [htail] at hhead ht
      exact .cons_cons (Option.some.inj hhead).symm ht

/-- The texts of tokens, put together, are the characters of their lexemes. -/
lemma join_ofLexemes (start : Nat) (ls : List Lexeme) :
    String.join ((Token.ofLexemes start ls).map (·.text)) =
      String.ofList (ls.flatMap Lexeme.chars) := by
  induction ls generalizing start with
  | nil => rfl
  | cons l ls ih =>
    rw [Token.ofLexemes, List.map_cons, String.join_cons, ih, List.flatMap_cons,
      String.ofList_append]
    rfl

/-- The place behind some characters of a text is between two characters. -/
lemma isValid_utf8Length (before after : List Char) :
    (String.Pos.Raw.mk (utf8Length before)).IsValid (String.ofList (before ++ after)) := by
  rw [String.ofList_append]
  refine String.Pos.Raw.isValid_iff_exists_append.2 ⟨_, _, rfl, ?_⟩
  rw [String.Pos.Raw.ext_iff, String.byteIdx_rawEndPos, ← utf8Length_toList, String.toList_ofList]

/-- The bytes at the place of a piece of a text are those of the piece. -/
lemma extract_toByteArray (before piece after : List Char) :
    (String.ofList (before ++ piece ++ after)).toByteArray.extract (utf8Length before)
        (utf8Length before + utf8Length piece) =
      (String.ofList piece).toByteArray := by
  have hlen (cs : List Char) : utf8Length cs = (String.ofList cs).toByteArray.size := by
    rw [String.size_toByteArray, ← utf8Length_toList, String.toList_ofList]
  rw [String.ofList_append, String.ofList_append, String.toByteArray_append,
    String.toByteArray_append, hlen before, hlen piece, ← ByteArray.size_append,
    ByteArray.extract_append_size_left]
  exact ByteArray.extract_append_eq_right rfl ByteArray.size_append

/-- Only the end of the text makes an end marker. -/
lemma Kind.isEnd_ofTag {tag : Tag} (text : String) (h : tag ≠ .endOfInput) :
    (Kind.ofTag tag text).isEnd = false := by
  cases tag with
  | endOfInput => exact absurd rfl h
  | identifier =>
    rw [Kind.ofTag]
    cases Keyword.ofSpelling? text with
    | none => rfl
    | some k => rfl
  | _ => rfl

/-- Before the end marker, a token has the text of its place, which is not empty.

**Proof sketch.** A token before the end marker is the first lexeme of some rest of the text, which
cuts the text into three: what is before it, its characters, and the others. Its places are the
lengths of the first two, hence boundaries, and between them are its characters. -/
lemma tiling_of_mem_dropLast {text : String} {t : Token} (h : t ∈ (tokenize text).dropLast) :
    ((String.Pos.Raw.mk t.span.start).IsValid text ∧
      (String.Pos.Raw.mk t.span.stop).IsValid text) ∧
    t.span.slice? text = some t.text ∧
    text.toByteArray.extract t.span.start t.span.stop = t.text.toByteArray ∧
    t.isEnd = false ∧ t.text ≠ "" ∧ t.span.start < t.span.stop := by
  obtain ⟨before, c, rest, htext, rfl⟩ := mem_dropLast_tokenize h
  have hcut : text = String.ofList (before ++ c :: rest.take (firstExtent c rest).more ++
      rest.drop (firstExtent c rest).more) := by
    rw [List.append_assoc, List.cons_append, List.take_append_drop, ← htext, String.ofList_toList]
  refine ⟨⟨?_, ?_⟩, ?_, ?_, Kind.isEnd_ofTag _ (firstExtent_tag_ne_endOfInput c rest), ?_, ?_⟩
  · rw [hcut, List.append_assoc]
    exact isValid_utf8Length before _
  · rw [hcut, Token.ofLexeme, ← utf8Length_append]
    exact isValid_utf8Length _ _
  · rw [hcut]
    exact slice?_ofLexeme before _ _
  · rw [hcut]
    exact extract_toByteArray before _ _
  · intro hempty
    have hchars : c :: rest.take (firstExtent c rest).more = [] := by
      rw [← String.toList_ofList (l := c :: _)]
      exact congrArg String.toList hempty
    exact List.cons_ne_nil _ _ hchars
  · have hsize := c.utf8Size_pos
    show utf8Length before < utf8Length before + utf8Length (c :: _)
    rw [utf8Length_cons]
    omega

/-- The end marker has the text of its place, too, but that is empty. -/
lemma tiling_endMarker (text : String) :
    (String.Pos.Raw.mk text.utf8ByteSize).IsValid text ∧
    (Span.point text.utf8ByteSize).slice? text = some "" ∧
    text.toByteArray.extract text.utf8ByteSize text.utf8ByteSize = "".toByteArray := by
  have hplace := isValid_utf8Length text.toList []
  have hslice := slice?_ofLexeme text.toList [] ⟨.endOfInput, []⟩
  have hbytes := extract_toByteArray text.toList [] []
  simp only [List.append_nil, String.ofList_toList, utf8Length_toList, Token.ofLexeme,
    utf8Length_nil, Nat.add_zero] at hplace hslice hbytes
  exact ⟨hplace, hslice, hbytes⟩

/-- The tokens of a text cover it.

**Proof sketch.** The end marker and the tokens before it are looked at apart: each token before it
is what the scanner finds at its place, which gives its boundaries and its text, and the texts put
together are the characters of the lexemes. -/
lemma tiling_tokenize (text : String) : Tiling text (tokenize text) := by
  have hsplit := tokenize_eq_dropLast_append text
  obtain ⟨hplace, hslice, hbytes⟩ := tiling_endMarker text
  have hcases (t : Token) (ht : t ∈ tokenize text) :
      t ∈ (tokenize text).dropLast ∨ t = .endMarker text.utf8ByteSize := by
    rw [hsplit, List.mem_append, List.mem_singleton] at ht
    exact ht
  refine ⟨?_, ?_, ?_, ?_, ?_, ?_, ?_, ?_⟩
  · exact Token.head?_ofLexemes 0 _
  · exact isChain_ofLexemes 0 _
  · rw [hsplit, List.getLast?_concat]
    rfl
  · intro t ht
    rcases hcases t ht with ht | rfl
    · exact (tiling_of_mem_dropLast ht).1
    · exact ⟨hplace, hplace⟩
  · intro t ht
    rcases hcases t ht with ht | rfl
    · exact (tiling_of_mem_dropLast ht).2.1
    · exact hslice
  · intro t ht
    rcases hcases t ht with ht | rfl
    · exact (tiling_of_mem_dropLast ht).2.2.1
    · exact hbytes
  · exact ⟨_, hsplit, fun t ht => (tiling_of_mem_dropLast ht).2.2.2⟩
  · rw [tokenize, join_ofLexemes, flatMap_lexemes, String.ofList_toList]

/-- Every text has tokens, which its tokenizer hands out one after the other until there are no
more, and they cover the text. -/
theorem tokenizer_tiling (text : String) :
    (Tokenizer.start text).Yields (tokenize text) ∧
      (Tokenizer.start text).toList = tokenize text ∧ Tiling text (tokenize text) :=
  have hyields := Tokenizer.yields_tokenize text
  ⟨hyields, hyields.toList_eq, tiling_tokenize text⟩

end LexicalFront
