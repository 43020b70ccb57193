import LexicalFront.Proofs.Token.Places
set_option autoImplicit false
set_option relaxedAutoImplicit false

/-!
# Tokens are as long as they can be

At its place every token is the longest piece of the text that any class of the grammar holds, and
its kind is that class; where no class holds a piece, the token is a single character. The classes
have no piece in common, so the kind says which class it is.

## Main definitions

* `LexicalFront.Munched` — a token that is as long as it can be at the start of a text.

## Main results

* `LexicalFront.maximal_munch` — every token before the end marker is of this sort.
-/

namespace LexicalFront

/-! ## Kinds and classes -/

/-- A reserved word is a word. -/
lemma Keyword.isWord_spelling (k : Keyword) : IsWord k.spelling.toList := by
  have hhead : ∃ c rest, k.spelling.toList = c :: rest ∧ isAsciiLetter c = true ∧
      rest.all isAsciiLetter = true := by
    cases k <;> exact ⟨_, _, rfl, by decide, by decide⟩
  obtain ⟨c, rest, heq, hc, hrest⟩ := hhead
  refine ⟨c, rest, heq, ?_, ?_⟩
  · rw [isIdentifierStart, hc, Bool.true_or, Bool.true_or]
  · intro d hd
    rw [isIdentifierPart, List.all_eq_true.1 hrest d hd, Bool.true_or, Bool.true_or, Bool.true_or]

/-- Only a character that begins nothing is unexpected. -/
lemma Kind.ofTag_eq_unexpectedCharacter_iff {tag : Tag} {text : String} :
    Kind.ofTag tag text = .malformed .unexpectedCharacter ↔ tag = .invalidChar := by
  cases tag with
  | identifier =>
    rw [Kind.ofTag]
    cases Keyword.ofSpelling? text with
    | none => exact ⟨nofun, nofun⟩
    | some k => exact ⟨nofun, nofun⟩
  | invalidChar => exact ⟨fun _ => rfl, fun _ => rfl⟩
  | _ => exact ⟨nofun, nofun⟩

/-- Only a word has the kind of a keyword, and only if it is spelled like it. -/
lemma Kind.ofTag_eq_keyword_iff {tag : Tag} {text : String} {k : Keyword} :
    Kind.ofTag tag text = .keyword k ↔ tag = .identifier ∧ text = k.spelling := by
  cases tag with
  | identifier =>
    rw [Kind.ofTag]
    cases hk : Keyword.ofSpelling? text with
    | none =>
      refine ⟨nofun, ?_⟩
      rintro ⟨-, rfl⟩
      rw [Keyword.ofSpelling?_spelling] at hk
      exact absurd hk nofun
    | some j =>
      have hspelling := Keyword.spelling_of_ofSpelling? hk
      constructor
      · intro h
        obtain rfl := Kind.keyword.inj h
        exact ⟨rfl, hspelling.symm⟩
      · rintro ⟨-, rfl⟩
        exact congrArg Kind.keyword (Keyword.spelling_injective hspelling)
  | _ => exact ⟨nofun, nofun⟩

/-! ## Maximal munch -/

/-- A token at the start of a text that is as long as the grammar lets it be. -/
structure Munched (t : Token) (rest : List Char) : Prop where
  /-- The token stands at the start. -/
  isPrefix : t.text.toList <+: rest
  /-- If any piece is in a class, the token is the longest one, and it has the kind of the class. -/
  longest : (∃ tag piece, piece <+: rest ∧ Tag.Form tag piece) →
    ∃ tag, Tag.IsLongest tag t.text.toList rest ∧ t.kind = .ofTag tag t.text
  /-- A word is a keyword if it is spelled like one. -/
  keyword : ∀ k, t.kind = .keyword k ↔ t.text = k.spelling
  /-- The token is unexpected only if no piece is in a class. -/
  unexpected : t.kind = .malformed .unexpectedCharacter ↔
    ∀ tag piece, piece <+: rest → ¬Tag.Form tag piece
  /-- Then it is one character. -/
  single : t.kind = .malformed .unexpectedCharacter → ∃ c, t.text.toList = [c]

/-- Where the scanner finds nothing, the token is one character.

**Proof sketch.** No piece that begins here is of any class (`not_form_of_invalidChar`), so that all
conditions on classes hold of nothing. A reserved word would be an identifier. The extent is one
character, since no form is cut off. -/
lemma munched_of_invalidChar (start : Nat) {c : Char} {rest : List Char}
    (h : (firstExtent c rest).tag = .invalidChar) :
    Munched (Token.ofLexeme start
      ⟨(firstExtent c rest).tag, c :: rest.take (firstExtent c rest).more⟩) (c :: rest) := by
  have hnone : ∀ tag piece, piece <+: c :: rest → ¬Tag.Form tag piece :=
    fun _ _ hpiece => not_form_of_invalidChar h hpiece
  have hmore : (firstExtent c rest).more = 0 := by
    obtain ⟨piece, -, -, hlen, ⟨-, hpiece⟩ | hform⟩ := firstExtent_cut c rest
    · rw [hlen, hpiece, List.length_nil]
    · rw [h] at hform
      exact hform.elim
  rw [h, hmore, List.take_zero, Token.ofLexeme]
  simp only
  refine ⟨?_, ?_, ?_, ?_, ?_⟩
  · rw [String.toList_ofList]
    exact ⟨rest, rfl⟩
  · rintro ⟨tag, piece, hpiece, hform⟩
    exact absurd hform (hnone tag piece hpiece)
  · intro k
    rw [Kind.ofTag_eq_keyword_iff]
    refine ⟨fun hk => absurd hk.1 (by decide), ?_⟩
    intro hk
    have hword := k.isWord_spelling
    rw [← hk, String.toList_ofList] at hword
    exact absurd hword (hnone .identifier [c] ⟨rest, rfl⟩)
  · exact ⟨fun _ => hnone, fun _ => rfl⟩
  · exact fun _ => ⟨c, String.toList_ofList⟩

/-- Where the scanner finds a piece of a class, the token is the longest one.

**Proof sketch.** The lexeme is the longest piece of any class (`firstExtent_isLongest`). Its text
decides whether it is a reserved word; that this is only asked of identifiers makes no difference,
because a reserved word is of their class, and a piece is of one class at most. -/
lemma munched_of_ne_invalidChar (start : Nat) {c : Char} {rest : List Char}
    (h : (firstExtent c rest).tag ≠ .invalidChar) :
    Munched (Token.ofLexeme start
      ⟨(firstExtent c rest).tag, c :: rest.take (firstExtent c rest).more⟩) (c :: rest) := by
  have hlongest := firstExtent_isLongest h
  have hunexpected : Kind.ofTag (firstExtent c rest).tag
      (String.ofList (c :: rest.take (firstExtent c rest).more)) ≠
        .malformed .unexpectedCharacter := by
    rw [Ne, Kind.ofTag_eq_unexpectedCharacter_iff]
    exact h
  rw [Token.ofLexeme]
  refine ⟨?_, ?_, ?_, ?_, ?_⟩
  · rw [String.toList_ofList]
    exact hlongest.isPrefix
  · intro _
    refine ⟨_, ?_, rfl⟩
    rw [String.toList_ofList]
    exact hlongest
  · intro k
    rw [Kind.ofTag_eq_keyword_iff]
    refine ⟨fun hk => hk.2, ?_⟩
    intro hk
    refine ⟨?_, hk⟩
    have hword := k.isWord_spelling
    rw [← hk, String.toList_ofList] at hword
    exact Tag.Form.unique hlongest.form (u := .identifier) hword
  · exact ⟨fun hk => absurd hk hunexpected,
      fun hnone => absurd hlongest.form (hnone _ _ hlongest.isPrefix)⟩
  · exact fun hk => absurd hk hunexpected

/-- No two classes have a piece in common, and every token of a text but the end marker is as long
as it can be at its place.

**Proof sketch.** The token is what the scanner finds at its place. Longer pieces of a class would
be cut off as a whole in front of nothing, and more text never makes an extent shorter; and where no
rule applies, none applies to any piece that begins there. -/
theorem maximal_munch (text : String) :
    (∀ (tag other : Tag) (piece : List Char), tag.Form piece → other.Form piece → tag = other) ∧
    ∀ t ∈ tokenize text, t.isEnd = false →
      ∃ before rest, text.toList = before ++ rest ∧
        t.span = ⟨utf8Length before, utf8Length (before ++ t.text.toList)⟩ ∧ Munched t rest := by
  refine ⟨fun _ _ _ htag hother => htag.unique hother, ?_⟩
  intro t ht hend
  rw [tokenize_eq_dropLast_append, List.mem_append, List.mem_singleton] at ht
  rcases ht with ht | rfl
  · obtain ⟨before, c, rest, htext, rfl⟩ := mem_dropLast_tokenize ht
    refine ⟨before, c :: rest, htext, ?_, ?_⟩
    · rw [Token.ofLexeme, String.toList_ofList, utf8Length_append]
    · by_cases h : (firstExtent c rest).tag = .invalidChar
      · exact munched_of_invalidChar _ h
      · exact munched_of_ne_invalidChar _ h
  · exact absurd (hend : true = false) Bool.noConfusion

/-- The number before the points of a range is a token, and none longer would do. -/
theorem maximal_munch_range :
    ∃ before rest, "1..5".toList = before ++ rest ∧
      (⟨0, 1⟩ : Span) = ⟨utf8Length before, utf8Length (before ++ "1".toList)⟩ ∧
      Munched ⟨.literal (.integer .decimal), "1", ⟨0, 1⟩⟩ rest :=
  (maximal_munch "1..5").2 ⟨.literal (.integer .decimal), "1", ⟨0, 1⟩⟩ (by decide +kernel) rfl

end LexicalFront
