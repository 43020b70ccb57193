import LexicalFront.Proofs.Lexeme.Run
set_option autoImplicit false
set_option relaxedAutoImplicit false

/-!
# How far strings and comments reach

The rules for pieces between marks, against their classes. Each looks for its closing mark and has
an answer also where there is none.

## Main results

* `LexicalFront.stringExtent_cut`, `LexicalFront.commentExtent?_cut` — what is cut off lies in the
  class of its tag.
* `LexicalFront.stringExtent_of_isClosedString`, `LexicalFront.stringExtent_of_isOpenString`,
  `LexicalFront.commentExtent?_of_isLineComment`, `LexicalFront.commentExtent?_of_isClosedComment`,
  `LexicalFront.commentExtent?_of_isOpenComment` — a piece in a class is cut off as a whole.
* `LexicalFront.stringExtent_append_le`, `LexicalFront.commentExtent?_append_le` — more text never
  makes a piece shorter.
* `LexicalFront.stringExtent_append_lineFeed`, `LexicalFront.commentExtent?_append_lineFeed` — a
  line feed ends all of them like the end of the text, block comments excepted.
-/

namespace LexicalFront

/-! ## Strings -/

/-- A character of a string that means only itself. -/
lemma stringBody_plain {c : Char} (hq : c ≠ '"') (hb : c ≠ '\\') (hc : isBreak c = false)
    (cs : List Char) :
    stringBody (c :: cs) = ((stringBody cs).1, 1 + (stringBody cs).2) := by
  rw [stringBody.eq_5 c cs hq (fun h => absurd h hb) (fun _ _ h => absurd h hb), hc]
  rfl

/-- A backslash takes the character after it along. -/
lemma stringBody_escaped {c : Char} (hc : isBreak c = false) (cs : List Char) :
    stringBody ('\\' :: c :: cs) = ((stringBody cs).1, 2 + (stringBody cs).2) := by
  rw [stringBody, hc]
  rfl

/-- A string breaks off at a line break. -/
lemma stringBody_break {c : Char} (hc : isBreak c = true) (cs : List Char) :
    stringBody (c :: cs) = (false, 0) := by
  have hq : c ≠ '"' := by rintro rfl; exact absurd hc (by decide)
  have hb : c ≠ '\\' := by rintro rfl; exact absurd hc (by decide)
  rw [stringBody.eq_5 c cs hq (fun h => absurd h hb) (fun _ _ h => absurd h hb), hc]
  rfl

/-- A backslash before a line break is the last character of its string. -/
lemma stringBody_escapedBreak {c : Char} (hc : isBreak c = true) (cs : List Char) :
    stringBody ('\\' :: c :: cs) = (false, 1) := by
  rw [stringBody, hc]
  rfl

/-- Behind the inside of a string the string goes on as the text there does. -/
lemma stringBody_append {body : List Char} (h : IsStringBody body) (cs : List Char) :
    stringBody (body ++ cs) = ((stringBody cs).1, body.length + (stringBody cs).2) := by
  induction h with
  | nil => simp
  | plain hq hb hc _ ih =>
    rw [List.cons_append, stringBody_plain hq hb hc, ih, List.length_cons]
    congr 1
    omega
  | escaped hc _ ih =>
    rw [List.cons_append, List.cons_append, stringBody_escaped hc, ih, List.length_cons,
      List.length_cons]
    congr 1
    omega

/-- How a string may end, behind its inside: the mark that still belongs to it, and whether that
closes it. -/
inductive StringEnd : List Char → Bool → List Char → Prop where
  | quote (cs : List Char) : StringEnd ['"'] true cs
  | endOfText : StringEnd [] false []
  | lineBreak {c : Char} (cs : List Char) : isBreak c = true → StringEnd [] false (c :: cs)
  | backslash : StringEnd ['\\'] false []
  | backslashBreak {c : Char} (cs : List Char) :
    isBreak c = true → StringEnd ['\\'] false (c :: cs)

/-- At its end, the mark is what remains of a string. -/
lemma StringEnd.stringBody_eq {mark cs : List Char} {closed : Bool} (h : StringEnd mark closed cs) :
    stringBody (mark ++ cs) = (closed, mark.length) := by
  cases h with
  | quote => rfl
  | endOfText => rfl
  | lineBreak cs hc => exact stringBody_break hc cs
  | backslash => rfl
  | backslashBreak cs hc => exact stringBody_escapedBreak hc cs

/-- Every text behind a quote is the inside of a string and an end of it. -/
lemma stringBody_split (cs : List Char) :
    ∃ body mark closed rest, cs = body ++ (mark ++ rest) ∧ IsStringBody body ∧
      StringEnd mark closed rest := by
  fun_induction stringBody cs with
  | case1 => exact ⟨[], [], false, [], rfl, .nil, .endOfText⟩
  | case2 cs => exact ⟨[], ['"'], true, cs, rfl, .nil, .quote cs⟩
  | case3 => exact ⟨[], ['\\'], false, [], rfl, .nil, .backslash⟩
  | case4 c cs hc => exact ⟨[], ['\\'], false, c :: cs, rfl, .nil, .backslashBreak cs hc⟩
  | case5 c cs hc inner ih =>
    obtain ⟨body, mark, closed, rest, rfl, hbody, hend⟩ := ih
    exact ⟨'\\' :: c :: body, mark, closed, rest, rfl,
      .escaped (Bool.eq_false_iff.2 hc) hbody, hend⟩
  | case6 c cs hq hb _ hc => exact ⟨[], [], false, c :: cs, rfl, .nil, .lineBreak cs hc⟩
  | case7 c cs hq hnil hcons hc inner ih =>
    have hb : c ≠ '\\' := by
      rintro rfl
      rcases cs with _ | ⟨d, cs⟩
      · exact hnil rfl rfl
      · exact hcons d cs rfl rfl
    obtain ⟨body, mark, closed, rest, rfl, hbody, hend⟩ := ih
    exact ⟨c :: body, mark, closed, rest, rfl, .plain hq hb (Bool.eq_false_iff.2 hc) hbody, hend⟩

/-- More text never makes the inside of a string shorter. -/
lemma stringBody_append_le (cs ds : List Char) : (stringBody cs).2 ≤ (stringBody (cs ++ ds)).2 := by
  obtain ⟨body, mark, closed, rest, rfl, hbody, hend⟩ := stringBody_split cs
  rw [List.append_assoc, stringBody_append hbody, stringBody_append hbody, hend.stringBody_eq]
  refine Nat.add_le_add_left ?_ _
  cases hend with
  | quote => exact le_rfl
  | endOfText => exact Nat.zero_le _
  | lineBreak => exact Nat.zero_le _
  | backslash =>
    rcases ds with _ | ⟨d, ds⟩
    · exact le_rfl
    · by_cases hd : isBreak d = true
      · exact (congrArg Prod.snd (stringBody_escapedBreak hd ds)).ge
      · have := congrArg Prod.snd (stringBody_escaped (Bool.eq_false_iff.2 hd) ds)
        simp only [List.cons_append, List.nil_append, List.length_cons, List.length_nil] at this ⊢
        omega
  | backslashBreak cs hc => exact (congrArg Prod.snd (stringBody_escapedBreak hc (cs ++ ds))).ge

/-- A line feed ends a string like the end of the text. -/
lemma stringBody_append_lineFeed (cs ds : List Char) :
    stringBody (cs ++ '\n' :: ds) = stringBody cs := by
  obtain ⟨body, mark, closed, rest, rfl, hbody, hend⟩ := stringBody_split cs
  have hend' : StringEnd mark closed (rest ++ '\n' :: ds) := by
    cases hend with
    | quote => exact .quote _
    | endOfText => exact .lineBreak ds (by decide)
    | lineBreak cs hc => exact .lineBreak _ hc
    | backslash => exact .backslashBreak ds (by decide)
    | backslashBreak cs hc => exact .backslashBreak _ hc
  rw [List.append_assoc, List.append_assoc, stringBody_append hbody, stringBody_append hbody,
    hend.stringBody_eq, hend'.stringBody_eq]

/-- A string is cut off the text, and lies in the class of its tag. -/
theorem stringExtent_cut (cs : List Char) :
    ∃ piece rest, cs = piece ++ rest ∧ (stringExtent cs).more = piece.length ∧
      (stringExtent cs).tag.Form ('"' :: piece) := by
  obtain ⟨body, mark, closed, rest, rfl, hbody, hend⟩ := stringBody_split cs
  refine ⟨body ++ mark, rest, (List.append_assoc _ _ _).symm, ?_, ?_⟩
  · rw [stringExtent, stringBody_append hbody, hend.stringBody_eq, List.length_append]
  · rw [stringExtent, stringBody_append hbody, hend.stringBody_eq]
    cases hend with
    | quote => exact ⟨body, rfl, hbody⟩
    | endOfText => exact ⟨body, hbody, .inl (by rw [List.append_nil])⟩
    | lineBreak => exact ⟨body, hbody, .inl (by rw [List.append_nil])⟩
    | backslash => exact ⟨body, hbody, .inr rfl⟩
    | backslashBreak => exact ⟨body, hbody, .inr rfl⟩

/-- A closed string is cut off as a whole. -/
theorem stringExtent_of_isClosedString {cs : List Char} (h : IsClosedString ('"' :: cs)) :
    stringExtent cs = ⟨.string, cs.length⟩ := by
  obtain ⟨body, heq, hbody⟩ := h
  obtain ⟨-, rfl⟩ := List.cons.inj heq
  rw [stringExtent, stringBody_append hbody, List.length_append]
  rfl

/-- A string that breaks off is cut off as a whole. -/
theorem stringExtent_of_isOpenString {cs : List Char} (h : IsOpenString ('"' :: cs)) :
    stringExtent cs = ⟨.unterminatedString, cs.length⟩ := by
  obtain ⟨body, hbody, heq | heq⟩ := h
  · obtain ⟨-, rfl⟩ := List.cons.inj heq
    have := stringBody_append hbody []
    rw [List.append_nil] at this
    rw [stringExtent, this]
    rfl
  · obtain ⟨-, rfl⟩ := List.cons.inj heq
    rw [stringExtent, stringBody_append hbody, List.length_append]
    rfl

/-- More text never makes a string shorter. -/
theorem stringExtent_append_le (cs ds : List Char) :
    (stringExtent cs).more ≤ (stringExtent (cs ++ ds)).more :=
  stringBody_append_le cs ds

/-- A line feed ends a string like the end of the text. -/
theorem stringExtent_append_lineFeed (cs ds : List Char) :
    stringExtent (cs ++ '\n' :: ds) = stringExtent cs := by
  rw [stringExtent, stringExtent, stringBody_append_lineFeed]

/-! ## The end of a block comment -/

/-- A character that does not begin the closing mark is skipped. -/
lemma blockCommentEnd?_cons {c : Char} {cs : List Char} (h : ¬['*', '/'] <+: c :: cs) :
    blockCommentEnd? (c :: cs) = (blockCommentEnd? cs).map (1 + ·) := by
  refine blockCommentEnd?.eq_2 c cs ?_
  rintro ds rfl rfl
  exact h ⟨ds, rfl⟩

/-- There is no end where there is no closing mark. -/
lemma blockCommentEnd?_eq_none_iff {cs : List Char} :
    blockCommentEnd? cs = none ↔ ¬['*', '/'] <:+: cs := by
  induction cs with
  | nil => simp [blockCommentEnd?]
  | cons c cs ih =>
    rw [List.infix_cons_iff]
    by_cases h : ['*', '/'] <+: c :: cs
    · obtain ⟨rest, hrest⟩ := h
      rw [← hrest]
      simp [blockCommentEnd?]
    · rw [blockCommentEnd?_cons h, Option.map_eq_none_iff, ih]
      simp only [h, false_or]

/-- The first closing mark is the end. -/
lemma blockCommentEnd?_append {body : List Char} (h : ¬['*', '/'] <:+: body ++ ['*'])
    (cs : List Char) : blockCommentEnd? (body ++ '*' :: '/' :: cs) = some (body.length + 2) := by
  induction body with
  | nil => rfl
  | cons c body ih =>
    rw [List.cons_append, List.infix_cons_iff, not_or] at h
    have hc : ¬['*', '/'] <+: c :: (body ++ '*' :: '/' :: cs) := by
      rintro ⟨rest, hrest⟩
      obtain ⟨rfl, htail⟩ := List.cons.inj hrest
      rcases body with _ | ⟨d, body⟩
      · exact absurd (List.cons.inj htail).1 (by decide)
      · obtain ⟨rfl, -⟩ := List.cons.inj htail
        exact h.1 ⟨body ++ ['*'], rfl⟩
    rw [List.cons_append, blockCommentEnd?_cons hc, ih h.2, Option.map_some, List.length_cons]
    congr 1
    omega

/-- The end is behind the first closing mark. -/
lemma blockCommentEnd?_cut {cs : List Char} {n : Nat} (h : blockCommentEnd? cs = some n) :
    ∃ body rest, cs = body ++ '*' :: '/' :: rest ∧ n = body.length + 2 ∧
      ¬['*', '/'] <:+: body ++ ['*'] := by
  induction cs generalizing n with
  | nil => simp [blockCommentEnd?] at h
  | cons c cs ih =>
    by_cases hc : ['*', '/'] <+: c :: cs
    · obtain ⟨rest, hrest⟩ := hc
      rw [← hrest] at h ⊢
      obtain rfl : 2 = n := Option.some.inj h
      exact ⟨[], rest, rfl, rfl, by decide⟩
    · rw [blockCommentEnd?_cons hc, Option.map_eq_some_iff] at h
      obtain ⟨m, hm, rfl⟩ := h
      obtain ⟨body, rest, rfl, rfl, hbody⟩ := ih hm
      refine ⟨c :: body, rest, rfl, by rw [List.length_cons]; omega, ?_⟩
      rw [List.cons_append, List.infix_cons_iff, not_or]
      refine ⟨fun h => hc ?_, hbody⟩
      exact h.trans ⟨'/' :: rest, by simp⟩

/-! ## Comments -/

/-- Only a slash or a star behind the first slash makes a comment. -/
lemma commentExtent?_eq_none {c : Char} (hs : c ≠ '/') (ht : c ≠ '*') (cs : List Char) :
    commentExtent? (c :: cs) = none :=
  commentExtent?.eq_3 (c :: cs) (fun _ h => hs (List.cons.inj h).1) fun _ h => ht (List.cons.inj h).1

/-- A comment is cut off the text, and lies in the class of its tag. -/
theorem commentExtent?_cut {cs : List Char} {e : Extent} (h : commentExtent? cs = some e) :
    ∃ piece rest, cs = piece ++ rest ∧ e.more = piece.length ∧ e.tag.Form ('/' :: piece) := by
  unfold commentExtent? at h
  split at h
  · next cs =>
    obtain rfl := Option.some.inj h
    refine ⟨'/' :: cs.takeWhile (!isBreak ·), cs.dropWhile (!isBreak ·), ?_, Nat.add_comm _ _,
      cs.takeWhile (!isBreak ·), rfl, fun c hc => ?_⟩
    · rw [List.cons_append, List.takeWhile_append_dropWhile]
    · simpa using List.mem_takeWhile_imp hc
  · next cs =>
    split at h
    · next n hn =>
      obtain rfl := Option.some.inj h
      obtain ⟨body, rest, rfl, rfl, hbody⟩ := blockCommentEnd?_cut hn
      refine ⟨'*' :: (body ++ ['*', '/']), rest, by simp, ?_, body, rfl, hbody⟩
      simp only [List.length_cons, List.length_append, List.length_nil]
      omega
    · next hn =>
      obtain rfl := Option.some.inj h
      exact ⟨'*' :: cs, [], by simp, Nat.add_comm _ _, cs, rfl, blockCommentEnd?_eq_none_iff.1 hn⟩
  · exact absurd h (by simp)

/-- A line comment is cut off as a whole. -/
theorem commentExtent?_of_isLineComment {cs : List Char} (h : IsLineComment ('/' :: cs)) :
    commentExtent? cs = some ⟨.lineComment, cs.length⟩ := by
  obtain ⟨body, heq, hbody⟩ := h
  obtain ⟨-, rfl⟩ := List.cons.inj heq
  have hall : body.takeWhile (!isBreak ·) = body :=
    List.takeWhile_eq_self_iff.2 fun c hc => by rw [hbody c hc]; rfl
  rw [commentExtent?, hall, List.length_cons, Nat.add_comm]

/-- A closed block comment is cut off as a whole. -/
theorem commentExtent?_of_isClosedComment {cs : List Char} (h : IsClosedComment ('/' :: cs)) :
    commentExtent? cs = some ⟨.blockComment, cs.length⟩ := by
  obtain ⟨body, heq, hbody⟩ := h
  obtain ⟨-, rfl⟩ := List.cons.inj heq
  rw [commentExtent?, blockCommentEnd?_append hbody, List.length_cons, List.length_append]
  exact congrArg (fun n => some (Extent.mk .blockComment n)) (Nat.add_comm _ _)

/-- A block comment without an end is cut off as a whole. -/
theorem commentExtent?_of_isOpenComment {cs : List Char} (h : IsOpenComment ('/' :: cs)) :
    commentExtent? cs = some ⟨.unterminatedBlockComment, cs.length⟩ := by
  obtain ⟨body, heq, hbody⟩ := h
  obtain ⟨-, rfl⟩ := List.cons.inj heq
  rw [commentExtent?, blockCommentEnd?_eq_none_iff.2 hbody, List.length_cons, Nat.add_comm]

/-- More text never makes a comment shorter.

**Proof sketch.** The run of a line comment grows. The first closing mark of a block comment stays
the first one. A block comment without one takes the whole text, which a closing mark in the longer
text cannot lie inside of. -/
theorem commentExtent?_append_le {cs : List Char} {e : Extent} (h : commentExtent? cs = some e)
    (ds : List Char) : ∃ e', commentExtent? (cs ++ ds) = some e' ∧ e.more ≤ e'.more := by
  unfold commentExtent? at h
  split at h
  · next cs =>
    obtain rfl := Option.some.inj h
    exact ⟨_, rfl, Nat.add_le_add_left (length_takeWhile_append_le cs ds) 1⟩
  · next cs =>
    split at h
    · next n hn =>
      obtain rfl := Option.some.inj h
      obtain ⟨body, rest, rfl, rfl, hbody⟩ := blockCommentEnd?_cut hn
      have hend := blockCommentEnd?_append hbody (rest ++ ds)
      rw [List.cons_append, List.append_assoc, commentExtent?, List.cons_append, List.cons_append,
        hend]
      exact ⟨_, rfl, le_rfl⟩
    · next hn =>
      obtain rfl := Option.some.inj h
      rw [List.cons_append, commentExtent?]
      cases hend : blockCommentEnd? (cs ++ ds) with
      | none =>
        refine ⟨_, rfl, ?_⟩
        simp only [List.length_append]
        omega
      | some n =>
        obtain ⟨body, rest, heq, rfl, -⟩ := blockCommentEnd?_cut hend
        refine ⟨_, rfl, Nat.add_le_add_left ?_ 1⟩
        by_contra hlt
        have hmark : body ++ ['*', '/'] <+: cs := by
          refine List.prefix_of_prefix_length_le ⟨rest, ?_⟩ (List.prefix_append cs ds) ?_
          · rw [heq, List.append_assoc]
            rfl
          · simp only [List.length_append, List.length_cons, List.length_nil]
            omega
        exact blockCommentEnd?_eq_none_iff.1 hn
          ((List.suffix_append body _).isInfix.trans hmark.isInfix)
  · exact absurd h (by simp)

/-- A line feed ends a comment like the end of the text, if it is not an open block comment. -/
theorem commentExtent?_append_lineFeed {cs : List Char}
    (h : ∀ e ∈ commentExtent? cs, e.tag ≠ .unterminatedBlockComment) (ds : List Char) :
    commentExtent? (cs ++ '\n' :: ds) = commentExtent? cs := by
  rcases cs with _ | ⟨c, cs⟩
  · exact commentExtent?_eq_none (by decide) (by decide) ds
  · by_cases hs : c = '/'
    · subst hs
      rw [List.cons_append, commentExtent?, commentExtent?, takeWhile_append_stop (by decide)]
    · by_cases ht : c = '*'
      · subst ht
        cases hn : blockCommentEnd? cs with
        | none => exact absurd rfl (h _ (by rw [commentExtent?, hn]; rfl))
        | some n =>
          obtain ⟨body, rest, rfl, rfl, hbody⟩ := blockCommentEnd?_cut hn
          have hend := blockCommentEnd?_append hbody (rest ++ '\n' :: ds)
          rw [List.cons_append, commentExtent?, commentExtent?, hn, List.append_assoc,
            List.cons_append, List.cons_append, hend]
      · rw [List.cons_append, commentExtent?_eq_none hs ht, commentExtent?_eq_none hs ht]

end LexicalFront
