import LexicalFront.Proofs.AnyCursor
import Mathlib.Order.Bounds.Lattice
set_option autoImplicit false
set_option relaxedAutoImplicit false

/-!
# Where the searching skips stop

The scanner does not walk through comments and strings byte by byte: it searches the bytes that are
left for the next place that matters, and the cursor jumps there. A jump ends where the walk would
have ended: at the first such place, or behind it, and at the end of the text if there is none. The
bytes that are searched for are those of ASCII characters, none of which is a part of a longer
character, so that the cursor stands between two characters after every jump, wherever it stood
before.

Nothing is used of a search but that it gives the first place, and there is one function that does.

## Main definitions

* `LexicalFront.FindsFirst` — a search gives the first place of a kind.
* `LexicalFront.Cursor.SkipsTo` — a cursor has moved to the first place of a kind.

## Main results

* `LexicalFront.FindsFirst.unique` — the first place is found in one way.
* `LexicalFront.FindsFirst.earliest` — two searches put together lose nothing.
* `LexicalFront.Cursor.skipsTo_jump` — a jump to what any such search finds.
* `LexicalFront.Cursor.skips_to_first` — the three skips of the scanner.
-/

namespace LexicalFront

/-! ## Searches -/

/-- A search for the first place from which on the bytes are of some kind: it gives that place, and
nothing only if there is no such place. -/
structure FindsFirst (search : List UInt8 → Option Nat) (P : List UInt8 → Prop) : Prop where
  hit : ∀ {bytes : List UInt8} {i : Nat}, search bytes = some i →
    IsLeast {j | P (bytes.drop j)} i
  miss : ∀ {bytes : List UInt8}, search bytes = none → ∀ j, ¬P (bytes.drop j)

/-- The bytes begin with one of some marks. -/
def BeginsWith (marks bytes : List UInt8) : Prop := ∃ b ∈ marks, bytes.head? = some b

namespace FindsFirst

variable {search search' : List UInt8 → Option Nat} {P Q : List UInt8 → Prop}

/-- A search that goes from left to right finds the first place: it stops where the bytes are of the
kind, and goes on by a byte where they are not.

**Proof sketch.** Induction on the bytes, once for a search that hits and once for one that misses.
Where the bytes are of the kind the search says zero, which is least; where they are not, the first
place is one behind that of the remaining bytes. -/
lemma of_steps (hempty : ¬P []) (hnil : search [] = none)
    (hstop : ∀ b bytes, P (b :: bytes) → search (b :: bytes) = some 0)
    (hgo : ∀ b bytes, ¬P (b :: bytes) → search (b :: bytes) = (search bytes).map (1 + ·)) :
    FindsFirst search P := by
  refine ⟨fun {bytes i} h => ?_, fun {bytes} h => ?_⟩
  · induction bytes generalizing i with
    | nil => exact absurd (hnil.symm.trans h) nofun
    | cons b bytes ih =>
      by_cases hb : P (b :: bytes)
      · obtain rfl := Option.some.inj ((hstop b bytes hb).symm.trans h)
        exact ⟨hb, fun j _ => Nat.zero_le j⟩
      · rw [hgo b bytes hb, Option.map_eq_some_iff] at h
        obtain ⟨i, hi, rfl⟩ := h
        obtain ⟨hat, hleast⟩ := ih hi
        refine ⟨?_, fun j hj => ?_⟩
        · rw [Nat.add_comm]
          exact hat
        · rcases j with _ | j
          · exact absurd hj hb
          · have := hleast hj
            omega
  · induction bytes with
    | nil =>
      intro j
      rwa [List.drop_nil]
    | cons b bytes ih =>
      have hb : ¬P (b :: bytes) := fun hb => absurd ((hstop b bytes hb).symm.trans h) nofun
      rw [hgo b bytes hb, Option.map_eq_none_iff] at h
      intro j
      rcases j with _ | j
      · exact hb
      · exact ih h j

/-- What is found first does not depend on the search. -/
theorem unique (h : FindsFirst search P) (h' : FindsFirst search' P) : search = search' := by
  funext bytes
  cases hi : search bytes with
  | none =>
    cases hi' : search' bytes with
    | none => rfl
    | some i' => exact absurd (h'.hit hi').1 (h.miss hi i')
  | some i =>
    cases hi' : search' bytes with
    | none => exact absurd (h.hit hi).1 (h'.miss hi' i)
    | some i' => rw [(h.hit hi).unique (h'.hit hi')]

/-- The earlier one of two places is the first place of either kind.

**Proof sketch.** The places of either kind are the union of both. If one search misses, its part of
the union is empty; if both hit, the least place of a union is the lesser one of the two. Nothing is
found only if both miss. -/
theorem earliest (h : FindsFirst search P) (h' : FindsFirst search' Q) :
    FindsFirst (fun bytes => earliest? (search bytes) (search' bytes))
      fun bytes => P bytes ∨ Q bytes := by
  refine ⟨fun {bytes i} hi => ?_, fun {bytes} hi => ?_⟩
  · have hunion : {j | P (bytes.drop j) ∨ Q (bytes.drop j)} =
        {j | P (bytes.drop j)} ∪ {j | Q (bytes.drop j)} := rfl
    rw [hunion]
    cases hl : search bytes with
    | none =>
      have hnone : {j | P (bytes.drop j)} = ∅ := Set.eq_empty_iff_forall_notMem.2 (h.miss hl)
      rw [hl] at hi
      rw [hnone, Set.empty_union]
      exact h'.hit hi
    | some l =>
      cases hr : search' bytes with
      | none =>
        have hnone : {j | Q (bytes.drop j)} = ∅ := Set.eq_empty_iff_forall_notMem.2 (h'.miss hr)
        rw [hl, hr] at hi
        obtain rfl := Option.some.inj hi
        rw [hnone, Set.union_empty]
        exact h.hit hl
      | some r =>
        rw [hl, hr] at hi
        obtain rfl := Option.some.inj hi
        exact (h.hit hl).union (h'.hit hr)
  · cases hl : search bytes with
    | none =>
      rw [hl] at hi
      exact fun j hj => hj.elim (h.miss hl j) (h'.miss hi j)
    | some l =>
      rw [hl] at hi
      cases hr : search' bytes <;> rw [hr] at hi <;> exact absurd hi nofun

/-- The search for a byte finds the first one that passes the test. -/
lemma findByte? {p : UInt8 → Bool} {marks : List UInt8} (hp : ∀ b, p b = true ↔ b ∈ marks) :
    FindsFirst (LexicalFront.findByte? p) (BeginsWith marks) := by
  have hhead (b : UInt8) (bytes : List UInt8) : BeginsWith marks (b :: bytes) ↔ p b = true := by
    simp [BeginsWith, hp]
  refine of_steps (by simp [BeginsWith]) rfl (fun b bytes h => ?_) (fun b bytes h => ?_)
  · rw [LexicalFront.findByte?, List.findIdx?_cons, if_pos ((hhead b bytes).1 h)]
  · rw [LexicalFront.findByte?, List.findIdx?_cons, if_neg (mt (hhead b bytes).2 h)]
    simp only [Nat.add_comm, LexicalFront.findByte?]

/-- The search for two bytes that follow each other finds the first place where they do. -/
lemma findPair? (a b : UInt8) : FindsFirst (LexicalFront.findPair? a b) ([a, b] <+: ·) := by
  refine of_steps (by simp) rfl (fun x bytes h => ?_) (fun x bytes h => ?_)
  · obtain ⟨rest, hrest⟩ := h
    rw [← hrest, List.cons_append, List.cons_append, LexicalFront.findPair?]
    simp
  · refine Cursor.Before.findPair?_cons fun hx hhead => h ?_
    obtain ⟨rest, rfl⟩ := List.head?_eq_some_iff.1 hhead
    exact ⟨rest, by rw [hx]; rfl⟩

/-- The search for line breaks. -/
lemma lineBreak :
    FindsFirst (LexicalFront.findByte? fun b => b == 0x0a || b == 0x0d)
      (BeginsWith [0x0a, 0x0d]) :=
  findByte? (by simp)

/-- The search for what matters inside a string, but for carriage returns. -/
lemma stringMark :
    FindsFirst (LexicalFront.findByte? fun b => b == 0x22 || b == 0x5c || b == 0x0a)
      (BeginsWith [0x22, 0x5c, 0x0a]) :=
  findByte? (by simp [or_assoc])

/-- The search for carriage returns. -/
lemma carriageReturn : FindsFirst (LexicalFront.findByte? (· == 0x0d)) (BeginsWith [0x0d]) :=
  findByte? (by simp)

/-- Two searches for marks are one for all the marks. -/
lemma earliest_marks {marks marks' : List UInt8} (h : FindsFirst search (BeginsWith marks))
    (h' : FindsFirst search' (BeginsWith marks')) :
    FindsFirst (fun bytes => earliest? (search bytes) (search' bytes))
      (BeginsWith (marks ++ marks')) := by
  have hmarks : BeginsWith (marks ++ marks') =
      fun bytes => BeginsWith marks bytes ∨ BeginsWith marks' bytes := by
    funext bytes
    simp [BeginsWith, or_and_right, exists_or]
  rw [hmarks]
  exact h.earliest h'

end FindsFirst

namespace Cursor

variable {c : Cursor} {search : List UInt8 → Option Nat} {P : List UInt8 → Prop} {n : Nat}

/-! ## Bytes of ASCII characters -/

/-- The bytes of the text from an offset on. -/
def bytesFrom (c : Cursor) (i : Nat) : List UInt8 := (utf8Bytes c.source.toList).drop i

/-- The bytes that are left behind an offset are those of the text from there on. -/
lemma drop_rest (c : Cursor) (i : Nat) : c.rest.drop i = c.bytesFrom (c.pos + i) := List.drop_drop

/-- After a move the bytes behind it are left. -/
lemma rest_advance (c : Cursor) (i : Nat) : (c.advance i).rest = c.rest.drop i :=
  List.drop_drop.symm

/-- The end of the text is reached by going there. -/
lemma atEnd_toEnd (c : Cursor) : c.toEnd.atEnd = true := decide_eq_true (Nat.le_refl _)

/-- At the end no byte is left. -/
lemma rest_of_atEnd (h : c.atEnd = true) : c.rest = [] := by
  refine List.drop_eq_nil_of_le ?_
  rw [length_utf8Bytes, utf8Length_toList]
  exact of_decide_eq_true h

/-- Where a byte is left the end is not reached. -/
lemma atEnd_of_head?_rest {b : UInt8} (h : c.rest.head? = some b) : c.atEnd = false := by
  rw [Bool.eq_false_iff]
  intro hend
  rw [rest_of_atEnd hend] at h
  exact Option.some_ne_none b h.symm

/-- A cursor at the byte of an ASCII character stands before it. -/
lemma exists_before_of_head?_rest {b : UInt8} (h : c.rest.head? = some b) (hb : b < 0x80) :
    ∃ x cs, c.Before (x :: cs) ∧ IsAscii x := by
  have hcurrent : c.current = b := by
    obtain ⟨bytes, hrest⟩ := List.head?_eq_some_iff.1 h
    rw [current, lookahead_eq_getD, hrest, List.getD_cons_zero]
  have hsmall : ¬0x80 ≤ c.current := by
    rw [hcurrent]
    exact UInt8.not_le.2 hb
  rcases before_or_inside (atEnd_of_head?_rest h) with ⟨x, cs, hbefore⟩ | ⟨k, cs, hinside⟩
  · exact ⟨x, cs, hbefore, by_contra fun hx => hsmall (hbefore.le_current_iff.2 hx)⟩
  · exact absurd hinside.le_current hsmall

/-- A cursor at an ASCII mark stands between two characters. -/
lemma exists_before_of_beginsWith {marks : List UInt8} (hmarks : marks.all (· < 0x80))
    (h : BeginsWith marks c.rest) : ∃ cs, (c.advance 0).Before cs := by
  obtain ⟨b, hb, hhead⟩ := h
  have hascii : b < 0x80 := of_decide_eq_true (List.all_eq_true.1 hmarks b hb)
  obtain ⟨x, cs, hbefore, -⟩ := exists_before_of_head?_rest hhead hascii
  exact ⟨x :: cs, hbefore⟩

/-- Behind the bytes of two ASCII characters a cursor stands between two characters. -/
lemma exists_before_of_pair {a b : UInt8} (ha : a < 0x80) (hb : b < 0x80)
    (h : [a, b] <+: c.rest) : ∃ cs, (c.advance 2).Before cs := by
  obtain ⟨bytes, hbytes⟩ := h
  obtain ⟨x, cs, hbefore, hx⟩ := exists_before_of_head?_rest (b := a) (by rw [← hbytes]; rfl) ha
  obtain ⟨y, ds, hbefore', hy⟩ := exists_before_of_head?_rest (c := c.advance 1) (b := b)
    (by rw [rest_advance, ← hbytes]; rfl) hb
  have htail := hbefore'.tail
  rw [utf8Size_of_isAscii hy, advance_advance] at htail
  exact ⟨ds, htail⟩

/-! ## Jumps -/

/-- The cursor moved to a place that has been found in the bytes that are left, and some bytes
further; or to the end if none has been found. -/
def jump (c : Cursor) (n : Nat) (found : Option Nat) : Cursor :=
  found.elim c.toEnd fun i => c.advance (i + n)

/-- A cursor has moved to the first place at or behind it from which on the bytes are of some kind,
and `n` bytes further; or to the end, because there is no such place. -/
structure SkipsTo (c d : Cursor) (P : List UInt8 → Prop) (n : Nat) (found : Bool) : Prop where
  /-- The text has stayed. -/
  source : d.source = c.source
  /-- The move does not go back. -/
  forward : c.pos ≤ d.pos
  /-- It does not go past the end. -/
  within : d.pos ≤ c.sourceLength
  /-- It ends between two characters. -/
  boundary : (String.Pos.Raw.mk d.pos).IsValid c.source
  hit : found = true → ∃ i, IsLeast {j | c.pos ≤ j ∧ P (c.bytesFrom j)} i ∧ d.pos = i + n
  miss : found = false → (∀ j, c.pos ≤ j → ¬P (c.bytesFrom j)) ∧ d.pos = c.sourceLength

/-- The first place in the bytes that are left is the first place of the text from the cursor on. -/
lemma isLeast_bytesFrom {i : Nat} (h : IsLeast {j | P (c.rest.drop j)} i) :
    IsLeast {j | c.pos ≤ j ∧ P (c.bytesFrom j)} (c.pos + i) := by
  refine ⟨⟨Nat.le_add_right _ _, c.drop_rest i ▸ h.1⟩, ?_⟩
  rintro j ⟨hle, hj⟩
  obtain ⟨k, rfl⟩ := Nat.exists_eq_add_of_le hle
  rw [← drop_rest] at hj
  exact Nat.add_le_add_left (h.2 hj) c.pos

/-- A jump to what a search has found leads to the first place, whichever search it is, if the text
can be cut behind such a place.

**Proof sketch.** The cursor stands between two characters after the jump, where the text can be
cut or at its end; so it is not past the end. -/
theorem skipsTo_jump (hsearch : FindsFirst search P) (hc : c.pos ≤ c.sourceLength)
    (hcut : ∀ d : Cursor, P d.rest → ∃ cs, (d.advance n).Before cs) :
    c.SkipsTo (c.jump n (search c.rest)) P n (search c.rest).isSome := by
  cases hfound : search c.rest with
  | none =>
    have hend : c.toEnd.Before [] := by
      refine dropBytes?_eq_some_iff.2 ⟨c.source.toList, (List.append_nil _).symm, ?_⟩
      exact utf8Length_toList c.source
    refine ⟨rfl, hc, Nat.le_refl _, exists_before_iff.2 ⟨[], hend⟩, nofun, fun _ => ⟨?_, rfl⟩⟩
    intro j hle
    obtain ⟨k, rfl⟩ := Nat.exists_eq_add_of_le hle
    exact c.drop_rest k ▸ hsearch.miss hfound k
  | some i =>
    have hfirst := hsearch.hit hfound
    obtain ⟨cs, hbefore⟩ := hcut (c.advance i) (c.rest_advance i ▸ hfirst.1)
    rw [advance_advance] at hbefore
    refine ⟨rfl, Nat.le_add_right _ _, ?_, exists_before_iff.2 ⟨cs, hbefore⟩, fun _ => ?_, nofun⟩
    · have hlength : c.sourceLength = _ := hbefore.sourceLength_eq
      rw [hlength]
      exact Nat.le_add_right _ _
    · exact ⟨c.pos + i, isLeast_bytesFrom hfirst, (Nat.add_assoc _ _ _).symm⟩

/-- A jump to a mark ends at the end of the text only if none has been found. -/
lemma isSome_search_eq {marks : List UInt8} (hsearch : FindsFirst search (BeginsWith marks)) :
    (search c.rest).isSome = !(c.jump 0 (search c.rest)).atEnd := by
  cases hfound : search c.rest with
  | none =>
    show false = !c.toEnd.atEnd
    rw [atEnd_toEnd]
    rfl
  | some i =>
    obtain ⟨b, -, hhead⟩ := (hsearch.hit hfound).1
    rw [← rest_advance] at hhead
    show true = !(c.advance i).atEnd
    rw [atEnd_of_head?_rest hhead]
    rfl

/-! ## The skips of the scanner -/

/-- Comments to the end of the line are skipped by any search for line breaks. -/
theorem eatLine_eq_jump (hsearch : FindsFirst search (BeginsWith [0x0a, 0x0d])) :
    c.eatLine = c.jump 0 (search c.rest) := by
  rw [hsearch.unique .lineBreak, eatLine]
  cases findByte? (fun b => b == 0x0a || b == 0x0d) c.rest with
  | none => rfl
  | some i => rfl

/-- Strings are skipped by any two searches for the marks, of which the earlier place counts. -/
theorem skipToStringMark_eq_jump {search' : List UInt8 → Option Nat}
    (hsearch : FindsFirst search (BeginsWith [0x22, 0x5c, 0x0a]))
    (hsearch' : FindsFirst search' (BeginsWith [0x0d])) :
    c.skipToStringMark.1 = c.jump 0 (earliest? (search c.rest) (search' c.rest)) := by
  rw [hsearch.unique .stringMark, hsearch'.unique .carriageReturn, skipToStringMark]
  cases earliest? (findByte? (fun b => b == 0x22 || b == 0x5c || b == 0x0a) c.rest)
      (findByte? (· == 0x0d) c.rest) with
  | none => rfl
  | some i => rfl

/-- The byte that stops the skip is returned, and zero at the end. -/
lemma skipToStringMark_snd (c : Cursor) :
    c.skipToStringMark.2 = c.skipToStringMark.1.rest.head?.getD 0 := by
  have hcurrent (d : Cursor) : d.current = d.rest.head?.getD 0 := by
    rw [current, lookahead_eq_getD, List.getD_eq_getElem?_getD, List.head?_eq_getElem?]
  rw [skipToStringMark]
  cases earliest? (findByte? (fun b => b == 0x22 || b == 0x5c || b == 0x0a) c.rest)
      (findByte? (· == 0x0d) c.rest) with
  | none =>
    show 0 = c.toEnd.rest.head?.getD 0
    rw [rest_of_atEnd c.atEnd_toEnd]
    rfl
  | some i => exact hcurrent (c.advance i)

/-- Block comments are skipped by any search for their end. -/
theorem eatBlockComment_eq_jump (hsearch : FindsFirst search ([0x2a, 0x2f] <+: ·)) :
    c.eatBlockComment = (c.jump 2 (search c.rest), (search c.rest).isSome) := by
  rw [hsearch.unique (.findPair? 0x2a 0x2f), eatBlockComment]
  cases findPair? 0x2a 0x2f c.rest with
  | none => rfl
  | some i => rfl

/-- Each skip ends where a walk byte by byte from the cursor would have: at the first line break; at
the first byte that matters inside a string, which is returned, or zero at the end of the text;
behind the first star and slash, and it is told whether there are any. Without such a place the end
of the text is reached. The cursor never moves back or past the end, and it stands between two
characters afterwards, even if it stood inside one before. -/
theorem skips_to_first (hc : c.pos ≤ c.sourceLength) :
    c.SkipsTo c.eatLine (BeginsWith [0x0a, 0x0d]) 0 (!c.eatLine.atEnd) ∧
    (c.SkipsTo c.skipToStringMark.1 (BeginsWith [0x22, 0x5c, 0x0a, 0x0d]) 0
        (!c.skipToStringMark.1.atEnd) ∧
      c.skipToStringMark.2 = (c.bytesFrom c.skipToStringMark.1.pos).head?.getD 0) ∧
    c.SkipsTo c.eatBlockComment.1 ([0x2a, 0x2f] <+: ·) 2 c.eatBlockComment.2 := by
  have hstring : c.SkipsTo c.skipToStringMark.1 (BeginsWith [0x22, 0x5c, 0x0a, 0x0d]) 0
      (!c.skipToStringMark.1.atEnd) := by
    have hsearch := FindsFirst.stringMark.earliest_marks .carriageReturn
    rw [skipToStringMark_eq_jump .stringMark .carriageReturn, ← isSome_search_eq hsearch]
    exact skipsTo_jump hsearch hc fun d => exists_before_of_beginsWith (by decide)
  refine ⟨?_, ⟨hstring, ?_⟩, ?_⟩
  · rw [eatLine_eq_jump .lineBreak, ← isSome_search_eq .lineBreak]
    exact skipsTo_jump .lineBreak hc fun d => exists_before_of_beginsWith (by decide)
  · rw [skipToStringMark_snd, rest, hstring.source]
    rfl
  · have hsearch := FindsFirst.findPair? 0x2a 0x2f
    rw [eatBlockComment_eq_jump hsearch]
    exact skipsTo_jump hsearch hc fun d => exists_before_of_pair (by decide) (by decide)

/-- From inside a character of three bytes, a block comment is closed behind it. -/
theorem skips_to_first_euro :
    (Cursor.mk "€*\r*/" 1).pos ≤ (Cursor.mk "€*\r*/" 1).sourceLength ∧
      (Cursor.mk "€*\r*/" 1).SkipsTo ⟨"€*\r*/", 7⟩ ([0x2a, 0x2f] <+: ·) 2 true ∧
      (Cursor.mk "€*\r*/" 1).SkipsTo ⟨"€*\r*/", 4⟩ (BeginsWith [0x0a, 0x0d]) 0 true := by
  have hc : (Cursor.mk "€*\r*/" 1).pos ≤ (Cursor.mk "€*\r*/" 1).sourceLength := by decide
  have hcomment : (Cursor.mk "€*\r*/" 1).eatBlockComment = (⟨"€*\r*/", 7⟩, true) := by decide
  have hline : (Cursor.mk "€*\r*/" 1).eatLine = ⟨"€*\r*/", 4⟩ := by decide
  obtain ⟨hbreak, -, hclosed⟩ := skips_to_first hc
  rw [hcomment] at hclosed
  rw [hline] at hbreak
  exact ⟨hc, hclosed, hbreak⟩

end Cursor

end LexicalFront
