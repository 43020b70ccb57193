import LexicalFront.Proofs.Token.Tiling
import LexicalFront.TokenStream
set_option autoImplicit false
set_option relaxedAutoImplicit false

/-!
# Looking up the token at an offset

The tokens of a text lie side by side, so that every byte of the text is in one of them and in no
other one, and only the end marker is left for the offset behind the last byte. A search that halves
the tokens finds this token, as one would by looking at one token after the other.

## Main definitions

* `Token.isAt` — a token contains the byte at an offset, or it is the end marker at this offset.

## Main results

* `Tiling.exists_isAt` — there is a token at each offset up to the end of the text.
* `Tiling.index_le_index` — tokens at later offsets come later.
* `TokenStream.indexAt?_eq_some_iff` — the search finds the token at an offset.
* `TokenStream.indexAt?_lex` — what is looked up at an offset of a text.
-/

namespace LexicalFront

/-! ## Tokens that lie side by side -/

/-- A token contains the byte at an offset, or it is the end marker at this offset. -/
def Token.isAt (t : Token) (offset : Nat) : Bool :=
  t.span.contains offset || t.isEnd && t.span.start == offset

/-- The end marker is where it stands. -/
lemma Token.isAt_endMarker (offset : Nat) : (Token.endMarker offset).isAt offset = true := by
  simp [isAt, isEnd, endMarker, Kind.isEnd, Span.point]

/-- In terms of the offsets of the token. -/
lemma Token.isAt_iff {t : Token} {offset : Nat} :
    t.isAt offset = true ↔
      (t.span.start ≤ offset ∧ offset < t.span.stop) ∨ (t.isEnd = true ∧ t.span.start = offset) := by
  simp [Token.isAt, Span.contains_iff]

/-- Where each token starts at the stop of the one before it, all later ones start there or behind. -/
lemma pairwise_of_adjacent {tokens : List Token}
    (hadjacent : tokens.IsChain fun a b => a.span.stop = b.span.start)
    (hle : ∀ t ∈ tokens, t.span.start ≤ t.span.stop) :
    tokens.Pairwise fun a b => a.span.stop ≤ b.span.start := by
  induction tokens with
  | nil => exact .nil
  | cons a tokens ih =>
    obtain ⟨hnext, htail⟩ := List.isChain_cons.1 hadjacent
    rw [List.forall_mem_cons] at hle
    have hrest := ih htail hle.2
    refine List.pairwise_cons.2 ⟨fun c hc => ?_, hrest⟩
    cases tokens with
    | nil => exact absurd hc List.not_mem_nil
    | cons b tokens =>
      have hab : a.span.stop = b.span.start := hnext b rfl
      rcases List.mem_cons.1 hc with rfl | hc
      · omega
      · have hb := hle.2 b List.mem_cons_self
        have hbc := (List.pairwise_cons.1 hrest).1 c hc
        omega

/-- Tokens without gaps leave no byte out.

**Proof sketch.** Induction on the tokens. The offset is in the first one, or behind it, where the
next one starts; and the last one ends behind the offset, so that the search comes to an end. -/
lemma exists_contains_of_adjacent {tokens : List Token} {offset : Nat}
    (hadjacent : tokens.IsChain fun a b => a.span.stop = b.span.start)
    (hstart : ∀ t ∈ tokens.head?, t.span.start ≤ offset)
    (hstop : ∃ t ∈ tokens.getLast?, offset < t.span.stop) :
    ∃ t ∈ tokens, t.span.contains offset = true := by
  induction tokens with
  | nil =>
    obtain ⟨t, ht, -⟩ := hstop
    exact absurd ht nofun
  | cons a tokens ih =>
    have ha : a.span.start ≤ offset := hstart a rfl
    by_cases hlt : offset < a.span.stop
    · exact ⟨a, List.mem_cons_self, Span.contains_iff.2 ⟨ha, hlt⟩⟩
    · -- the byte is behind the first token, where the others start
      obtain ⟨hnext, htail⟩ := List.isChain_cons.1 hadjacent
      obtain ⟨last, hlast, hbehind⟩ := hstop
      cases tokens with
      | nil =>
        obtain rfl : a = last := Option.some.inj hlast
        exact absurd hbehind hlt
      | cons b tokens =>
        have hstart' : ∀ t ∈ (b :: tokens).head?, t.span.start ≤ offset := by
          intro t ht
          have hab := hnext t ht
          omega
        obtain ⟨t, ht, hcontains⟩ := ih htail hstart' ⟨last, hlast, hbehind⟩
        exact ⟨t, List.mem_cons_of_mem a ht, hcontains⟩

namespace Tiling

variable {text : String} {tokens : List Token} {offset i j : Nat} {s t : Token}

/-- No token stops before it starts. -/
lemma start_le_stop (h : Tiling text tokens) (ht : t ∈ tokens) : t.span.start ≤ t.span.stop := by
  obtain ⟨front, rfl, hfront⟩ := h.ending
  rcases List.mem_append.1 ht with ht | ht
  · exact (hfront t ht).2.2.le
  · obtain rfl := List.mem_singleton.1 ht
    exact le_rfl

/-- A token that comes later starts where an earlier one stops, or behind. -/
lemma stop_le_start (h : Tiling text tokens) (hs : tokens[i]? = some s) (ht : tokens[j]? = some t)
    (hlt : i < j) : s.span.stop ≤ t.span.start := by
  have hpairwise := pairwise_of_adjacent h.adjacent fun _ => h.start_le_stop
  obtain ⟨hi, rfl⟩ := List.getElem?_eq_some_iff.1 hs
  obtain ⟨hj, rfl⟩ := List.getElem?_eq_some_iff.1 ht
  exact List.pairwise_iff_getElem.1 hpairwise i j hi hj hlt

/-- The token with the last number is the end marker. -/
lemma getElem?_length_sub_one (h : Tiling text tokens) :
    tokens[tokens.length - 1]? = some (.endMarker text.utf8ByteSize) := by
  obtain ⟨front, rfl, -⟩ := h.ending
  simp

/-- No other token is an end marker. -/
lemma isEnd_iff (h : Tiling text tokens) (ht : tokens[i]? = some t) :
    t.isEnd = true ↔ i = tokens.length - 1 := by
  obtain ⟨front, rfl, hfront⟩ := h.ending
  have hi := (List.getElem?_eq_some_iff.1 ht).1
  rw [List.length_append, List.length_singleton] at hi
  rw [List.length_append, List.length_singleton, Nat.add_sub_cancel]
  rcases Nat.lt_succ_iff_lt_or_eq.1 hi with hlt | rfl
  · rw [List.getElem?_append_left hlt] at ht
    have hend := (hfront t (List.mem_of_getElem? ht)).1
    simp [hend, hlt.ne]
  · rw [List.getElem?_concat_length] at ht
    obtain rfl := Option.some.inj ht
    simp [Token.isEnd, Token.endMarker, Kind.isEnd]

/-- All tokens lie in the text. -/
lemma stop_le (h : Tiling text tokens) (ht : tokens[i]? = some t) :
    t.span.stop ≤ text.utf8ByteSize := by
  have hlast := h.getElem?_length_sub_one
  have hi := (List.getElem?_eq_some_iff.1 ht).1
  rcases Nat.lt_or_eq_of_le (Nat.le_sub_one_of_lt hi) with hlt | rfl
  · exact h.stop_le_start ht hlast hlt
  · obtain rfl := Option.some.inj (ht.symm.trans hlast)
    exact le_rfl

/-- At each offset up to the end of the text there is a token. -/
theorem exists_isAt (h : Tiling text tokens) (hle : offset ≤ text.utf8ByteSize) :
    ∃ (i : Nat) (t : Token), tokens[i]? = some t ∧ t.isAt offset = true := by
  rcases Nat.lt_or_eq_of_le hle with hlt | rfl
  · have hstart : ∀ t ∈ tokens.head?, t.span.start ≤ offset := by
      intro t ht
      have hzero := h.starts
      rw [Option.mem_def.1 ht] at hzero
      have : t.span.start = 0 := Option.some.inj hzero
      omega
    have hstop : ∃ t ∈ tokens.getLast?, offset < t.span.stop := by
      obtain ⟨t, ht, hsize⟩ := Option.map_eq_some_iff.1 h.stops
      exact ⟨t, ht, by omega⟩
    obtain ⟨t, ht, hcontains⟩ := exists_contains_of_adjacent h.adjacent hstart hstop
    obtain ⟨i, hi⟩ := List.getElem?_of_mem ht
    exact ⟨i, t, hi, by rw [Token.isAt, hcontains, Bool.true_or]⟩
  · exact ⟨_, _, h.getElem?_length_sub_one, Token.isAt_endMarker _⟩

/-- Tokens at later offsets come later. -/
theorem index_le_index {later : Nat} (h : Tiling text tokens) (hs : tokens[i]? = some s)
    (hsat : s.isAt offset = true) (ht : tokens[j]? = some t) (htat : t.isAt later = true)
    (hle : offset ≤ later) : i ≤ j := by
  by_contra hlt
  have hi := (List.getElem?_eq_some_iff.1 hs).1
  have horder := h.stop_le_start ht hs (Nat.not_le.1 hlt)
  rw [Token.isAt_iff] at hsat htat
  rcases htat with hcontains | ⟨hend, -⟩
  · omega
  · have hj := (h.isEnd_iff ht).1 hend
    omega

/-- There is one token at an offset at most. -/
lemma index_unique (h : Tiling text tokens) (hs : tokens[i]? = some s)
    (hsat : s.isAt offset = true) (ht : tokens[j]? = some t) (htat : t.isAt offset = true) :
    i = j :=
  Nat.le_antisymm (h.index_le_index hs hsat ht htat le_rfl) (h.index_le_index ht htat hs hsat le_rfl)

/-- Behind the end of the text there is no token. -/
lemma le_of_isAt (h : Tiling text tokens) (ht : tokens[i]? = some t) (hat : t.isAt offset = true) :
    offset ≤ text.utf8ByteSize := by
  have hstop := h.stop_le ht
  have hle := h.start_le_stop (List.mem_of_getElem? ht)
  rw [Token.isAt_iff] at hat
  omega

/-- In front of the end the token at an offset contains it. -/
lemma contains_eq_isAt (h : Tiling text tokens) (ht : tokens[i]? = some t)
    (hlt : offset < text.utf8ByteSize) : t.span.contains offset = t.isAt offset := by
  rw [Token.isAt]
  cases hend : t.isEnd with
  | false => simp
  | true =>
    have hi := (h.isEnd_iff ht).1 hend
    subst hi
    obtain rfl := Option.some.inj (ht.symm.trans h.getElem?_length_sub_one)
    -- the end marker starts behind the offset
    simp [Token.endMarker, Span.point, hlt.ne']

end Tiling

/-! ## The search -/

namespace TokenStream

variable {text : String} {tokens : List Token} {offset i : Nat}

/-- The search halves the tokens at the one that contains the offset: those before it end by there,
and those from it on do not. -/
lemma partitionPoint_endsBy (h : Tiling text tokens) {t : Token} (ht : tokens[i]? = some t)
    (hcontains : t.span.contains offset = true) :
    partitionPoint (endsBy ⟨text, tokens⟩ offset) 0 tokens.length = i := by
  have hi := (List.getElem?_eq_some_iff.1 ht).1
  rw [Span.contains_iff] at hcontains
  refine partitionPoint_eq _ 0 tokens.length i (Nat.zero_le i) hi.le fun k _ hk => ?_
  have hs : tokens[k]? = some tokens[k] := List.getElem?_eq_getElem hk
  have hends : endsBy ⟨text, tokens⟩ offset k = decide (tokens[k].span.stop ≤ offset) := by
    simp [endsBy, hs]
  rw [hends, decide_eq_true_eq]
  rcases Nat.lt_trichotomy k i with hlt | rfl | hgt
  · have horder := h.stop_le_start hs ht hlt
    omega
  · obtain rfl := Option.some.inj (ht.symm.trans hs)
    omega
  · have horder := h.stop_le_start ht hs hgt
    have hle := h.start_le_stop (List.mem_of_getElem? hs)
    omega

/-- The search finds the token at an offset. -/
lemma indexAt?_of_isAt (h : Tiling text tokens) {t : Token} (ht : tokens[i]? = some t)
    (hat : t.isAt offset = true) : indexAt? ⟨text, tokens⟩ offset = some i := by
  rw [indexAt?]
  rcases Nat.lt_or_eq_of_le (h.le_of_isAt ht hat) with hlt | rfl
  · have hcontains : t.span.contains offset = true := (h.contains_eq_isAt ht hlt).trans hat
    have hfound : partitionPoint (endsBy ⟨text, tokens⟩ offset) 0 (length ⟨text, tokens⟩) = i :=
      partitionPoint_endsBy h ht hcontains
    rw [if_neg hlt.ne]
    simp only [hfound, ht, Option.any_some, hcontains, if_true]
  · have hlast := h.getElem?_length_sub_one
    have hend : (Token.endMarker text.utf8ByteSize).isAt text.utf8ByteSize = true :=
      Token.isAt_endMarker _
    rw [if_pos rfl, h.index_unique ht hat hlast hend]
    rfl

/-- Behind the end of the text nothing is found. -/
lemma indexAt?_eq_none (h : Tiling text tokens) (hlt : text.utf8ByteSize < offset) :
    indexAt? ⟨text, tokens⟩ offset = none := by
  rw [indexAt?, if_neg hlt.ne']
  refine if_neg fun hany => ?_
  obtain ⟨t, ht, hcontains⟩ := (Option.any_eq_true _ _).1 hany
  have hat : t.isAt offset = true := by
    rw [Token.isAt, hcontains, Bool.true_or]
  exact absurd (h.le_of_isAt ht hat) (Nat.not_le.2 hlt)

/-- What is found is the token at the offset, and it is found if there is one. -/
theorem indexAt?_eq_some_iff (h : Tiling text tokens) :
    indexAt? ⟨text, tokens⟩ offset = some i ↔
      ∃ t, tokens[i]? = some t ∧ t.isAt offset = true := by
  refine ⟨fun hi => ?_, fun ⟨t, ht, hat⟩ => indexAt?_of_isAt h ht hat⟩
  rcases Nat.lt_or_ge text.utf8ByteSize offset with hlt | hle
  · rw [indexAt?_eq_none h hlt] at hi
    exact absurd hi nofun
  · obtain ⟨j, t, ht, hat⟩ := h.exists_isAt hle
    rw [indexAt?_of_isAt h ht hat] at hi
    obtain rfl := Option.some.inj hi
    exact ⟨t, ht, hat⟩

/-- To look at one token after the other finds the token at an offset, too. -/
lemma findIdx?_isAt (h : Tiling text tokens) :
    tokens.findIdx? (·.isAt offset) = indexAt? ⟨text, tokens⟩ offset := by
  cases hfirst : tokens.findIdx? (·.isAt offset) with
  | none =>
    rw [List.findIdx?_eq_none_iff] at hfirst
    refine (Option.eq_none_iff_forall_ne_some.2 fun i hi => ?_).symm
    obtain ⟨t, ht, hat⟩ := (indexAt?_eq_some_iff h).1 hi
    rw [hfirst t (List.mem_of_getElem? ht)] at hat
    exact absurd hat nofun
  | some i =>
    obtain ⟨hi, hat, -⟩ := List.findIdx?_eq_some_iff_getElem.1 hfirst
    exact (indexAt?_of_isAt h (List.getElem?_eq_getElem hi) hat).symm

/-- At an offset in front of the end of a text, also inside a character, the one token is found that
contains it; at the end it is the end marker, and behind the end there is nothing. So what is found
comes later for later offsets, and it is what one finds by looking at one token after the other.

**Proof sketch.** The tokens tile the text, so that up to the end some token is at the offset
(`exists_isAt`), and the binary search finds it (`indexAt?_of_isAt`). In front of the end, being at
an offset is containing it. Only one token is at an offset, and the tokens at later offsets come
later, since they are in order. -/
theorem indexAt?_lex (text : String) (offset : Nat) :
    -- (1) nothing is found exactly behind the end
    ((lex text).indexAt? offset = none ↔ text.utf8ByteSize < offset) ∧
    -- (2) in front of the end, the only token that contains the offset
    (offset < text.utf8ByteSize → ∃ i, (lex text).indexAt? offset = some i ∧
      ∀ j, (∃ t, (lex text).get? j = some t ∧ t.span.contains offset = true) ↔ j = i) ∧
    -- (3) at the end, the end marker
    ((lex text).indexAt? text.utf8ByteSize = some ((lex text).length - 1) ∧
      (lex text).get? ((lex text).length - 1) = some (.endMarker text.utf8ByteSize)) ∧
    -- (4) later offsets have later tokens
    (∀ later j, offset ≤ later → (lex text).indexAt? later = some j →
      ∃ i ≤ j, (lex text).indexAt? offset = some i) ∧
    -- (5) a linear scan
    (lex text).indexAt? offset = (lex text).tokens.findIdx? (·.isAt offset) := by
  have h : Tiling text (tokenize text) := tiling_tokenize text
  have hsome {o : Nat} (hle : o ≤ text.utf8ByteSize) :
      ∃ i t, (tokenize text)[i]? = some t ∧ t.isAt o = true ∧ (lex text).indexAt? o = some i := by
    obtain ⟨i, t, ht, hat⟩ := h.exists_isAt hle
    exact ⟨i, t, ht, hat, indexAt?_of_isAt h ht hat⟩
  refine ⟨⟨fun hnone => ?_, indexAt?_eq_none h⟩, fun hlt => ?_, ⟨if_pos rfl, ?_⟩, ?_, ?_⟩
  · by_contra hle
    obtain ⟨i, t, -, -, hi⟩ := hsome (Nat.not_lt.1 hle)
    exact absurd (hnone.symm.trans hi) nofun
  · obtain ⟨i, t, ht, hat, hi⟩ := hsome hlt.le
    refine ⟨i, hi, fun j => ⟨fun ⟨t', ht', hcontains⟩ => ?_, ?_⟩⟩
    · rw [h.contains_eq_isAt ht' hlt] at hcontains
      exact h.index_unique ht' hcontains ht hat
    · rintro rfl
      exact ⟨t, ht, (h.contains_eq_isAt ht hlt).trans hat⟩
  · exact h.getElem?_length_sub_one
  · intro later j hle hj
    obtain ⟨t', ht', hat'⟩ := (indexAt?_eq_some_iff h).1 hj
    obtain ⟨i, t, ht, hat, hi⟩ := hsome (hle.trans (h.le_of_isAt ht' hat'))
    exact ⟨i, h.index_le_index ht hat ht' hat' hle, hi⟩
  · exact (findIdx?_isAt h).symm

/-- Inside the euro sign, between two tokens, at the end and behind it. -/
theorem indexAt?_lex_euro :
    1 < "€1".utf8ByteSize ∧ (∃ i, (lex "€1").indexAt? 1 = some i ∧
        ∀ j, (∃ t, (lex "€1").get? j = some t ∧ t.span.contains 1 = true) ↔ j = i) ∧
      (lex "€1").indexAt? 4 = some ((lex "€1").length - 1) ∧ (lex "€1").indexAt? 5 = none :=
  ⟨by decide, (indexAt?_lex "€1" 1).2.1 (by decide), (indexAt?_lex "€1" 4).2.2.1.1,
    (indexAt?_lex "€1" 5).1.2 (by decide)⟩

end TokenStream

end LexicalFront
