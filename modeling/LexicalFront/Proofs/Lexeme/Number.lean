import LexicalFront.Proofs.Lexeme.Run
set_option autoImplicit false
set_option relaxedAutoImplicit false

/-!
# How far numbers reach

The rules for numbers against the classes of numbers. A number is cut off by looking at most three
characters ahead, and the characters looked at may turn out not to belong to it.

## Main results

* `LexicalFront.numberExtent_cut` — what is cut off lies in the class of its tag.
* `LexicalFront.numberExtent_of_form` — a piece in a class of numbers is cut off as a whole.
* `LexicalFront.numberExtent_append_le` — more text never makes a number shorter.
* `LexicalFront.numberExtent_append_lineFeed` — a line feed ends a number like the end of the text.
-/

namespace LexicalFront

/-! ## Fractions -/

@[simp] lemma fractionLength_nil : fractionLength [] = 0 := rfl

/-- Only a point begins a fraction. -/
lemma fractionLength_of_ne {c : Char} (hc : c ≠ '.') (cs : List Char) :
    fractionLength (c :: cs) = 0 := by
  unfold fractionLength
  split
  · next h => exact absurd (List.cons.inj h).1 hc
  · rfl

/-- A point with a character behind it. -/
lemma fractionLength_point (d : Char) (cs : List Char) :
    fractionLength ('.' :: d :: cs) =
      if Radix.decimal.isDigit d then 2 + digitRun .decimal cs else 0 := rfl

/-- A fraction is cut off the text, if it begins with one. -/
lemma fractionLength_cut (cs : List Char) :
    ∃ fraction rest, cs = fraction ++ rest ∧ fractionLength cs = fraction.length ∧
      (fraction = [] ∨ IsFraction fraction) := by
  by_cases h : fractionLength cs = 0
  · exact ⟨[], cs, rfl, h, .inl rfl⟩
  · unfold fractionLength at h ⊢
    split at h
    · next d cs =>
      split_ifs at h with hd
      · obtain ⟨ds, rest, rfl, hlen, hds⟩ := digitRun_cut .decimal cs
        refine ⟨'.' :: d :: ds, rest, rfl, ?_, .inr ⟨d :: ds, rfl, d, ds, rfl, hd, hds⟩⟩
        simp only [hd, if_true, hlen, List.length_cons]
        omega
      · exact absurd rfl h
    · exact absurd rfl h

/-- A fraction goes on as far as the digits behind it do. -/
lemma fractionLength_append {fraction : List Char} (h : IsFraction fraction) (cs : List Char) :
    fractionLength (fraction ++ cs) = fraction.length + digitRun .decimal cs := by
  obtain ⟨_, rfl, d, ds, rfl, hd, hds⟩ := h
  rw [List.cons_append, List.cons_append, fractionLength_point, if_pos hd, digitRun_append hds]
  simp only [List.length_cons]
  omega

/-- A line feed ends a fraction like the end of the text. -/
lemma fractionLength_append_lineFeed (cs ds : List Char) :
    fractionLength (cs ++ '\n' :: ds) = fractionLength cs := by
  rcases cs with _ | ⟨c, cs⟩
  · exact fractionLength_of_ne (by decide) ds
  · by_cases hc : c = '.'
    · subst hc
      rcases cs with _ | ⟨d, cs⟩
      · rfl
      · simp only [List.cons_append, fractionLength_point,
          digitRun_append_stop isDigitOrUnderscore_lineFeed]
    · rw [List.cons_append, fractionLength_of_ne hc, fractionLength_of_ne hc]

/-! ## Exponents -/

@[simp] lemma exponentLength_nil : exponentLength [] = 0 := rfl

/-- Only the letter `e` begins an exponent. -/
lemma exponentLength_of_ne {c : Char} (hc : ¬(c = 'e' ∨ c = 'E')) (cs : List Char) :
    exponentLength (c :: cs) = 0 := if_neg hc

/-- The letter and what follows it. -/
lemma exponentLength_letter {e : Char} (he : e = 'e' ∨ e = 'E') (cs : List Char) :
    exponentLength (e :: cs) =
      match cs.drop (signLength cs) with
      | d :: ds => if Radix.decimal.isDigit d then 2 + signLength cs + digitRun .decimal ds else 0
      | [] => 0 := if_pos he

/-- A sign is cut off the text, if it begins with one. -/
lemma signLength_cut (cs : List Char) :
    ∃ sign rest, cs = sign ++ rest ∧ signLength cs = sign.length ∧
      (sign = [] ∨ sign = ['+'] ∨ sign = ['-']) := by
  rcases cs with _ | ⟨c, cs⟩
  · exact ⟨[], [], rfl, rfl, .inl rfl⟩
  · by_cases hc : c = '+' ∨ c = '-'
    · refine ⟨[c], cs, rfl, if_pos hc, .inr ?_⟩
      rcases hc with rfl | rfl
      · exact .inl rfl
      · exact .inr rfl
    · exact ⟨[], c :: cs, rfl, if_neg hc, .inl rfl⟩

/-- A digit is no sign, so that the sign before it is the whole sign. -/
lemma signLength_append {sign : List Char} (hs : sign = [] ∨ sign = ['+'] ∨ sign = ['-'])
    {d : Char} (hd : Radix.decimal.isDigit d = true) (ds : List Char) :
    signLength (sign ++ d :: ds) = sign.length := by
  rcases hs with rfl | rfl | rfl
  · refine if_neg ?_
    rintro (rfl | rfl) <;> exact absurd hd (by decide)
  · rfl
  · rfl

/-- An exponent is cut off the text, if it begins with one. -/
lemma exponentLength_cut (cs : List Char) :
    ∃ exponent rest, cs = exponent ++ rest ∧ exponentLength cs = exponent.length ∧
      (exponent = [] ∨ IsExponent exponent) := by
  by_cases h : exponentLength cs = 0
  · exact ⟨[], cs, rfl, h, .inl rfl⟩
  · rcases cs with _ | ⟨e, cs⟩
    · exact absurd rfl h
    · by_cases he : e = 'e' ∨ e = 'E'
      · obtain ⟨sign, rest, rfl, hlen, hs⟩ := signLength_cut cs
        rw [exponentLength_letter he, hlen, List.drop_left] at h ⊢
        rcases rest with _ | ⟨d, rest⟩
        · exact absurd rfl h
        · by_cases hd : Radix.decimal.isDigit d = true
          · obtain ⟨ds, rest, rfl, hrun, hds⟩ := digitRun_cut .decimal rest
            refine ⟨e :: (sign ++ d :: ds), rest, by simp, ?_,
              .inr ⟨e, sign, d :: ds, rfl, he, hs, d, ds, rfl, hd, hds⟩⟩
            simp only [hd, if_true, hrun, List.length_cons, List.length_append]
            omega
          · exact absurd (if_neg hd) h
      · exact absurd (exponentLength_of_ne he cs) h

/-- An exponent goes on as far as the digits behind it do. -/
lemma exponentLength_append {exponent : List Char} (h : IsExponent exponent) (cs : List Char) :
    exponentLength (exponent ++ cs) = exponent.length + digitRun .decimal cs := by
  obtain ⟨e, sign, _, rfl, he, hs, d, ds, rfl, hd, hds⟩ := h
  rw [List.cons_append, List.append_assoc, List.cons_append, exponentLength_letter he,
    signLength_append hs hd, List.drop_left]
  simp only [hd, if_true, digitRun_append hds, List.length_cons, List.length_append]
  omega

/-- A line feed ends an exponent like the end of the text. -/
lemma exponentLength_append_lineFeed (cs ds : List Char) :
    exponentLength (cs ++ '\n' :: ds) = exponentLength cs := by
  rcases cs with _ | ⟨e, cs⟩
  · exact exponentLength_of_ne (by decide) ds
  · by_cases he : e = 'e' ∨ e = 'E'
    · obtain ⟨sign, rest, rfl, hlen, -⟩ := signLength_cut cs
      have hlen' : signLength (sign ++ rest ++ '\n' :: ds) = sign.length := by
        rw [← hlen]
        rcases sign with _ | ⟨s, sign⟩
        · rcases rest with _ | ⟨x, rest⟩ <;> rfl
        · rfl
      rw [List.cons_append, exponentLength_letter he, exponentLength_letter he, hlen, hlen',
        List.append_assoc, List.drop_left, List.drop_left]
      rcases rest with _ | ⟨d, rest⟩
      · rfl
      · simp only [List.cons_append, digitRun_append_stop isDigitOrUnderscore_lineFeed]
    · rw [List.cons_append, exponentLength_of_ne he, exponentLength_of_ne he]

/-- More text never makes an exponent shorter. -/
lemma exponentLength_append_le (cs ds : List Char) :
    exponentLength cs ≤ exponentLength (cs ++ ds) := by
  obtain ⟨exponent, rest, rfl, hlen, rfl | he⟩ := exponentLength_cut cs
  · rw [hlen]
    exact Nat.zero_le _
  · rw [hlen, List.append_assoc, exponentLength_append he]
    exact Nat.le_add_right _ _

/-! ## Decimal numbers -/

/-- The length of the fraction and the exponent together, without the digits before them. -/
def tailLength (cs : List Char) : Nat :=
  fractionLength cs + exponentLength (cs.drop (fractionLength cs))

/-- A decimal number is its digits and what follows them; if anything does, it is a float. -/
lemma decimalExtent_eq (cs : List Char) :
    decimalExtent cs =
      ⟨if tailLength (cs.drop (digitRun .decimal cs)) = 0 then .integer .decimal else .float,
        digitRun .decimal cs + tailLength (cs.drop (digitRun .decimal cs))⟩ := by
  rw [tailLength, List.drop_drop, ← Nat.add_assoc]
  rfl

/-- More text never makes the part behind the digits shorter.

**Proof sketch.** If the text begins with a fraction that reaches its end, the fraction can only
grow. If the fraction ends before, it stays and the exponent behind it can only grow. If there is no
fraction, the text either begins with a point, and so with no exponent, or it never gets a fraction.
-/
lemma tailLength_append_le (cs ds : List Char) : tailLength cs ≤ tailLength (cs ++ ds) := by
  obtain ⟨fraction, rest, rfl, hlen, rfl | hf⟩ := fractionLength_cut cs
  · rw [List.nil_append, List.length_nil] at hlen
    rw [List.nil_append, tailLength, tailLength, hlen, List.drop_zero, Nat.zero_add]
    by_cases h : fractionLength (rest ++ ds) = 0
    · rw [h, List.drop_zero, Nat.zero_add]
      exact exponentLength_append_le rest ds
    · have hexp : exponentLength rest = 0 := by
        rcases rest with _ | ⟨c, rest⟩
        · rfl
        · have hc : c = '.' := by
            by_contra hc
            exact h (fractionLength_of_ne hc _)
          exact exponentLength_of_ne (by rw [hc]; decide) rest
      rw [hexp]
      exact Nat.zero_le _
  · have hrun := fractionLength_append hf rest
    have hgrown : fractionLength (fraction ++ rest ++ ds) =
        fraction.length + digitRun .decimal (rest ++ ds) := by
      rw [List.append_assoc, fractionLength_append hf]
    rcases rest with _ | ⟨c, rest⟩
    · simp only [tailLength, hlen, List.drop_left, exponentLength_nil]
      omega
    · have hstop : digitRun .decimal (c :: rest ++ ds) = digitRun .decimal (c :: rest) :=
        digitRun_append_of_lt (by rw [List.length_cons]; omega) ds
      have hsame : fractionLength (fraction ++ c :: rest ++ ds) = fraction.length := by omega
      rw [tailLength, tailLength, hsame, hlen, List.append_assoc, List.drop_left, List.drop_left]
      exact Nat.add_le_add_left (exponentLength_append_le _ _) _

/-- More text never makes a decimal number shorter. -/
lemma decimalExtent_append_le (cs ds : List Char) :
    (decimalExtent cs).more ≤ (decimalExtent (cs ++ ds)).more := by
  rw [decimalExtent_eq, decimalExtent_eq]
  obtain h | h := (digitRun_le_length (r := .decimal) cs).lt_or_eq
  · rw [digitRun_append_of_lt h, List.drop_append_of_le_length h.le]
    exact Nat.add_le_add_left (tailLength_append_le _ _) _
  · rw [h, List.drop_length]
    have := digitRun_append_le (r := .decimal) cs ds
    simp only [tailLength, fractionLength_nil, List.drop_nil, exponentLength_nil]
    omega

/-- A line feed ends the part behind the digits like the end of the text. -/
lemma tailLength_append_lineFeed (cs ds : List Char) :
    tailLength (cs ++ '\n' :: ds) = tailLength cs := by
  obtain ⟨fraction, rest, rfl, hlen, -⟩ := fractionLength_cut cs
  rw [tailLength, tailLength, fractionLength_append_lineFeed, hlen, List.append_assoc,
    List.drop_left, List.drop_left, exponentLength_append_lineFeed]

/-- A line feed ends a decimal number like the end of the text. -/
lemma decimalExtent_append_lineFeed (cs ds : List Char) :
    decimalExtent (cs ++ '\n' :: ds) = decimalExtent cs := by
  rw [decimalExtent_eq, decimalExtent_eq, digitRun_append_stop isDigitOrUnderscore_lineFeed,
    List.drop_append_of_le_length (digitRun_le_length cs), tailLength_append_lineFeed]

/-- The part behind the digits is cut off the text. -/
lemma tailLength_cut (cs : List Char) :
    ∃ fraction exponent rest, cs = fraction ++ exponent ++ rest ∧
      tailLength cs = (fraction ++ exponent).length ∧
      (fraction = [] ∨ IsFraction fraction) ∧ (exponent = [] ∨ IsExponent exponent) := by
  obtain ⟨fraction, rest, rfl, hlen, hf⟩ := fractionLength_cut cs
  obtain ⟨exponent, rest, rfl, hlen', he⟩ := exponentLength_cut rest
  refine ⟨fraction, exponent, rest, (List.append_assoc _ _ _).symm, ?_, hf, he⟩
  rw [tailLength, hlen, List.drop_left, hlen', List.length_append]

/-- A decimal number is cut off the text: an integer, or a float. -/
lemma decimalExtent_cut {c : Char} (hc : Radix.decimal.isDigit c = true) (cs : List Char) :
    ∃ piece rest, cs = piece ++ rest ∧ (decimalExtent cs).more = piece.length ∧
      (decimalExtent cs).tag.Form (c :: piece) := by
  obtain ⟨digits, rest, rfl, hlen, hds⟩ := digitRun_cut .decimal cs
  obtain ⟨fraction, exponent, rest, rfl, htail, hf, he⟩ := tailLength_cut rest
  refine ⟨digits ++ (fraction ++ exponent), rest, by simp, ?_, ?_⟩
  · rw [decimalExtent_eq, hlen, List.drop_left, htail, ← List.length_append]
  · rw [decimalExtent_eq, hlen, List.drop_left, htail]
    split_ifs with h
    · rw [List.length_eq_zero_iff.1 h, List.append_nil]
      exact ⟨c, digits, rfl, hc, hds⟩
    · refine ⟨c :: digits, fraction, exponent, by simp, ⟨c, digits, rfl, hc, hds⟩, hf, he, ?_⟩
      exact fun hnil => h (by rw [hnil]; rfl)

/-- Neither the point of a fraction nor the letter of an exponent belongs to a run of digits. -/
lemma digitRun_tail {fraction exponent : List Char} (hf : fraction = [] ∨ IsFraction fraction)
    (he : exponent = [] ∨ IsExponent exponent) : digitRun .decimal (fraction ++ exponent) = 0 := by
  rcases hf with rfl | ⟨_, rfl, -⟩
  · rcases he with rfl | ⟨e, _, _, rfl, rfl | rfl, -⟩
    · rfl
    · exact digitRun_cons_stop (by decide) _
    · exact digitRun_cons_stop (by decide) _
  · exact digitRun_cons_stop (by decide) _

/-- The part behind the digits is cut off as a whole. -/
lemma tailLength_of_tail {fraction exponent : List Char} (hf : fraction = [] ∨ IsFraction fraction)
    (he : exponent = [] ∨ IsExponent exponent) :
    tailLength (fraction ++ exponent) = (fraction ++ exponent).length := by
  have hexp : exponentLength exponent = exponent.length := by
    rcases he with rfl | he
    · rfl
    · simpa using exponentLength_append he []
  have hfrac : fractionLength (fraction ++ exponent) = fraction.length := by
    rcases hf with rfl | hf
    · rcases he with rfl | ⟨e, _, _, rfl, rfl | rfl, -⟩
      · rfl
      · exact fractionLength_of_ne (by decide) _
      · exact fractionLength_of_ne (by decide) _
    · rw [fractionLength_append hf]
      simpa using digitRun_tail (.inl rfl) he
  rw [tailLength, hfrac, List.drop_left, hexp, List.length_append]

/-- Digits with what may follow them are cut off as a whole. -/
lemma decimalExtent_append {digits fraction exponent : List Char} (hds : IsDigitRun .decimal digits)
    (hf : fraction = [] ∨ IsFraction fraction) (he : exponent = [] ∨ IsExponent exponent) :
    decimalExtent (digits ++ (fraction ++ exponent)) =
      ⟨if fraction ++ exponent = [] then .integer .decimal else .float,
        (digits ++ (fraction ++ exponent)).length⟩ := by
  rw [decimalExtent_eq, digitRun_append hds, digitRun_tail hf he, Nat.add_zero, List.drop_left,
    tailLength_of_tail hf he, ← List.length_append]
  simp only [List.length_eq_zero_iff]

/-! ## Numbers with the letter of a base -/

/-- The letter of a base is nothing that a decimal number may go on with. -/
lemma not_decimal_of_ofMark? {m : Char} {r : Radix} (h : Radix.ofMark? m = some r) :
    Radix.decimal.isDigitOrUnderscore m = false ∧ m ≠ '.' ∧ ¬(m = 'e' ∨ m = 'E') := by
  have hm : m = 'x' ∨ m = 'X' ∨ m = 'o' ∨ m = 'O' ∨ m = 'b' ∨ m = 'B' := by
    by_contra hm
    simp only [not_or] at hm
    simp [Radix.ofMark?, hm] at h
  rcases hm with rfl | rfl | rfl | rfl | rfl | rfl <;> decide

/-- The integers of a base with a letter. -/
lemma isInteger_iff_of_ofMark? {m : Char} {r : Radix} (h : Radix.ofMark? m = some r)
    (cs : List Char) :
    IsInteger r cs ↔ ∃ ds, IsRadixRun r ds cs ∧ ∃ d ∈ ds, r.isDigit d = true := by
  cases r with
  | decimal =>
    unfold Radix.ofMark? at h
    split_ifs at h <;> simp at h
  | _ => rfl

/-- The letter of a base and digits make an integer or, if none of them is more than an underscore,
a number without digits. -/
lemma form_radixRun {m : Char} {r : Radix} (hm : Radix.ofMark? m = some r) {digits : List Char}
    (hds : IsDigitRun r digits) :
    (if digits.any r.isDigit then Tag.integer r else .missingRadixDigits).Form
      ('0' :: m :: digits) := by
  have hrun : IsRadixRun r digits ('0' :: m :: digits) := ⟨m, rfl, hm, hds⟩
  split_ifs with h
  · exact (isInteger_iff_of_ofMark? hm _).2 ⟨digits, hrun, List.any_eq_true.1 h⟩
  · refine ⟨r, digits, hrun, fun d hd => Bool.eq_false_iff.2 fun hdigit => h ?_⟩
    exact List.any_eq_true.2 ⟨d, hd, hdigit⟩

/-- A run of digits is cut off as a whole, with the letter before it. -/
lemma radixExtent_of_isDigitRun {r : Radix} {digits : List Char} (hds : IsDigitRun r digits) :
    radixExtent r digits =
      ⟨if digits.any r.isDigit then .integer r else .missingRadixDigits, 1 + digits.length⟩ := by
  rw [radixExtent, digitRun_of_isDigitRun hds, List.takeWhile_eq_self_iff.2 hds]

/-- More text never makes a number with the letter of a base shorter. -/
lemma radixExtent_append_le (r : Radix) (cs ds : List Char) :
    (radixExtent r cs).more ≤ (radixExtent r (cs ++ ds)).more :=
  Nat.add_le_add_left (digitRun_append_le cs ds) 1

/-- A line feed ends a number with the letter of a base like the end of the text. -/
lemma radixExtent_append_lineFeed (r : Radix) (cs ds : List Char) :
    radixExtent r (cs ++ '\n' :: ds) = radixExtent r cs := by
  rw [radixExtent, radixExtent, digitRun_append_stop isDigitOrUnderscore_lineFeed,
    takeWhile_append_stop isDigitOrUnderscore_lineFeed]

/-! ## All numbers -/

/-- A zero and the letter of a base begin a number of that base. -/
lemma numberExtent_radix {m : Char} {r : Radix} (hm : Radix.ofMark? m = some r) (cs : List Char) :
    numberExtent '0' (m :: cs) = radixExtent r cs := by
  simp only [numberExtent, if_true, hm]

/-- Without the letter of a base behind a zero the number is decimal. -/
lemma numberExtent_decimal {c : Char} {cs : List Char}
    (h : c = '0' → ∀ m ∈ cs.head?, Radix.ofMark? m = none) :
    numberExtent c cs = decimalExtent cs := by
  rcases cs with _ | ⟨m, cs⟩
  · rfl
  · by_cases hc : c = '0'
    · simp only [numberExtent, if_pos hc, h hc m rfl]
    · simp only [numberExtent, if_neg hc]

/-- The two ways a number may begin. -/
lemma numberExtent_cases (c : Char) (cs : List Char) :
    (∃ m r ds, c = '0' ∧ cs = m :: ds ∧ Radix.ofMark? m = some r) ∨
      (c = '0' → ∀ m ∈ cs.head?, Radix.ofMark? m = none) := by
  by_cases h : c = '0' → ∀ m ∈ cs.head?, Radix.ofMark? m = none
  · exact .inr h
  · left
    simp only [not_forall] at h
    obtain ⟨hc, m, hm, h⟩ := h
    obtain ⟨r, hr⟩ := Option.ne_none_iff_exists'.1 h
    obtain ⟨ds, hcs⟩ := List.head?_eq_some_iff.1 hm
    exact ⟨m, r, ds, hc, hcs, hr⟩

/-- A number is cut off the text, and lies in the class of its tag. -/
theorem numberExtent_cut {c : Char} (hc : Radix.decimal.isDigit c = true) (cs : List Char) :
    ∃ piece rest, cs = piece ++ rest ∧ (numberExtent c cs).more = piece.length ∧
      (numberExtent c cs).tag.Form (c :: piece) := by
  obtain ⟨m, r, ds, rfl, rfl, hm⟩ | h := numberExtent_cases c cs
  · rw [numberExtent_radix hm]
    refine ⟨m :: ds.takeWhile r.isDigitOrUnderscore, ds.dropWhile r.isDigitOrUnderscore, ?_,
      Nat.add_comm _ _, form_radixRun hm fun _ hd => List.mem_takeWhile_imp hd⟩
    rw [List.cons_append, List.takeWhile_append_dropWhile]
  · rw [numberExtent_decimal h]
    exact decimalExtent_cut hc cs

/-- More text never makes a number shorter. -/
theorem numberExtent_append_le (c : Char) (cs ds : List Char) :
    (numberExtent c cs).more ≤ (numberExtent c (cs ++ ds)).more := by
  rcases cs with _ | ⟨m, cs⟩
  · exact Nat.zero_le _
  · obtain ⟨m, r, _, rfl, heq, hm⟩ | h := numberExtent_cases c (m :: cs)
    · obtain ⟨rfl, rfl⟩ := List.cons.inj heq
      rw [List.cons_append, numberExtent_radix hm, numberExtent_radix hm]
      exact radixExtent_append_le r cs ds
    · rw [numberExtent_decimal h, numberExtent_decimal (by exact h)]
      exact decimalExtent_append_le (m :: cs) ds

/-- A line feed ends a number like the end of the text. -/
theorem numberExtent_append_lineFeed (c : Char) (cs ds : List Char) :
    numberExtent c (cs ++ '\n' :: ds) = numberExtent c cs := by
  obtain ⟨m, r, cs, rfl, rfl, hm⟩ | h := numberExtent_cases c cs
  · rw [List.cons_append, numberExtent_radix hm, numberExtent_radix hm,
      radixExtent_append_lineFeed]
  · have h' : c = '0' → ∀ m ∈ (cs ++ '\n' :: ds).head?, Radix.ofMark? m = none := by
      intro hc m hm
      rcases cs with _ | ⟨x, cs⟩
      · obtain rfl : '\n' = m := Option.some.inj hm
        decide
      · exact h hc m hm
    rw [numberExtent_decimal h, numberExtent_decimal h', decimalExtent_append_lineFeed]

/-! ## Pieces that are numbers -/

/-- A number that goes on like a decimal one does not go on with the letter of a base. -/
lemma ofMark?_eq_none_of_tail {digits fraction exponent : List Char}
    (hds : IsDigitRun .decimal digits) (hf : fraction = [] ∨ IsFraction fraction)
    (he : exponent = [] ∨ IsExponent exponent) :
    ∀ m ∈ (digits ++ (fraction ++ exponent)).head?, Radix.ofMark? m = none := by
  intro m hm
  by_contra h
  obtain ⟨r, hr⟩ := Option.ne_none_iff_exists'.1 h
  obtain ⟨hdigit, hpoint, hletter⟩ := not_decimal_of_ofMark? hr
  rcases digits with _ | ⟨d, digits⟩
  · rcases hf with rfl | ⟨_, rfl, -⟩
    · rcases he with rfl | ⟨e, _, _, rfl, he, -⟩
      · simp at hm
      · obtain rfl : e = m := Option.some.inj hm
        exact hletter he
    · exact hpoint (Option.some.inj hm).symm
  · obtain rfl : d = m := Option.some.inj hm
    exact absurd (hds d List.mem_cons_self) (by rw [hdigit]; simp)

/-- A decimal number is cut off as a whole. -/
lemma numberExtent_of_tail (c : Char) {digits fraction exponent : List Char}
    (hds : IsDigitRun .decimal digits) (hf : fraction = [] ∨ IsFraction fraction)
    (he : exponent = [] ∨ IsExponent exponent) :
    numberExtent c (digits ++ (fraction ++ exponent)) =
      ⟨if fraction ++ exponent = [] then .integer .decimal else .float,
        (digits ++ (fraction ++ exponent)).length⟩ := by
  rw [numberExtent_decimal fun _ => ofMark?_eq_none_of_tail hds hf he,
    decimalExtent_append hds hf he]

/-- An integer is cut off as a whole. -/
theorem numberExtent_of_isInteger {r : Radix} {c : Char} {cs : List Char}
    (h : IsInteger r (c :: cs)) : numberExtent c cs = ⟨.integer r, cs.length⟩ := by
  by_cases hr : r = .decimal
  · subst hr
    obtain ⟨d, ds, heq, -, hds⟩ := h
    obtain ⟨rfl, rfl⟩ := List.cons.inj heq
    simpa using numberExtent_of_tail c hds (.inl rfl) (.inl rfl)
  · obtain ⟨ds, ⟨m, heq, hm, hds⟩, hdigit⟩ : ∃ ds, IsRadixRun r ds (c :: cs) ∧
        ∃ d ∈ ds, r.isDigit d = true := by
      cases r <;> first | exact absurd rfl hr | exact h
    obtain ⟨rfl, rfl⟩ := List.cons.inj heq
    rw [numberExtent_radix hm, radixExtent_of_isDigitRun hds, if_pos (List.any_eq_true.2 hdigit),
      List.length_cons, Nat.add_comm]

/-- A float is cut off as a whole. -/
theorem numberExtent_of_isFloat {c : Char} {cs : List Char} (h : IsFloat (c :: cs)) :
    numberExtent c cs = ⟨.float, cs.length⟩ := by
  obtain ⟨_, fraction, exponent, heq, ⟨d, digits, rfl, -, hds⟩, hf, he, hne⟩ := h
  rw [List.append_assoc, List.cons_append] at heq
  obtain ⟨rfl, rfl⟩ := List.cons.inj heq
  rw [numberExtent_of_tail c hds hf he, if_neg hne]

/-- The letter of a base without digits is cut off as a whole. -/
theorem numberExtent_of_isRadixWithoutDigits {c : Char} {cs : List Char}
    (h : IsRadixWithoutDigits (c :: cs)) :
    numberExtent c cs = ⟨.missingRadixDigits, cs.length⟩ := by
  obtain ⟨r, ds, ⟨m, heq, hm, hds⟩, hdigit⟩ := h
  obtain ⟨rfl, rfl⟩ := List.cons.inj heq
  have hany : ds.any r.isDigit = false := List.any_eq_false.2 fun d hd => by rw [hdigit d hd]; simp
  rw [numberExtent_radix hm, radixExtent_of_isDigitRun hds, hany, List.length_cons, Nat.add_comm]
  rfl

end LexicalFront
