import LexicalFront.Lexeme.Grammar
import Mathlib.Data.List.TakeWhile
set_option autoImplicit false
set_option relaxedAutoImplicit false

/-!
# Runs of characters

Most rules of the scanner take a run: the longest initial segment of the text whose characters pass
a test. This module compares the run of a text with the run of the text continued.

## Main results

* `LexicalFront.takeWhile_append_stop` — a character outside of a run ends it like the end of the
  text.
* `LexicalFront.length_takeWhile_append_le` — more text never makes a run shorter.
* `LexicalFront.digitRun_append` — a run of digits goes on as far as the text behind it does.
-/

namespace LexicalFront

/-! ## Runs of characters -/

section Run

variable {p : Char → Bool}

/-- A run of characters ends at a character outside of it as at the end of the text. -/
lemma takeWhile_append_stop {x : Char} (hx : p x = false) (cs ds : List Char) :
    (cs ++ x :: ds).takeWhile p = cs.takeWhile p := by
  induction cs with
  | nil => simp [hx]
  | cons c cs ih => by_cases hc : p c = true <;> simp [hc, ih]

/-- More text never makes a run shorter. -/
lemma length_takeWhile_append_le (cs ds : List Char) :
    (cs.takeWhile p).length ≤ ((cs ++ ds).takeWhile p).length := by
  rw [List.takeWhile_append]
  split_ifs with h
  · rw [List.length_append, h]
    exact Nat.le_add_right _ _
  · exact le_rfl

/-- A run is as many characters as it takes. -/
lemma take_length_takeWhile (cs : List Char) :
    cs.take (cs.takeWhile p).length = cs.takeWhile p :=
  (List.prefix_iff_eq_take.1 (List.takeWhile_prefix p)).symm

/-- Behind them is what the run leaves. -/
lemma drop_length_takeWhile (cs : List Char) :
    cs.drop (cs.takeWhile p).length = cs.dropWhile p := by
  have hcut := congrArg (List.drop (cs.takeWhile p).length)
    (List.takeWhile_append_dropWhile (p := p) (l := cs))
  rw [List.drop_left] at hcut
  exact hcut.symm

/-- A run stops before a character outside of it. -/
lemma eq_false_of_dropWhile_eq_cons {x : Char} {cs rest : List Char}
    (h : cs.dropWhile p = x :: rest) : p x = false := by
  have hstop := List.head?_dropWhile_not p cs
  rw [h] at hstop
  exact hstop

/-- A run that ends before the text does is not changed by more text. -/
lemma takeWhile_append_of_lt {cs : List Char} (h : (cs.takeWhile p).length < cs.length)
    (ds : List Char) : (cs ++ ds).takeWhile p = cs.takeWhile p := by
  rw [List.takeWhile_append, if_neg h.ne]

end Run

/-! ## Runs of digits -/

section Digits

variable (r : Radix)

/-- A run of digits is cut off the text. -/
lemma digitRun_cut (cs : List Char) :
    ∃ ds rest, cs = ds ++ rest ∧ digitRun r cs = ds.length ∧ IsDigitRun r ds :=
  ⟨cs.takeWhile r.isDigitOrUnderscore, cs.dropWhile r.isDigitOrUnderscore,
    (List.takeWhile_append_dropWhile).symm, rfl, fun _ hc => List.mem_takeWhile_imp hc⟩

variable {r}

/-- Behind a run of digits the run goes on as far as the text after it does. -/
lemma digitRun_append {ds : List Char} (h : IsDigitRun r ds) (cs : List Char) :
    digitRun r (ds ++ cs) = ds.length + digitRun r cs := by
  rw [digitRun, List.takeWhile_append_of_pos h, List.length_append, digitRun]

@[simp] lemma digitRun_nil : digitRun r [] = 0 := rfl

/-- A run of digits is as long as its text if there is nothing else in it. -/
lemma digitRun_of_isDigitRun {ds : List Char} (h : IsDigitRun r ds) :
    digitRun r ds = ds.length := by
  simpa using digitRun_append h []

/-- A character that is no digit ends a run like the end of the text. -/
lemma digitRun_append_stop {x : Char} (hx : r.isDigitOrUnderscore x = false)
    (cs ds : List Char) : digitRun r (cs ++ x :: ds) = digitRun r cs := by
  rw [digitRun, takeWhile_append_stop hx, digitRun]

/-- A run of digits does not begin with a character that is none. -/
lemma digitRun_cons_stop {x : Char} (hx : r.isDigitOrUnderscore x = false) (ds : List Char) :
    digitRun r (x :: ds) = 0 :=
  digitRun_append_stop hx [] ds

lemma digitRun_append_le (cs ds : List Char) : digitRun r cs ≤ digitRun r (cs ++ ds) :=
  length_takeWhile_append_le cs ds

lemma digitRun_append_of_lt {cs : List Char} (h : digitRun r cs < cs.length) (ds : List Char) :
    digitRun r (cs ++ ds) = digitRun r cs := by
  rw [digitRun, takeWhile_append_of_lt h, digitRun]

lemma digitRun_le_length (cs : List Char) : digitRun r cs ≤ cs.length :=
  List.IsPrefix.length_le (List.takeWhile_prefix _)

/-- A line feed is a digit of no base. -/
lemma isDigitOrUnderscore_lineFeed : r.isDigitOrUnderscore '\n' = false := by
  cases r <;> decide

end Digits

end LexicalFront
