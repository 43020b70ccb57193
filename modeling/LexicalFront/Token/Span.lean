import LexicalFront.Text.Utf8
set_option autoImplicit false
set_option relaxedAutoImplicit false

/-!
# Spans

A span is a pair of byte offsets into a text, the end excluded.

## Main definitions

* `LexicalFront.Span` — the offsets; `Span.slice?` is the text they cover.
-/

namespace LexicalFront

/-- The byte offsets `start..stop`, the second excluded. Nothing is asked of their order. -/
structure Span where
  /-- The first byte. -/
  start : Nat
  /-- The byte after the last one. -/
  stop : Nat
  deriving DecidableEq, Repr

namespace Span

/-- The empty span at an offset, as the end marker carries it. -/
def point (offset : Nat) : Span := ⟨offset, offset⟩

/-- The number of bytes, for a span whose ends are in order. -/
def length? (s : Span) : Option Nat :=
  if s.start ≤ s.stop then some (s.stop - s.start) else none

/-- Whether both ends are the same. -/
def isEmpty (s : Span) : Bool := s.start == s.stop

/-- Whether the byte at an offset lies inside. Empty spans contain nothing. -/
def contains (s : Span) (offset : Nat) : Bool :=
  s.start ≤ offset && offset < s.stop

/-- The covered text; absent if the span does not fit the text. -/
def slice? (s : Span) (text : String) : Option String :=
  sliceBytes? text s.start s.stop

/-- The two offsets with two dots between them. -/
def render (s : Span) : String :=
  s!"{s.start}..{s.stop}"

/-- The span moved to the right by some bytes. -/
def shift (s : Span) (n : Nat) : Span := ⟨s.start + n, s.stop + n⟩

/-- The bytes inside are those from the first one up to the last one. -/
theorem contains_iff {s : Span} {offset : Nat} :
    s.contains offset = true ↔ s.start ≤ offset ∧ offset < s.stop := by
  simp [contains]

@[simp] theorem contains_point (offset n : Nat) : (point offset).contains n = false := by
  rw [contains, Bool.eq_false_iff, ne_eq, Bool.and_eq_true, decide_eq_true_eq, decide_eq_true_eq]
  show ¬(offset ≤ n ∧ n < offset)
  omega

end Span

end LexicalFront
