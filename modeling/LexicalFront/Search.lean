set_option autoImplicit false
set_option relaxedAutoImplicit false

/-!
# Binary search

The point at which a test on indices changes from true to false, found by halving.

## Main definitions

* `LexicalFront.partitionPoint` — the searched point of an interval.

## Main results

* `LexicalFront.le_partitionPoint`, `LexicalFront.partitionPoint_le` — the point lies in the interval.
* `LexicalFront.partitionPoint_eq` — if the test holds exactly below `k`, the search finds `k`.
-/

namespace LexicalFront

/-- The index in `lo..hi` at which `p` changes from true to false, found by halving the interval.
It is the number of the changing index whenever `p` is true up to it and false from it on. -/
def partitionPoint (p : Nat → Bool) (lo hi : Nat) : Nat :=
  if lo < hi then
    let mid := (lo + hi) / 2
    if p mid then partitionPoint p (mid + 1) hi else partitionPoint p lo mid
  else lo
termination_by hi - lo

/-- The search never leaves the interval on the left. -/
theorem le_partitionPoint (p : Nat → Bool) (lo hi : Nat) : lo ≤ partitionPoint p lo hi := by
  fun_induction partitionPoint p lo hi with
  | case1 lo hi h mid _ ih => omega
  | case2 lo hi h mid _ ih => exact ih
  | case3 lo hi h => exact Nat.le_refl lo

/-- The search never leaves the interval on the right. -/
theorem partitionPoint_le (p : Nat → Bool) (lo hi : Nat) (h : lo ≤ hi) :
    partitionPoint p lo hi ≤ hi := by
  fun_induction partitionPoint p lo hi with
  | case1 lo hi hlt mid _ ih => exact ih (by omega)
  | case2 lo hi hlt mid _ ih => exact Nat.le_trans (ih (by omega)) (by omega)
  | case3 lo hi hlt => exact h

/-- A test that holds exactly below `k` is searched down to `k`.

**Proof sketch.** Whichever half is kept, `k` stays between its ends; an interval of one point
leaves no other choice. -/
theorem partitionPoint_eq (p : Nat → Bool) (lo hi k : Nat) (hlo : lo ≤ k) (hhi : k ≤ hi)
    (hp : ∀ i, lo ≤ i → i < hi → (p i = true ↔ i < k)) : partitionPoint p lo hi = k := by
  fun_induction partitionPoint p lo hi with
  | case1 lo hi hlt mid hmid ih =>
    have : mid < k := (hp mid (by omega) (by omega)).1 hmid
    exact ih (by omega) hhi fun i h₁ h₂ => hp i (by omega) h₂
  | case2 lo hi hlt mid hmid ih =>
    have : ¬ mid < k := fun h => hmid ((hp mid (by omega) (by omega)).2 h)
    exact ih hlo (by omega) fun i h₁ h₂ => hp i h₁ (by omega)
  | case3 lo hi hlt => omega

end LexicalFront
