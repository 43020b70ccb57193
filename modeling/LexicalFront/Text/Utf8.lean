set_option autoImplicit false
set_option relaxedAutoImplicit false

/-!
# Byte offsets in a text

Positions in a text are counted in bytes of its UTF-8 form. A text is handled as its list of
characters; the functions here measure such a list in bytes and cut it at byte offsets, which is
possible only between characters.

## Main definitions

* `LexicalFront.utf8Length`, `LexicalFront.utf8Bytes` — the size in bytes, and the bytes.
* `LexicalFront.dropBytes?`, `LexicalFront.takeBytes?` — cut at a byte offset, if it is a boundary.
* `LexicalFront.sliceBytes?` — the text between two byte offsets.

## Main results

* `LexicalFront.utf8Length_append`, `LexicalFront.length_utf8Bytes` — the measure.
* `LexicalFront.dropBytes?_eq_some_iff`, `LexicalFront.takeBytes?_eq_some_iff` — a cut succeeds
  exactly at the byte lengths of the initial segments.
-/

namespace LexicalFront

/-! ## Size and bytes -/

/-- The number of bytes of the UTF-8 form. -/
def utf8Length : List Char → Nat
  | [] => 0
  | c :: cs => c.utf8Size + utf8Length cs

@[simp] theorem utf8Length_nil : utf8Length [] = 0 := rfl

@[simp] theorem utf8Length_cons (c : Char) (cs : List Char) :
    utf8Length (c :: cs) = c.utf8Size + utf8Length cs := rfl

/-- The size of a concatenation is the sum of the sizes. -/
@[simp] theorem utf8Length_append (as bs : List Char) :
    utf8Length (as ++ bs) = utf8Length as + utf8Length bs := by
  induction as with
  | nil => simp
  | cons c cs ih => simp [ih, Nat.add_assoc]

/-- Only the empty text has no bytes. -/
@[simp] theorem utf8Length_eq_zero {cs : List Char} : utf8Length cs = 0 ↔ cs = [] := by
  cases cs with
  | nil => simp
  | cons c cs =>
    have := c.utf8Size_pos
    simp only [utf8Length_cons, reduceCtorEq, iff_false]
    omega

/-- The size of a string is that of its characters. -/
theorem utf8Length_toList (s : String) : utf8Length s.toList = s.utf8ByteSize := by
  have h (cs : List Char) : (String.ofList cs).utf8ByteSize = utf8Length cs := by
    induction cs with
    | nil => simp
    | cons c cs ih =>
      have hcons : String.ofList (c :: cs) = String.singleton c ++ String.ofList cs := by
        rw [← String.toList_inj]; simp
      rw [hcons, String.utf8ByteSize_append, String.utf8ByteSize_singleton, ih, utf8Length_cons]
  simpa using (h s.toList).symm

/-- The bytes of the UTF-8 form. -/
def utf8Bytes (cs : List Char) : List UInt8 :=
  cs.flatMap String.utf8EncodeChar

@[simp] theorem utf8Bytes_nil : utf8Bytes [] = [] := rfl

@[simp] theorem utf8Bytes_cons (c : Char) (cs : List Char) :
    utf8Bytes (c :: cs) = String.utf8EncodeChar c ++ utf8Bytes cs := rfl

@[simp] theorem utf8Bytes_append (as bs : List Char) :
    utf8Bytes (as ++ bs) = utf8Bytes as ++ utf8Bytes bs :=
  List.flatMap_append

/-- There are as many bytes as the size says. -/
@[simp] theorem length_utf8Bytes (cs : List Char) : (utf8Bytes cs).length = utf8Length cs := by
  induction cs with
  | nil => rfl
  | cons c cs ih => simp [ih]

/-! ## Cutting at byte offsets -/

/-- The text from byte offset `n` on, if that is a boundary between characters. -/
def dropBytes? : Nat → List Char → Option (List Char)
  | 0, cs => some cs
  | _ + 1, [] => none
  | n + 1, c :: cs => if c.utf8Size ≤ n + 1 then dropBytes? (n + 1 - c.utf8Size) cs else none

/-- The text up to byte offset `n`, if that is a boundary between characters. -/
def takeBytes? : Nat → List Char → Option (List Char)
  | 0, _ => some []
  | _ + 1, [] => none
  | n + 1, c :: cs =>
    if c.utf8Size ≤ n + 1 then (takeBytes? (n + 1 - c.utf8Size) cs).map (c :: ·) else none

/-- The text between two byte offsets: absent if they are out of range, out of order, or not
boundaries between characters. -/
def sliceBytes? (s : String) (start stop : Nat) : Option String :=
  if start ≤ stop then
    (dropBytes? start s.toList).bind fun cs => (takeBytes? (stop - start) cs).map String.ofList
  else none

/-- Dropping succeeds exactly at the byte length of an initial segment, and leaves the rest. -/
theorem dropBytes?_eq_some_iff {n : Nat} {cs rest : List Char} :
    dropBytes? n cs = some rest ↔ ∃ front, cs = front ++ rest ∧ utf8Length front = n := by
  induction cs generalizing n with
  | nil =>
    cases n with
    | zero => simp [dropBytes?, eq_comm]
    | succ n => simp [dropBytes?]
  | cons c cs ih =>
    cases n with
    | zero => simp [dropBytes?, eq_comm]
    | succ n =>
      have hc := c.utf8Size_pos
      rw [dropBytes?]
      constructor
      · intro h
        split at h
        · next hle =>
          obtain ⟨front, rfl, hf⟩ := ih.1 h
          exact ⟨c :: front, rfl, by simp; omega⟩
        · simp at h
      · rintro ⟨front, hcs, hf⟩
        cases front with
        | nil => simp at hf
        | cons d front =>
          simp only [List.cons_append, List.cons.injEq] at hcs
          obtain ⟨rfl, rfl⟩ := hcs
          simp only [utf8Length_cons] at hf
          rw [if_pos (by omega)]
          exact ih.2 ⟨front, rfl, by omega⟩

/-- Taking succeeds exactly at the byte length of an initial segment, which it returns. -/
theorem takeBytes?_eq_some_iff {n : Nat} {cs front : List Char} :
    takeBytes? n cs = some front ↔ (∃ rest, cs = front ++ rest) ∧ utf8Length front = n := by
  induction cs generalizing n front with
  | nil =>
    cases n with
    | zero => cases front <;> simp [takeBytes?]
    | succ n => cases front <;> simp [takeBytes?]
  | cons c cs ih =>
    cases n with
    | zero => cases front <;> simp [takeBytes?, eq_comm, Nat.ne_of_gt (Char.utf8Size_pos _)]
    | succ n =>
      have hc := c.utf8Size_pos
      rw [takeBytes?]
      cases front with
      | nil => split <;> simp
      | cons d front =>
        split
        · next hle =>
          simp only [Option.map_eq_some_iff, List.cons.injEq, List.cons_append, utf8Length_cons]
          constructor
          · rintro ⟨f, hf, rfl, rfl⟩
            obtain ⟨⟨rest, rfl⟩, hl⟩ := ih.1 hf
            exact ⟨⟨rest, rfl, rfl⟩, by omega⟩
          · rintro ⟨⟨rest, rfl, rfl⟩, hl⟩
            exact ⟨front, ih.2 ⟨⟨rest, rfl⟩, by omega⟩, rfl, rfl⟩
        · next hle =>
          simp only [reduceCtorEq, List.cons_append, List.cons.injEq, utf8Length_cons, false_iff]
          rintro ⟨⟨rest, rfl, -⟩, hl⟩
          omega

/-- The slice that starts after `front` and is as long as `middle` is `middle`. -/
theorem sliceBytes?_append (front middle back : List Char) :
    sliceBytes? (String.ofList (front ++ middle ++ back)) (utf8Length front)
      (utf8Length front + utf8Length middle) = some (String.ofList middle) := by
  have h₁ : dropBytes? (utf8Length front) (front ++ middle ++ back) = some (middle ++ back) :=
    dropBytes?_eq_some_iff.2 ⟨front, by simp, rfl⟩
  have h₂ : takeBytes? (utf8Length middle) (middle ++ back) = some middle :=
    takeBytes?_eq_some_iff.2 ⟨⟨back, rfl⟩, rfl⟩
  rw [sliceBytes?, if_pos (Nat.le_add_right _ _), String.toList_ofList, h₁, Option.bind_some,
    Nat.add_sub_cancel_left, h₂, Option.map_some]

end LexicalFront
