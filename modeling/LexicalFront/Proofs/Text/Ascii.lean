import LexicalFront.Text.Utf8
import Mathlib.Data.List.TakeWhile
set_option autoImplicit false
set_option relaxedAutoImplicit false

/-!
# ASCII characters in the bytes of a text

An ASCII character is one byte, which occurs in no longer character. So a test that only ASCII
characters pass can be made on the bytes of a text as well as on its characters, and a text of ASCII
characters is found in the bytes of another one only where it is in its characters.

## Main definitions

* `LexicalFront.IsAscii` — the characters of one byte.
* `LexicalFront.AsciiOnly` — tests that no other character passes.

## Main results

* `LexicalFront.takeWhile_utf8Bytes` — how many bytes pass a test, and how many characters.
* `LexicalFront.findIdx?_utf8Bytes` — the first byte that passes a test.
* `LexicalFront.utf8Bytes_isPrefix_iff` — ASCII text at the start of the bytes.
-/

namespace LexicalFront

/-- The character is a single byte. -/
def IsAscii (x : Char) : Prop := x.toNat < 0x80

instance (x : Char) : Decidable (IsAscii x) := Nat.decLt _ _

/-! ## Bytes of one character -/

/-- An ASCII character is one byte, its number. -/
lemma utf8EncodeChar_of_isAscii {x : Char} (h : IsAscii x) :
    String.utf8EncodeChar x = [UInt8.ofNat x.toNat] :=
  if_pos (Nat.le_of_lt_succ h)

/-- Its size is one. -/
lemma utf8Size_of_isAscii {x : Char} (h : IsAscii x) : x.utf8Size = 1 := by
  rw [← String.length_utf8EncodeChar, utf8EncodeChar_of_isAscii h, List.length_singleton]

/-- All bytes of any other character are large. -/
lemma le_of_mem_utf8EncodeChar {x : Char} (h : ¬IsAscii x) {b : UInt8}
    (hb : b ∈ String.utf8EncodeChar x) : 0x80 ≤ b := by
  have hx : ¬x.val.toNat ≤ 127 := fun hle => h (Nat.lt_succ_of_le hle)
  simp only [String.utf8EncodeChar, hx, if_false] at hb
  have hlarge (n m : Nat) (hm : 128 ≤ m) (hn : n + m < 256) : 0x80 ≤ UInt8.ofNat (n + m) := by
    rw [UInt8.le_iff_toNat_le, UInt8.toNat_ofNat', Nat.mod_eq_of_lt hn]
    exact hm.trans (Nat.le_add_left m n)
  split_ifs at hb <;> simp only [List.mem_cons, List.not_mem_nil, or_false] at hb <;>
    rcases hb with rfl | rfl | rfl | rfl <;> exact hlarge _ _ (by omega) (by omega)

/-! ## Bytes as characters -/

/-- The number of a byte is that of the character it is read as. -/
lemma toNat_ofUInt8 (b : UInt8) : (Char.ofUInt8 b).toNat = b.toNat := rfl

/-- An ASCII character is read from its byte. -/
lemma ofUInt8_of_isAscii {x : Char} (h : IsAscii x) :
    Char.ofUInt8 (UInt8.ofNat x.toNat) = x := by
  have hx : x.toNat < 256 := Nat.lt_trans h (by decide)
  refine Char.ext (UInt32.toNat_inj.1 ?_)
  show (UInt8.ofNat x.toNat).toNat = x.toNat
  rw [UInt8.toNat_ofNat', Nat.mod_eq_of_lt hx]

/-- A large byte is read as no ASCII character. -/
lemma not_isAscii_ofUInt8 {b : UInt8} (h : 0x80 ≤ b) : ¬IsAscii (Char.ofUInt8 b) :=
  Nat.not_lt_of_le (UInt8.le_iff_toNat_le.1 h)

/-- Comparing a byte with that of an ASCII character is comparing the characters. -/
lemma beq_ofNat_toNat (b : UInt8) {x : Char} (h : IsAscii x) :
    (b == UInt8.ofNat x.toNat) = (Char.ofUInt8 b == x) := by
  rw [Bool.eq_iff_iff, beq_iff_eq, beq_iff_eq]
  constructor
  · rintro rfl
    exact ofUInt8_of_isAscii h
  · rintro rfl
    rw [toNat_ofUInt8, UInt8.ofNat_toNat]

/-! ## Tests on bytes -/

/-- No character outside of ASCII passes the test. -/
def AsciiOnly (p : Char → Bool) : Prop := ∀ x, p x = true → IsAscii x

section Test

variable {p : Char → Bool} (hp : AsciiOnly p)

include hp

/-- Large bytes do not pass. -/
lemma AsciiOnly.ofUInt8_eq_false {b : UInt8} (hb : 0x80 ≤ b) : p (Char.ofUInt8 b) = false := by
  rw [Bool.eq_false_iff]
  exact fun h => not_isAscii_ofUInt8 hb (hp _ h)

/-- Characters outside of ASCII do not pass. -/
lemma AsciiOnly.eq_false {x : Char} (hx : ¬IsAscii x) : p x = false := by
  rw [Bool.eq_false_iff]
  exact fun h => hx (hp _ h)

/-- As many bytes of a text pass as the characters that pass have.

**Proof sketch.** Induction on the text. A character that passes is ASCII and has one byte, which
passes. Of a character that does not pass, the first byte does not either: it is the character, or
it is not ASCII. -/
lemma takeWhile_utf8Bytes (cs : List Char) :
    ((utf8Bytes cs).takeWhile fun b => p (Char.ofUInt8 b)).length =
      utf8Length (cs.takeWhile p) := by
  induction cs with
  | nil => rfl
  | cons x cs ih =>
    rw [utf8Bytes_cons]
    by_cases hx : p x = true
    · have ha := hp x hx
      have hbyte : p (Char.ofUInt8 (UInt8.ofNat x.toNat)) = true := by
        rw [ofUInt8_of_isAscii ha, hx]
      rw [utf8EncodeChar_of_isAscii ha, List.singleton_append, List.takeWhile_cons, if_pos hbyte,
        List.takeWhile_cons_of_pos hx, List.length_cons, ih, utf8Length_cons,
        utf8Size_of_isAscii ha, Nat.add_comm]
    · obtain ⟨b, bytes, hb⟩ := List.exists_cons_of_ne_nil (String.utf8EncodeChar_ne_nil (c := x))
      have hbyte : ¬p (Char.ofUInt8 b) = true := by
        by_cases ha : IsAscii x
        · rw [utf8EncodeChar_of_isAscii ha] at hb
          obtain ⟨rfl, -⟩ := List.cons.inj hb
          rw [ofUInt8_of_isAscii ha]
          exact hx
        · rw [hp.ofUInt8_eq_false (le_of_mem_utf8EncodeChar ha (hb ▸ List.mem_cons_self))]
          exact Bool.false_ne_true
      rw [hb, List.cons_append, List.takeWhile_cons, if_neg hbyte, List.takeWhile_cons_of_neg hx]
      rfl

/-- The first byte that passes is behind the characters that do not.

**Proof sketch.** Induction on the text. The one byte of a character that passes is found at once.
No byte of a character that does not pass is found, so that the search goes on behind all of them.
-/
lemma findIdx?_utf8Bytes (cs : List Char) :
    ((utf8Bytes cs).findIdx? fun b => p (Char.ofUInt8 b)) =
      if cs.any p then some (utf8Length (cs.takeWhile (!p ·))) else none := by
  induction cs with
  | nil => rfl
  | cons x cs ih =>
    rw [utf8Bytes_cons, List.findIdx?_append, ih]
    by_cases hx : p x = true
    · have hbyte : p (Char.ofUInt8 (UInt8.ofNat x.toNat)) = true := by
        rw [ofUInt8_of_isAscii (hp x hx), hx]
      rw [utf8EncodeChar_of_isAscii (hp x hx)]
      simp [hx, hbyte]
    · have hnone : (String.utf8EncodeChar x).findIdx? (fun b => p (Char.ofUInt8 b)) = none := by
        rw [List.findIdx?_eq_none_iff]
        intro b hb
        by_cases ha : IsAscii x
        · rw [utf8EncodeChar_of_isAscii ha, List.mem_singleton] at hb
          rw [hb, ofUInt8_of_isAscii ha, Bool.eq_false_iff]
          exact hx
        · exact hp.ofUInt8_eq_false (le_of_mem_utf8EncodeChar ha hb)
      rw [hnone, Option.none_or, String.length_utf8EncodeChar, List.any_cons,
        List.takeWhile_cons_of_pos (by rw [Bool.eq_false_iff.2 hx]; rfl), utf8Length_cons,
        Bool.eq_false_iff.2 hx, Bool.false_or]
      split_ifs
      · rw [Option.map_some, Nat.add_comm]
      · rfl

/-- A byte of a text passes if a character does. -/
lemma any_utf8Bytes (cs : List Char) :
    ((utf8Bytes cs).any fun b => p (Char.ofUInt8 b)) = cs.any p := by
  rw [← List.findIdx?_isSome, findIdx?_utf8Bytes hp]
  cases cs.any p <;> rfl

end Test

/-! ## ASCII text -/

/-- A text of ASCII characters has as many bytes as characters. -/
lemma utf8Length_of_isAscii {cs : List Char} (h : ∀ x ∈ cs, IsAscii x) :
    utf8Length cs = cs.length := by
  induction cs with
  | nil => rfl
  | cons x cs ih =>
    rw [List.forall_mem_cons] at h
    rw [utf8Length_cons, utf8Size_of_isAscii h.1, ih h.2, List.length_cons, Nat.add_comm]

/-- The bytes of ASCII text are found at the start of those of a text only if the characters are.

**Proof sketch.** Induction on the ASCII text, whose next byte is its next character. If the other
text goes on with an ASCII character, the two are compared as bytes; if it goes on with another one,
the first byte of that one is not ASCII. -/
lemma utf8Bytes_isPrefix_iff {as : List Char} (h : ∀ x ∈ as, IsAscii x) (bs : List Char) :
    utf8Bytes as <+: utf8Bytes bs ↔ as <+: bs := by
  refine ⟨fun hpre => ?_, fun ⟨cs, hcs⟩ => ⟨utf8Bytes cs, by rw [← hcs, utf8Bytes_append]⟩⟩
  induction as generalizing bs with
  | nil => exact List.nil_prefix
  | cons a as ih =>
    rw [List.forall_mem_cons] at h
    rw [utf8Bytes_cons, utf8EncodeChar_of_isAscii h.1, List.singleton_append] at hpre
    cases bs with
    | nil => exact absurd hpre (by simp)
    | cons b bs =>
      by_cases hb : IsAscii b
      · rw [utf8Bytes_cons, utf8EncodeChar_of_isAscii hb, List.singleton_append,
          List.cons_prefix_cons] at hpre
        have hab : a = b := by
          rw [← ofUInt8_of_isAscii h.1, hpre.1, ofUInt8_of_isAscii hb]
        rw [hab, List.cons_prefix_cons]
        exact ⟨rfl, ih h.2 bs hpre.2⟩
      · obtain ⟨byte, bytes, hbytes⟩ :=
          List.exists_cons_of_ne_nil (String.utf8EncodeChar_ne_nil (c := b))
        rw [utf8Bytes_cons, hbytes, List.cons_append, List.cons_prefix_cons] at hpre
        have hlarge := le_of_mem_utf8EncodeChar hb (hbytes ▸ List.mem_cons_self)
        have hascii : IsAscii (Char.ofUInt8 byte) := by
          rw [← hpre.1, ofUInt8_of_isAscii h.1]
          exact h.1
        exact absurd hascii (not_isAscii_ofUInt8 hlarge)

end LexicalFront
