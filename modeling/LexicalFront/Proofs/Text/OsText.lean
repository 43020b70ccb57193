import LexicalFront.Text.OsText
import Mathlib.Data.List.Basic
set_option autoImplicit false
set_option relaxedAutoImplicit false

/-!
# Bytes of texts

The bytes of a text determine it, so a text that comes back as bytes is the same text. To readers it
is shown as it is, for its bytes fall into characters and nothing is left between them.

## Main results

* `OsText.text?_eq_some_iff` — which bytes are those of a text.
* `OsText.pieces_ofText` — a text falls into its characters.
* `OsText.shown_ofText`, `OsText.inspect_ofText` — the forms for readers.
-/

namespace LexicalFront.OsText

/-! ## The text of bytes -/

/-- The bytes of a text in the two forms of a list and of an array. -/
lemma toByteArray_utf8Bytes (cs : List Char) : (utf8Bytes cs).toByteArray = cs.utf8Encode := rfl

/-- Bytes are those of at most one text. -/
theorem text?_eq_some_iff {t : OsText} {s : String} : t.text? = some s ↔ t = ofText s := by
  have hbytes : t = ofText s ↔ t.bytes.toByteArray = s.toByteArray := by
    rw [← String.utf8Encode_toList, ← toByteArray_utf8Bytes, List.toByteArray_inj]
    exact ⟨congrArg bytes, congrArg mk⟩
  rw [hbytes, text?, String.fromUTF8?]
  split
  · next hvalid =>
    rw [Option.some.injEq, ← String.toByteArray_inj]
    rfl
  · next hinvalid => exact ⟨nofun, fun heq => absurd (heq ▸ s.isValidUTF8) hinvalid⟩

/-- The text of the bytes of a text is that text. -/
@[simp] theorem text?_ofText (s : String) : (ofText s).text? = some s := text?_eq_some_iff.2 rfl

/-- The bytes of a text are those of a text. -/
@[simp] theorem isText_ofText (s : String) : (ofText s).isText = true := by simp [isText]

/-- Different texts have different bytes. -/
theorem ofText_injective : Function.Injective ofText := fun s t h => by
  have htext : (ofText s).text? = some t := by rw [h, text?_ofText]
  rwa [text?_ofText, Option.some.injEq] at htext

/-- What is a text is the bytes of one. -/
theorem isText_iff {t : OsText} : t.isText = true ↔ ∃ s, t = ofText s := by
  simp only [isText, Option.isSome_iff_exists, text?_eq_some_iff]

/-! ## The pieces of a text -/

/-- The bytes of a character are its first piece. -/
lemma firstPiece_of_eq {c : Char} {b : UInt8} {bytes : List UInt8}
    (h : String.utf8EncodeChar c = b :: bytes) (rest : List UInt8) :
    firstPiece b (bytes ++ rest) = .char c := by
  have hfour : (b :: (bytes ++ rest)).take 4 =
      String.utf8EncodeChar c ++ rest.take (4 - c.utf8Size) := by
    rw [← List.cons_append, ← h, List.take_append, String.length_utf8EncodeChar,
      List.take_of_length_le]
    rw [String.length_utf8EncodeChar]
    exact c.utf8Size_le_four
  rw [firstPiece, hfour, List.toByteArray_append, ByteArray.utf8DecodeChar?_utf8EncodeChar_append]

/-- The bytes of a piece are passed over. -/
lemma piecesAfter_length_append (bytes rest : List UInt8) :
    piecesAfter bytes.length (bytes ++ rest) = piecesAfter 0 rest := by
  induction bytes with
  | nil => rfl
  | cons b bytes ih => exact ih

/-- A text falls into its characters. -/
theorem pieces_ofText (s : String) : (ofText s).pieces = s.toList.map Piece.char := by
  show piecesAfter 0 (utf8Bytes s.toList) = s.toList.map Piece.char
  induction s.toList with
  | nil => rfl
  | cons c cs ih =>
    obtain ⟨b, bytes, hbytes⟩ := List.exists_cons_of_ne_nil (String.utf8EncodeChar_ne_nil (c := c))
    have hlength : c.utf8Size - 1 = bytes.length := by
      rw [← String.length_utf8EncodeChar, hbytes, List.length_cons, Nat.add_sub_cancel]
    rw [utf8Bytes_cons, hbytes, List.cons_append, piecesAfter, firstPiece_of_eq hbytes,
      Piece.length, hlength, piecesAfter_length_append, ih, List.map_cons]

/-- A text is shown as it is. -/
theorem shown_ofText (s : String) : (ofText s).shown = s := by
  have hshown : Piece.shown ∘ Piece.char = id := rfl
  rw [shown, pieces_ofText, List.map_map, hshown, List.map_id, String.ofList_toList]

/-- A text is written between quotes as quoted text is. -/
theorem inspect_ofText (s : String) : (ofText s).inspect = quoted s := by
  rw [inspect, pieces_ofText, List.flatMap_map]
  rfl

end LexicalFront.OsText
