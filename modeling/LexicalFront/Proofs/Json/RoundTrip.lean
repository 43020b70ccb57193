import LexicalFront.Json.Parser
import LexicalFront.Json.Printer
import Mathlib.Data.List.Basic
set_option autoImplicit false
set_option relaxedAutoImplicit false

/-!
# Reading what was written

A tree without numbers is read back from what is written of it, in every layout. Strings come back
character by character: each is written as one piece that stands for it, whatever comes next.

## Main definitions

* `Json.Plain` — trees without numbers, all of whose strings have values.
* `Json.Reads` — a tree is read back wherever it stands in a text.

## Main results

* `Json.parseString?_quote` — strings are read back.
* `Json.Plain.reads`, `Json.parse?_write` — trees are read back.
-/

namespace LexicalFront

namespace Json

/-! ## Strings -/

/-- The digit for a number below sixteen has that number for its value. -/
lemma hexValue?_digitChar : ∀ n < 16, hexValue? (Nat.digitChar n) = some n := by decide

/-- A control by number. -/
lemma hexUnit?_control {n : Nat} (hn : n < 0x20) :
    hexUnit? '0' '0' (Nat.digitChar (n / 16)) (Nat.digitChar (n % 16)) = some n := by
  have hzero : hexValue? '0' = some 0 := rfl
  simp only [hexUnit?, hzero, hexValue?_digitChar (n / 16) (by omega),
    hexValue?_digitChar (n % 16) (by omega), Option.bind_eq_bind, Option.bind_some]
  exact congrArg some (by omega)

/-- A character is written behind a backslash as a letter that stands for it, by number if it is a
control without such a letter, and as it is if it has no meaning in a string. -/
lemma escape_cases (c : Char) :
    (∃ e, shortEscape? e = some c ∧ escape c = ['\\', e]) ∨
    (c.toNat < 0x20 ∧ escape c =
      ['\\', 'u', '0', '0', Nat.digitChar (c.toNat / 16), Nat.digitChar (c.toNat % 16)]) ∨
    (c ≠ '"' ∧ c ≠ '\\' ∧ ¬ c.toNat < 0x20 ∧ escape c = [c]) := by
  rw [escape]
  split_ifs with hquote hbackslash hb hf hn hr ht hcontrol
  · exact .inl ⟨'"', by rw [hquote]; rfl, rfl⟩
  · exact .inl ⟨'\\', by rw [hbackslash]; rfl, rfl⟩
  · exact .inl ⟨'b', by rw [hb]; rfl, rfl⟩
  · exact .inl ⟨'f', by rw [hf]; rfl, rfl⟩
  · exact .inl ⟨'n', by rw [hn]; rfl, rfl⟩
  · exact .inl ⟨'r', by rw [hr]; rfl, rfl⟩
  · exact .inl ⟨'t', by rw [ht]; rfl, rfl⟩
  · exact .inr (.inl ⟨hcontrol, rfl⟩)
  · exact .inr (.inr ⟨hquote, hbackslash, hcontrol, rfl⟩)

/-- A character behind a backslash is one piece. -/
lemma stringPieces?_short {e c : Char} (h : shortEscape? e = some c) (cs : List Char) :
    stringPieces? ('\\' :: e :: cs) =
      (stringPieces? cs).map fun (pieces, rest) => (.char c :: pieces, rest) := by
  have hne : e ≠ 'u' := by
    rintro rfl
    cases h
  rw [stringPieces?, h]
  · cases stringPieces? cs with
    | none => rfl
    | some read => rfl
  · intro a b c d cs' heq _
    exact hne heq

/-- A control by number is one piece. -/
lemma stringPieces?_control {n : Nat} (hn : n < 0x20) (cs : List Char) :
    stringPieces? ('\\' :: 'u' :: '0' :: '0' :: Nat.digitChar (n / 16) ::
      Nat.digitChar (n % 16) :: cs) =
        (stringPieces? cs).map fun (pieces, rest) => (.unit n :: pieces, rest) := by
  rw [stringPieces?, hexUnit?_control hn]
  cases stringPieces? cs with
  | none => rfl
  | some read => rfl

/-- A character without a meaning in strings is one piece. -/
lemma stringPieces?_plain {c : Char} (hquote : c ≠ '"') (hbackslash : c ≠ '\\')
    (hcontrol : ¬ c.toNat < 0x20) (cs : List Char) :
    stringPieces? (c :: cs) =
      (stringPieces? cs).map fun (pieces, rest) => (.char c :: pieces, rest) := by
  rw [stringPieces?, if_neg (not_or.2 ⟨hcontrol, hbackslash⟩)]
  · cases stringPieces? cs with
    | none => rfl
    | some read => rfl
  · exact hquote
  · exact fun _ _ _ _ _ h _ => hbackslash h
  · exact fun _ _ h _ => hbackslash h

/-- A control by number stands for itself. -/
lemma decodePieces?_control {c : Char} (hc : c.toNat < 0x20) (ps : List StringPiece) :
    decodePieces? (.unit c.toNat :: ps) = (decodePieces? ps).map (c :: ·) := by
  have hhigh : isHighSurrogate c.toNat = false := by simp [isHighSurrogate]; omega
  have hlow : isLowSurrogate c.toNat = false := by simp [isLowSurrogate]; omega
  rw [decodePieces?.eq_def]
  simp only [hhigh, hlow, Char.ofNat_toNat]
  rfl

/-- A written character is read as one piece, which stands for it. -/
lemma exists_piece_escape (c : Char) : ∃ p : StringPiece,
    (∀ cs, stringPieces? (escape c ++ cs) =
      (stringPieces? cs).map fun (pieces, rest) => (p :: pieces, rest)) ∧
    ∀ ps, decodePieces? (p :: ps) = (decodePieces? ps).map (c :: ·) := by
  rcases escape_cases c with ⟨e, he, h⟩ | ⟨hcontrol, h⟩ | ⟨hquote, hbackslash, hcontrol, h⟩
  · rw [h]
    exact ⟨.char c, stringPieces?_short he, fun _ => rfl⟩
  · rw [h]
    exact ⟨.unit c.toNat, stringPieces?_control hcontrol, decodePieces?_control hcontrol⟩
  · rw [h]
    exact ⟨.char c, stringPieces?_plain hquote hbackslash hcontrol, fun _ => rfl⟩

/-- What is written of a string is read as its characters. -/
lemma exists_pieces_flatMap_escape (cs rest : List Char) : ∃ ps,
    stringPieces? (cs.flatMap escape ++ '"' :: rest) = some (ps, rest) ∧
      decodePieces? ps = some cs := by
  induction cs with
  | nil => exact ⟨[], rfl, rfl⟩
  | cons c cs ih =>
    obtain ⟨ps, hpieces, hdecode⟩ := ih
    obtain ⟨p, hread, hstands⟩ := exists_piece_escape c
    refine ⟨p :: ps, ?_, ?_⟩
    · rw [List.flatMap_cons, List.append_assoc, hread, hpieces]
      rfl
    · rw [hstands, hdecode]
      rfl

/-- A string is read back. -/
theorem parseString?_quote (s : String) (rest : List Char) :
    parseString? (s.toList.flatMap escape ++ '"' :: rest) = some (some s, rest) := by
  obtain ⟨ps, hpieces, hdecode⟩ := exists_pieces_flatMap_escape s.toList rest
  rw [parseString?, hpieces]
  simp [hdecode]

/-! ## Blanks -/

/-- Blanks are skipped. -/
lemma skipBlanks_append {gap : List Char} (hgap : ∀ c ∈ gap, isBlankChar c = true)
    (cs : List Char) : skipBlanks (gap ++ cs) = skipBlanks cs :=
  List.dropWhile_append_of_pos hgap

/-- Nothing is skipped in front of anything else. -/
lemma skipBlanks_cons {c : Char} (hc : isBlankChar c = false) (cs : List Char) :
    skipBlanks (c :: cs) = c :: cs :=
  List.dropWhile_cons_of_neg (Bool.eq_false_iff.1 hc)

/-- Blanks are skipped up to anything else. -/
lemma skipBlanks_append_cons {gap : List Char} (hgap : ∀ c ∈ gap, isBlankChar c = true) {c : Char}
    (hc : isBlankChar c = false) (cs : List Char) : skipBlanks (gap ++ c :: cs) = c :: cs := by
  rw [skipBlanks_append hgap, skipBlanks_cons hc]

/-- Blanks are skipped up to a string. -/
lemma skipBlanks_quote {gap : List Char} (hgap : ∀ c ∈ gap, isBlankChar c = true) (s : String)
    (cs : List Char) : skipBlanks (gap ++ (quote s ++ cs)) =
      '"' :: (s.toList.flatMap escape ++ '"' :: cs) := by
  rw [quote, List.cons_append, skipBlanks_append_cons hgap rfl, List.append_assoc]
  rfl

/-! ## Trees -/

/-- Trees without numbers, all of whose strings have values. -/
inductive Plain : Json → Prop where
  | null : Plain null
  | bool (b : Bool) : Plain (bool b)
  | string (s : String) : Plain (ofString s)
  | array {items : List Json} (h : ∀ j ∈ items, Plain j) : Plain (arr items)
  | object {members : List (String × Json)} (h : ∀ m ∈ members, Plain m.2) :
    Plain (object members)

/-- A written tree begins with a character that is neither a blank nor the end of an array. -/
lemma Plain.exists_head {j : Json} (h : j.Plain) (l : Layout) (level : Nat) :
    ∃ c cs, j.chars l level = c :: cs ∧ isBlankChar c = false ∧ c ≠ ']' := by
  cases h with
  | null => exact ⟨'n', _, rfl, rfl, by decide⟩
  | bool b =>
    cases b with
    | true => exact ⟨'t', _, rfl, rfl, by decide⟩
    | false => exact ⟨'f', _, rfl, rfl, by decide⟩
  | string s => exact ⟨'"', _, rfl, rfl, by decide⟩
  | @array items h =>
    cases items with
    | nil => exact ⟨'[', _, rfl, rfl, by decide⟩
    | cons j js => exact ⟨'[', _, rfl, rfl, by decide⟩
  | @object members h =>
    cases members with
    | nil => exact ⟨'\x7b', _, rfl, rfl, by decide⟩
    | cons m ms => exact ⟨'\x7b', _, rfl, rfl, by decide⟩

/-- Blanks in front of a value do not matter. -/
lemma parseValue?_append {gap : List Char} (hgap : ∀ c ∈ gap, isBlankChar c = true) (fuel : Nat)
    (cs : List Char) : parseValue? fuel (gap ++ cs) = parseValue? fuel cs := by
  cases fuel with
  | zero => rw [parseValue?, parseValue?]
  | succ fuel => rw [parseValue?, parseValue?, skipBlanks_append hgap]

/-- A tree is read back wherever it stands in a text. -/
def Reads (l : Layout) (j : Json) : Prop :=
  ∀ (level fuel : Nat) (rest : List Char), 2 * (j.chars l level).length ≤ fuel →
    parseValue? (fuel + 1) (j.chars l level ++ rest) = some (j, rest)

variable {l : Layout} {j : Json}

/-- The first of some items is read back, and then the others are read. -/
lemma parseItems?_cons (hj : Reads l j) (level fuel : Nat) (rest : List Char)
    (hfuel : 2 * (j.chars l (level + 1)).length ≤ fuel) :
    parseItems? (fuel + 2) (l.gap (level + 1) ++ (j.chars l (level + 1) ++ rest)) =
      match skipBlanks rest with
      | ',' :: rest => (parseItems? (fuel + 1) rest).map fun (js, rest) => (j :: js, rest)
      | ']' :: rest => some ([j], rest)
      | _ => none := by
  rw [parseItems?, parseValue?_append (l.gap_blank _), hj (level + 1) fuel rest hfuel]
  simp only [Option.bind_eq_bind, Option.bind_some]
  generalize skipBlanks rest = cs
  split
  · exact (Option.map_eq_bind ..).symm
  · rfl
  · simp_all

/-- The items of an array are read back if each of them is. -/
lemma parseItems?_chars {js : List Json} (hj : Reads l j) (hjs : ∀ j' ∈ js, Reads l j')
    (level fuel : Nat) (rest : List Char)
    (hfuel : 2 * ((j.chars l (level + 1)).length + (charsOfItems l level js).length) ≤ fuel) :
    parseItems? (fuel + 2) (l.gap (level + 1) ++
      (j.chars l (level + 1) ++ (charsOfItems l level js ++ rest))) = some (j :: js, rest) := by
  rw [parseItems?_cons hj level fuel _ (by omega)]
  induction js generalizing j fuel with
  | nil =>
    simp [charsOfItems, skipBlanks_append_cons (l.gap_blank level), isBlankChar]
  | cons j' js ih =>
    obtain ⟨hj', hjs⟩ := List.forall_mem_cons.1 hjs
    simp only [charsOfItems, List.length_append, List.length_cons] at hfuel
    obtain ⟨fuel, rfl⟩ : ∃ n, fuel = n + 1 := ⟨fuel - 1, by omega⟩
    have hcomma (cs : List Char) : skipBlanks (',' :: cs) = ',' :: cs := skipBlanks_cons rfl cs
    have hrest := ih hj' hjs fuel (by omega)
    rw [← parseItems?_cons hj' level fuel _ (by omega)] at hrest
    simp [charsOfItems, hcomma, hrest]

/-- The first of some members is read back if its value is, and then the others are read. -/
lemma parseMembers?_cons (hj : Reads l j) (name : String) (level fuel : Nat) (rest : List Char)
    (hfuel : 2 * (j.chars l (level + 1)).length ≤ fuel) :
    parseMembers? (fuel + 2) (l.gap (level + 1) ++ (quote name ++ ':' ::
      (l.afterColon ++ (j.chars l (level + 1) ++ rest)))) =
        match skipBlanks rest with
        | ',' :: rest =>
          (parseMembers? (fuel + 1) rest).map fun (ms, rest) => ((some name, j) :: ms, rest)
        | '\x7d' :: rest => some ([(some name, j)], rest)
        | _ => none := by
  have hcolon (cs : List Char) : skipBlanks (':' :: cs) = ':' :: cs := skipBlanks_cons rfl cs
  rw [parseMembers?, skipBlanks_quote (l.gap_blank _)]
  simp only [parseString?_quote, hcolon, parseValue?_append l.afterColon_blank,
    hj (level + 1) fuel rest hfuel, Option.bind_eq_bind, Option.bind_some]
  generalize skipBlanks rest = cs
  split
  · exact (Option.map_eq_bind ..).symm
  · rfl
  · simp_all

/-- The members of an object are read back if the values of all of them are. -/
lemma parseMembers?_chars {m : String × Json} {ms : List (String × Json)} (hm : Reads l m.2)
    (hms : ∀ m' ∈ ms, Reads l m'.2) (level fuel : Nat) (rest : List Char)
    (hfuel : 2 * ((m.2.chars l (level + 1)).length +
      (charsOfMembers l level (ms.map fun m => (some m.1, m.2))).length) ≤ fuel) :
    parseMembers? (fuel + 2) (l.gap (level + 1) ++ (quote m.1 ++ ':' :: (l.afterColon ++
      (m.2.chars l (level + 1) ++
        (charsOfMembers l level (ms.map fun m => (some m.1, m.2)) ++ rest))))) =
      some ((m :: ms).map (fun m => (some m.1, m.2)), rest) := by
  rw [parseMembers?_cons hm m.1 level fuel _ (by omega)]
  induction ms generalizing m fuel with
  | nil =>
    simp [charsOfMembers, skipBlanks_append_cons (l.gap_blank level), isBlankChar]
  | cons m' ms ih =>
    obtain ⟨hm', hms⟩ := List.forall_mem_cons.1 hms
    simp only [charsOfMembers, List.map_cons, List.length_append, List.length_cons] at hfuel
    obtain ⟨fuel, rfl⟩ : ∃ n, fuel = n + 1 := ⟨fuel - 1, by omega⟩
    have hcomma (cs : List Char) : skipBlanks (',' :: cs) = ',' :: cs := skipBlanks_cons rfl cs
    have hrest := ih hm' hms fuel (by omega)
    rw [← parseMembers?_cons hm' m'.1 level fuel _ (by omega)] at hrest
    simp [charsOfMembers, quote?, hcomma, hrest]

/-- A tree without numbers is read back wherever it stands in a text.

**Proof sketch.** Induction on the tree. A string is what `parseString?_quote` reads. In an array
and in an object the items and the members are read one after the other (`parseItems?_chars`,
`parseMembers?_chars`), each by induction; it remains to see that the first one does not look like
the closing bracket. -/
theorem Plain.reads (h : j.Plain) (l : Layout) : Reads l j := by
  induction h with
  | null => exact fun level fuel rest hfuel => rfl
  | bool b =>
    cases b with
    | true => exact fun level fuel rest hfuel => rfl
    | false => exact fun level fuel rest hfuel => rfl
  | string s =>
    intro level fuel rest hfuel
    have hopen (cs : List Char) : skipBlanks ('"' :: cs) = '"' :: cs := skipBlanks_cons rfl cs
    simp [parseValue?, chars, ofString, quote?, quote, hopen, parseString?_quote]
  | @array items h ih =>
    intro level fuel rest hfuel
    have hopen (cs : List Char) : skipBlanks ('[' :: cs) = '[' :: cs := skipBlanks_cons rfl cs
    cases items with
    | nil => rfl
    | cons j js =>
      obtain ⟨hj, hjs⟩ := List.forall_mem_cons.1 ih
      simp only [chars, List.length_append, List.length_cons] at hfuel
      obtain ⟨fuel, rfl⟩ : ∃ n, fuel = n + 2 := ⟨fuel - 2, by omega⟩
      have hitems := parseItems?_chars hj hjs level fuel rest (by omega)
      -- the first item does not look like the end of the array
      obtain ⟨c, cs, hhead, hc, hclose⟩ := (h j List.mem_cons_self).exists_head l (level + 1)
      have hfirst : skipBlanks (l.gap (level + 1) ++ (j.chars l (level + 1) ++
          (charsOfItems l level js ++ rest))) = c :: (cs ++ (charsOfItems l level js ++ rest)) := by
        rw [hhead, List.cons_append, skipBlanks_append_cons (l.gap_blank _) hc]
      simp only [chars, List.cons_append, List.append_assoc, parseValue?, hopen, hfirst, hitems]
      split
      · next heq => exact absurd (List.cons.inj heq).1 hclose
      · rfl
  | @object members h ih =>
    intro level fuel rest hfuel
    have hopen (cs : List Char) : skipBlanks ('\x7b' :: cs) = '\x7b' :: cs :=
      skipBlanks_cons rfl cs
    cases members with
    | nil => rfl
    | cons m ms =>
      obtain ⟨hm, hms⟩ := List.forall_mem_cons.1 ih
      simp only [Json.object, chars, List.map_cons, List.length_append, List.length_cons] at hfuel
      obtain ⟨fuel, rfl⟩ : ∃ n, fuel = n + 2 := ⟨fuel - 2, by omega⟩
      have hmembers := parseMembers?_chars hm hms level fuel rest (by omega)
      simp only [Json.object, chars, quote?, List.map_cons, List.cons_append, List.append_assoc,
        parseValue?, hopen, Option.getD_some, skipBlanks_quote (l.gap_blank _)]
      rw [hmembers]
      rfl

/-- A tree without numbers is read back from what is written of it. -/
theorem parse?_write (h : j.Plain) (l : Layout) : parse? (j.write l) = some j := by
  have hread := h.reads l 0 (2 * (j.chars l 0).length + 1) [] (by omega)
  rw [List.append_nil] at hread
  rw [parse?, write, String.toList_ofList, hread]
  rfl

end Json

end LexicalFront
