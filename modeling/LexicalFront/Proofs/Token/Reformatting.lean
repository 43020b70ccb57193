import LexicalFront.Proofs.Lexeme.Chars
import LexicalFront.Proofs.Token.LineBreak
import LexicalFront.Proofs.Token.Tiling
import LexicalFront.TokenStream
set_option autoImplicit false
set_option relaxedAutoImplicit false

/-!
# One token to a line

The tokens that are not trivia can be written out again, each on a line of its own, and scanning
what was written gives the same tokens back. Each of them was found with some text behind it, and
is found now with a line feed or nothing behind it: that this makes no difference is shown for one
lexeme at a time, and the lines are then put together by
`LexicalFront.lexemes_append_lineFeed`.

## Main definitions

* `LexicalFront.TokenStream.code` — the tokens that are neither trivia nor the end marker.
* `LexicalFront.oneToALine` — their texts, each on a line of its own.

## Main results

* `LexicalFront.lexemes_chars_of_mem` — a lexeme by itself is one lexeme.
* `LexicalFront.pairwise_lexemes` — an open block comment is the last lexeme.
* `LexicalFront.significant_oneToALine` — the tokens of the lines are those of the text.
-/

namespace LexicalFront

/-! ## Lexemes by themselves -/

/-- A lexeme of a text is the only lexeme of its own characters. -/
theorem lexemes_chars_of_mem {cs : List Char} {l : Lexeme} (h : l ∈ lexemes cs) :
    lexemes l.chars = [l] := by
  rcases form_of_mem_lexemes h with hform | ⟨c, rfl, hc⟩
  · obtain ⟨tag, chars⟩ := l
    rcases chars with _ | ⟨c, piece⟩
    · exact absurd rfl hform.ne_nil
    · rw [lexemes_cons, firstExtent_of_form hform, List.take_length, List.drop_length, lexemes_nil]
  · rw [lexemes_cons, hc, List.take_nil, List.drop_nil, lexemes_nil]

/-- An open block comment takes the rest of the text. -/
lemma drop_eq_nil_of_openComment {c : Char} {cs : List Char}
    (h : (firstExtent c cs).tag = .unterminatedBlockComment) :
    cs.drop (firstExtent c cs).more = [] := by
  -- the class says that the text begins with the opening mark, and then the rule tells the rest
  obtain ⟨piece, rest, hcs, hlen, hinvalid | hform⟩ := firstExtent_cut c cs
  · exact absurd (hinvalid.1.symm.trans h) (by decide)
  · rw [h] at hform
    obtain ⟨body, heq, -⟩ := hform
    obtain ⟨rfl, rfl⟩ := List.cons.inj heq
    rw [hcs, firstExtent_slash] at h ⊢
    cases hend : blockCommentEnd? (body ++ rest) with
    | none =>
      refine List.drop_eq_nil_of_le ?_
      simp only [List.cons_append, commentExtent?, hend, Option.getD_some, List.length_cons]
      omega
    | some n =>
      simp only [List.cons_append, commentExtent?, hend, Option.getD_some] at h
      exact absurd h (by decide)

/-- Every lexeme but the last one is no open block comment. -/
theorem pairwise_lexemes (cs : List Char) :
    (lexemes cs).Pairwise fun l _ => l.tag ≠ .unterminatedBlockComment := by
  fun_induction lexemes cs with
  | case1 => exact .nil
  | case2 c cs extent ih =>
    refine List.pairwise_cons.2 ⟨fun m hm htag => ?_, ih⟩
    rw [drop_eq_nil_of_openComment htag, lexemes_nil] at hm
    exact List.not_mem_nil hm

/-- What is neither trivia nor an open block comment stays on its line. -/
lemma getLast?_ne_carriageReturn {cs : List Char} {l : Lexeme} (h : l ∈ lexemes cs)
    (htrivia : l.tag.group ≠ .trivia) (hopen : l.tag ≠ .unterminatedBlockComment) :
    l.chars.getLast? ≠ some '\r' := by
  intro hlast
  have hline := Tag.isOfOneLine_of_group htrivia hopen (tag_ne_endOfInput_of_mem_lexemes h)
  have hbreak := isBreak_eq_false_of_mem_lexemes h hline _ (List.mem_of_getLast? hlast)
  exact absurd hbreak (by decide)

/-! ## Lines of lexemes -/

/-- Lexemes of a text, each put on a line of its own, are found again, with the line feeds between
them. -/
lemma lexemes_lines {ls : List Lexeme} (halone : ∀ l ∈ ls, lexemes l.chars = [l])
    (hlast : ∀ l ∈ ls, l.tag ≠ .unterminatedBlockComment → l.chars.getLast? ≠ some '\r')
    (hopen : ls.Pairwise fun l _ => l.tag ≠ .unterminatedBlockComment) :
    lexemes (['\n'].intercalate (ls.map Lexeme.chars)) = ls.intersperse ⟨.newline, ['\n']⟩ := by
  induction ls with
  | nil => exact lexemes_nil
  | cons l ls ih =>
    rcases ls with _ | ⟨m, ls⟩
    · rw [List.map_singleton, List.intercalate_singleton]
      exact halone l List.mem_cons_self
    · obtain ⟨hl, hopen⟩ := List.pairwise_cons.1 hopen
      have hclosed := hl m List.mem_cons_self
      have hself := halone l List.mem_cons_self
      have hrest := ih (fun k hk => halone k (List.mem_cons_of_mem l hk))
        (fun k hk => hlast k (List.mem_cons_of_mem l hk)) hopen
      rw [List.map_cons] at hrest
      have hopen' : ∀ k ∈ lexemes l.chars, k.tag ≠ .unterminatedBlockComment := by
        rw [hself]
        exact List.forall_mem_singleton.2 hclosed
      rw [List.map_cons, List.map_cons, List.intercalate_cons_cons, List.append_assoc,
        List.singleton_append, lexemes_append_lineFeed (hlast l List.mem_cons_self hclosed) hopen',
        hrest, hself, List.intersperse_cons_cons]
      rfl

/-- Line feeds between other elements are left out again. -/
lemma filter_intersperse {α : Type} {p : α → Bool} {a : α} (ha : p a = false) {l : List α}
    (hl : ∀ x ∈ l, p x = true) : (l.intersperse a).filter p = l := by
  induction l with
  | nil => rfl
  | cons x l ih =>
    rw [List.forall_mem_cons] at hl
    rcases l with _ | ⟨y, l⟩
    · rw [List.intersperse_singleton, List.filter_cons_of_pos hl.1, List.filter_nil]
    · rw [List.intersperse_cons_cons, List.filter_cons_of_pos hl.1,
        List.filter_cons_of_neg (by rw [ha]; exact Bool.false_ne_true), ih hl.2]

/-! ## Tokens without their places -/

/-- What a token is, wherever it is: its kind and its text. -/
def Token.content (t : Token) : Kind × String := (t.kind, t.text)

/-- What the token of a lexeme is. -/
def Lexeme.content (l : Lexeme) : Kind × String :=
  (.ofTag l.tag (String.ofList l.chars), String.ofList l.chars)

/-- The places of lexemes do not matter to what their tokens are. -/
lemma map_content_ofLexemes (start : Nat) (ls : List Lexeme) :
    (Token.ofLexemes start ls).map Token.content =
      ls.map Lexeme.content ++ [(.endOfUnit, "")] := by
  induction ls generalizing start with
  | nil => rfl
  | cons l ls ih =>
    rw [Token.ofLexemes, List.map_cons, ih]
    rfl

/-- The trivia are told by their tags. -/
lemma Kind.isTrivia_ofTag (tag : Tag) (text : String) :
    (Kind.ofTag tag text).isTrivia = (tag.group == .trivia) := by
  cases tag with
  | identifier =>
    rw [Kind.ofTag]
    cases Keyword.ofSpelling? text with
    | none => rfl
    | some k => rfl
  | _ => rfl

/-- Whether a lexeme is not trivia. -/
def Lexeme.isSignificant (l : Lexeme) : Bool := !(l.tag.group == .trivia)

namespace TokenStream

/-- The tokens that are neither trivia nor the end marker. -/
def code (s : TokenStream) : List Token := s.significant.filter (!·.isEnd)

/-- The significant tokens of a text are those of its significant lexemes, and the end marker. -/
lemma map_content_significant (text : String) :
    (lex text).significant.map Token.content =
      ((lexemes text.toList).filter Lexeme.isSignificant).map Lexeme.content ++
        [(.endOfUnit, "")] := by
  have htokens : (fun t : Token => !t.isTrivia) =
      (fun k : Kind × String => !k.1.isTrivia) ∘ Token.content := rfl
  have hlexemes : (fun k : Kind × String => !k.1.isTrivia) ∘ Lexeme.content =
      Lexeme.isSignificant := by
    funext l
    exact congrArg not (Kind.isTrivia_ofTag l.tag _)
  rw [significant, lex, tokenize, htokens, ← List.filter_map, map_content_ofLexemes,
    List.filter_append, List.filter_map, hlexemes]
  rfl

/-- The end marker is the last significant token, and the others are the code. -/
lemma significant_eq_code_append (text : String) :
    (lex text).significant = (lex text).code ++ [.endMarker text.utf8ByteSize] := by
  have hsplit := tokenize_eq_dropLast_append text
  have hmark : [Token.endMarker text.utf8ByteSize].filter (!·.isEnd) = [] := rfl
  have hsignificant : (lex text).significant =
      (tokenize text).dropLast.filter (!·.isTrivia) ++ [.endMarker text.utf8ByteSize] := by
    rw [significant, lex, hsplit, List.filter_append, List.dropLast_concat]
    rfl
  have hcode : ∀ t ∈ (tokenize text).dropLast.filter (!·.isTrivia), (!t.isEnd) = true := by
    intro t ht
    obtain ⟨-, -, -, hend, -⟩ := tiling_of_mem_dropLast (List.mem_of_mem_filter ht)
    rw [hend]
    rfl
  rw [code, hsignificant, List.filter_append, List.filter_eq_self.2 hcode, hmark, List.append_nil]

/-- The code of a text is that of its significant lexemes. -/
lemma map_content_code (text : String) :
    (lex text).code.map Token.content =
      ((lexemes text.toList).filter Lexeme.isSignificant).map Lexeme.content := by
  have h := map_content_significant text
  rw [significant_eq_code_append, List.map_append] at h
  exact List.append_cancel_right h

end TokenStream

/-! ## Writing tokens out -/

/-- The texts of the tokens that are neither trivia nor the end marker, each on a line of its
own. -/
def oneToALine (text : String) : String :=
  "\n".intercalate ((TokenStream.lex text).code.map Token.text)

/-- The lines are those of the significant lexemes. -/
lemma toList_oneToALine (text : String) :
    (oneToALine text).toList = ['\n'].intercalate
      (((lexemes text.toList).filter Lexeme.isSignificant).map Lexeme.chars) := by
  have htexts : (TokenStream.lex text).code.map Token.text =
      ((lexemes text.toList).filter Lexeme.isSignificant).map fun l => String.ofList l.chars := by
    have h := congrArg (List.map Prod.snd) (TokenStream.map_content_code text)
    rw [List.map_map, List.map_map] at h
    exact h
  rw [oneToALine, String.toList_intercalate, htexts, List.map_map]
  congr 1
  refine List.map_congr_left fun l _ => ?_
  exact String.toList_ofList

/-- The lexemes of the lines are the significant lexemes of the text, with line feeds between
them. -/
lemma lexemes_oneToALine (text : String) :
    lexemes (oneToALine text).toList =
      ((lexemes text.toList).filter Lexeme.isSignificant).intersperse ⟨.newline, ['\n']⟩ := by
  rw [toList_oneToALine]
  refine lexemes_lines (fun l hl => ?_) (fun l hl hopen => ?_)
    ((pairwise_lexemes text.toList).filter _)
  · exact lexemes_chars_of_mem (List.mem_of_mem_filter hl)
  · have htrivia : l.tag.group ≠ .trivia := by
      simpa [Lexeme.isSignificant] using List.of_mem_filter hl
    exact getLast?_ne_carriageReturn (List.mem_of_mem_filter hl) htrivia hopen

/-- Scanning the significant tokens of a text, written out each on a line of its own, gives the same
tokens in the same order, malformed ones included, and the end marker. -/
theorem significant_oneToALine (text : String) :
    (TokenStream.lex text).significant =
      (TokenStream.lex text).code ++ [.endMarker text.utf8ByteSize] ∧
    ((TokenStream.lex (oneToALine text)).significant.map fun t => (t.kind, t.text)) =
      ((TokenStream.lex text).code.map fun t => (t.kind, t.text)) ++ [(.endOfUnit, "")] := by
  refine ⟨TokenStream.significant_eq_code_append text, ?_⟩
  have hlines := TokenStream.map_content_significant (oneToALine text)
  rw [lexemes_oneToALine, filter_intersperse rfl fun l hl => List.of_mem_filter hl,
    ← TokenStream.map_content_code] at hlines
  exact hlines

/-- A number before a point, a letter that begins no exponent, and a comment that is left open. -/
example : oneToALine "a+ 1.e/*b" = "a\n+\n1\n.\ne\n/*b" := by decide +kernel

end LexicalFront
