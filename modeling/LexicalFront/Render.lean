import LexicalFront.Workspace.Basic
set_option autoImplicit false
set_option relaxedAutoImplicit false

/-!
# Reports

The texts that are shown to readers: the tokens of a text, and a summary of a module.

## Main definitions

* `LexicalFront.renderTokens` — one line for each token.
* `LexicalFront.Workspace.summary` — one line for each unit of a module.
-/

namespace LexicalFront

/-! ## Tokens -/

/-- The line of a token: what it is, where it is, and its text in quotes. -/
def Token.renderLine (t : Token) : String :=
  "  " ++ t.kind.describe ++ " @ " ++ t.span.render ++ " " ++ quoted t.text ++ "\n"

/-- The line that counts the malformed tokens, if there are any. -/
def renderMalformedCount (n : Nat) : String :=
  if n = 0 then "" else s!"{n} malformed token(s)\n"

/-- The tokens of a stream, one on each line, below a line with a label and their number. -/
def renderTokens (label : String) (s : TokenStream) : String :=
  s!"Tokens for '{label}' ({s.length} tokens):\n" ++
    String.join (s.tokens.map Token.renderLine) ++ renderMalformedCount s.malformed.length

/-! ## Modules -/

/-- The number of tokens that are not trivia, and the number of malformed ones. -/
def TokenStream.counts (s : TokenStream) : Nat × Nat := (s.significant.length, s.malformed.length)

/-- The name of a unit in a summary: its location, or else its place in the module. -/
def CompilationUnit.summaryName (u : CompilationUnit) (index : Nat) : String :=
  match u.location with
  | some p => p.text
  | none => s!"<blank #{index}>"

/-- The line of a unit in a summary. -/
def CompilationUnit.summaryLine (u : CompilationUnit) (index : Nat) : String :=
  match u.tokens? with
  | some s => s!"  {u.summaryName index}: {s.counts.1} tokens, {s.counts.2} malformed\n"
  | none => s!"  {u.summaryName index}: not loaded\n"

/-- The summary of a module: a line for the module, one for each unit, and one with the sums over
the units that are loaded. -/
def Workspace.summary (w : Workspace) (m : ModuleId) : String :=
  let units := w.memberUnits m
  let location := ((w.module? m).bind (·.location)).elim "<memory>" Path.text
  let counts := units.filterMap fun u => u.tokens?.map TokenStream.counts
  let tokens := counts.foldl (fun n count => n + count.1) 0
  let malformed := counts.foldl (fun n count => n + count.2) 0
  s!"Module '{location}' ({units.length} units):\n" ++
    String.join (units.zipIdx.map fun (u, i) => u.summaryLine i) ++
    s!"Total: {tokens} tokens, {malformed} malformed\n"

end LexicalFront
