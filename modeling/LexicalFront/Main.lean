import LexicalFront.CommandLine
import LexicalFront.Files.Scripted
set_option autoImplicit false
set_option relaxedAutoImplicit false

/-!
# The program

The program reads its arguments, records what the operating system answers about the files that the
command needs, and prints what the command line makes of it.

## Main definitions

* `LexicalFront.Recording.readFile`, `LexicalFront.Recording.listDirectory` — one answer of the
  operating system.
* `LexicalFront.Recording.ofCommand` — all answers that a command needs.
-/

namespace LexicalFront

namespace Recording

/-- The number of an error; some calls report it negated. -/
def errorNumber (code : UInt32) : Nat :=
  if code.toNat < 0x80000000 then code.toNat else 0x100000000 - code.toNat

/-- The error with a number and a text, as it was reported. -/
def reported (code : UInt32) (text : String) : FileError :=
  .system (.ofNumber (errorNumber code) text)

/-- The error that the operating system reported. -/
def fileErrorOf : IO.Error → FileError
  | .noFileOrDirectory _ code text => reported code text
  | .inappropriateType _ code text => reported code text
  | .invalidArgument _ code text => reported code text
  | .permissionDenied _ code text => reported code text
  | .resourceExhausted _ code text => reported code text
  | .otherError code text => reported code text
  | _ => .system (.other 5 "Input/output error")

/-- Nothing is recorded. -/
def empty : Script := ⟨"NativeFileSystem", [], []⟩

/-- The record with the text of a file. -/
def readFile (s : Script) (p : Path) : IO Script := do
  let answer ← try
      let bytes ← IO.FS.readBinFile p.text
      pure (match String.fromUTF8? bytes with
        | some text => Except.ok text
        | none => Except.error FileError.notText)
    catch e => pure (Except.error (fileErrorOf e))
  return { s with texts := (p, answer) :: s.texts }

/-- The entry of a listing for a name. Links to directories are left out. -/
def entryOf? (dir : Path) (entry : IO.FS.DirEntry) : IO (Option DirEntry) := do
  let type := (← entry.path.symlinkMetadata).type
  let leadsToDir ← entry.path.isDir
  let p := dir.join (.ofText entry.fileName)
  return if type == .symlink && leadsToDir then none else some ⟨p, type == .dir⟩

/-- The record with the listing of a directory, and the entries. -/
def listDirectory (s : Script) (dir : Path) : IO (Script × List DirEntry) := do
  let answer ← try
      let found ← ((← IO.currentDir) / dir.text).readDir
      let entries ← found.toList.mapM (entryOf? dir)
      pure (Except.ok (entries.filterMap id))
    catch e => pure (Except.error (fileErrorOf e))
  let s := { s with listings := (dir, answer) :: s.listings }
  match answer with
  | .ok entries => return (s, entries)
  | .error _ => return (s, [])

/-- The record with all directories that a walk enters, and the files in them that it takes. -/
partial def walkDirectory (s : Script) (task : DirectoryTask) (config : Config) (dir : Path) :
    IO Script := do
  let (s, entries) ← listDirectory s dir
  entries.foldlM (fun s entry => do
    match config.use entry with
    | .none => return s
    | .enter => walkDirectory s task config entry.path
    | .take => if task == .summarize then readFile s entry.path else return s) s

/-- The record of everything that a command asks for. -/
def ofCommand (workingDirectory : Path) : Command → IO Script
  | .lex file => readFile empty file
  | .directory task dir configFile => do
    let s ← match configFile with
      | some p => readFile empty p
      | none => pure empty
    match loadConfig s.toFileSystem configFile with
    | .ok config => walkDirectory s task config (workingDirectory.join dir)
    | .error _ => return s
  | .help | .version => return empty

end Recording

/-- What a run with the given arguments prints, asking the operating system. -/
def outcomeOfRun (workingDirectory : Path) (args : List String) : IO Outcome := do
  match Command.parse args with
  | .error outcome => return outcome
  | .ok command =>
    let s ← Recording.ofCommand workingDirectory command
    return command.run s.toFileSystem workingDirectory

end LexicalFront

/-- The program: it prints the outcome of its arguments and ends with its exit status. -/
def main (args : List String) : IO UInt32 := do
  let outcome ← LexicalFront.outcomeOfRun ⟨(← IO.currentDir).toString⟩ args
  (← IO.getStdout).putStr outcome.stdout
  (← IO.getStderr).putStr outcome.stderr
  return UInt32.ofNat outcome.code
