import LexicalFront.Render
set_option autoImplicit false
set_option relaxedAutoImplicit false

/-!
# Command line

The commands `lex`, `module` and `manifest`, and the two that need no file. Everything that a run
prints, and its exit status, is computed from its arguments and from what the file system answers.

## Main definitions

* `LexicalFront.Command` — the commands; `Command.parse` reads the arguments.
* `LexicalFront.Command.run` — what a command prints.
* `LexicalFront.loadConfig` — the configuration in a file.
-/

namespace LexicalFront

/-! ## Failures -/

/-- Why a command fails. -/
inductive CommandError where
  | lexical (cause : LexicalError)
  /-- The configuration cannot be read. -/
  | configRead (path : Path) (cause : FileError)
  /-- The configuration is not one. -/
  | configParse (path : Path)
  /-- The manifest holds a location that is no text. -/
  | render
  deriving DecidableEq, Repr

/-- The message for readers. -/
def CommandError.message : CommandError → String
  | lexical e => e.message
  | configRead p cause => "cannot read config `" ++ p.text ++ "`: " ++ cause.message
  | configParse p => "invalid config `" ++ p.text ++ "`"
  | render => "cannot render manifest: path contains invalid UTF-8 characters"

/-- The configuration in a file, or the standard one if no file is given. -/
def loadConfig (fs : FileSystem) : Option Path → Except CommandError Config
  | none => .ok .standard
  | some p =>
    match fs.read p with
    | .error e => .error (.configRead p e)
    | .ok text =>
      match Config.parse? text with
      | some config => .ok config
      | none => .error (.configParse p)

/-! ## Commands -/

/-- What a run prints, and its exit status. -/
structure Outcome where
  /-- The exit status. -/
  code : Nat
  /-- The standard output. -/
  stdout : String
  /-- The error output. -/
  stderr : String
  deriving DecidableEq, Repr

/-- The two commands on a directory. -/
inductive DirectoryTask where
  /-- Load the files of the directory and summarize them. -/
  | summarize
  /-- List the files of the directory. -/
  | record
  deriving DecidableEq, Repr

/-- The word for a command on a directory. -/
def DirectoryTask.word : DirectoryTask → String
  | summarize => "module"
  | record => "manifest"

/-- The commands. -/
inductive Command where
  | help
  | version
  /-- Print the tokens of a file. -/
  | lex (file : Path)
  | directory (task : DirectoryTask) (dir : Path) (config : Option Path)
  deriving DecidableEq, Repr

/-- The lines that explain the commands. -/
def usageLines : List String := [
  "Lift compiler",
  "",
  "Usage: lift <command> [options]",
  "",
  "Commands:",
  "  lex <file>                    Print the tokens of a source file",
  "  module <dir> [--config=FILE]  Load a directory as a module and summarize it",
  "  manifest <dir> [--config=FILE]",
  "                                Print the module manifest as JSON",
  "  help                          Show this message",
  "  version                       Show version information",
  "",
  "Set RUST_LOG (e.g. RUST_LOG=lift_lexical=debug) to enable logging."]

/-- The text that explains the commands. -/
def usage : String := String.join (usageLines.map (· ++ "\n"))

/-- The version. -/
def versionText : String := "Lift 0.1.0-alpha.1\n"

/-- A failing run that prints an error. -/
def Outcome.failure (text : String) : Outcome := ⟨1, "", text⟩

/-- A successful run. -/
def Outcome.success (text : String) : Outcome := ⟨0, text, ""⟩

/-- The option that names a configuration. -/
def configOption : String := "--config="

/-- The value of the option, if an argument is that option. -/
def configValue? (arg : String) : Option Path :=
  if configOption.toList.isPrefixOf arg.toList then
    some ⟨String.ofList (arg.toList.drop configOption.toList.length)⟩
  else none

/-- The arguments of a command on a directory: the directory, and any number of options, of which
the last counts. An argument that is neither is returned as the error. -/
def parseDirectoryArgs : Option Path → Option Path → List String →
    Except String (Option Path × Option Path)
  | dir, config, [] => .ok (dir, config)
  | dir, config, arg :: args =>
    match configValue? arg with
    | some p => parseDirectoryArgs dir (some p) args
    | none =>
      if arg.toList.head? != some '-' && dir.isNone then
        parseDirectoryArgs (some ⟨arg⟩) config args
      else .error arg

/-- A command on a directory, or what a run with unfit arguments prints. -/
def parseDirectoryCommand (task : DirectoryTask) (args : List String) : Except Outcome Command :=
  match parseDirectoryArgs none none args with
  | .error arg => .error (.failure s!"error: unexpected argument '{arg}'\n")
  | .ok (some dir, config) => .ok (.directory task dir config)
  | .ok (none, _) =>
    .error (.failure ("error: missing directory\nUsage: lift " ++ task.word ++
      " <dir> [--config=<file.json>]\n"))

namespace Command

/-- The command that the arguments name, or what a run with unfit arguments prints. Arguments that
a command has no use for do not matter, except behind a directory. -/
def parse : List String → Except Outcome Command
  | [] => .ok help
  | word :: args =>
    if word = "lex" then
      match args with
      | file :: _ => .ok (lex ⟨file⟩)
      | [] => .error (.failure "Usage: lift lex <file.lift>\n")
    else if word = "module" then parseDirectoryCommand .summarize args
    else if word = "manifest" then parseDirectoryCommand .record args
    else if ["help", "--help", "-h"].contains word then .ok help
    else if ["version", "--version", "-v"].contains word then .ok version
    else .error ⟨1, usage, s!"error: unknown command '{word}'\n\n"⟩

/-- The tokens of a file. -/
def lexFile (fs : FileSystem) (file : Path) : Except CommandError String :=
  match fs.read file with
  | .error e => .error (.lexical (.ioFailure file e))
  | .ok text => .ok (renderTokens file.text (.lex text))

/-- A module on a directory, alone in a workspace; a relative directory is looked for in the working
directory. -/
def openDirectory (fs : FileSystem) (workingDirectory dir : Path) (config : Config) :
    Except CommandError (Workspace × ModuleId) :=
  let w := Workspace.empty fs
  match w.openModule .external (workingDirectory.join dir) config with
  | .error e => .error (.lexical e)
  | .ok w' => .ok (w', w.nextModule)

/-- What is printed about a directory. -/
def reportDirectory (fs : FileSystem) (workingDirectory : Path) (task : DirectoryTask) (dir : Path)
    (configFile : Option Path) : Except CommandError String := do
  let config ← loadConfig fs configFile
  let (w, m) ← openDirectory fs workingDirectory dir config
  match task with
  | .record =>
    match (w.manifest m).render with
    | some text => return text ++ "\n"
    | none => .error .render
  | .summarize =>
    match w.loadAll m with
    | (_, .error e) => .error (.lexical e)
    | (w, .ok _) => return w.summary m

/-- The outcome of a command that prints a text or fails. -/
def outcomeOf : Except CommandError String → Outcome
  | .ok text => .success text
  | .error e => .failure ("error: " ++ e.message ++ "\n")

/-- What a command prints. -/
def run (fs : FileSystem) (workingDirectory : Path) : Command → Outcome
  | help => .success usage
  | version => .success versionText
  | lex file => outcomeOf (lexFile fs file)
  | directory task dir config => outcomeOf (reportDirectory fs workingDirectory task dir config)

end Command

/-- What a run with the given arguments prints. -/
def runCommandLine (fs : FileSystem) (workingDirectory : Path) (args : List String) : Outcome :=
  match Command.parse args with
  | .ok command => command.run fs workingDirectory
  | .error outcome => outcome

end LexicalFront
