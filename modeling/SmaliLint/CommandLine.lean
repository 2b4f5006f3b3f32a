import SmaliLint.CommandLine.Grammar
import SmaliLint.Document
import SmaliLint.Severity
import SmaliLint.Text.Integer

/-!
# The commands

The program checks files or serves an editor: `check FILE...` or `serve`, each with options of its
own.

* `CheckArguments`, `ServeArguments` : what the user asked for, before the configuration is
  consulted;
* `readCommand` : the command on a command line.
-/

namespace SmaliLint

/-- The name of the program. -/
def programName : String := "smali-lsp"

/-- The version of the program. -/
def programVersion : String := "0.1.0"

/-- The levels of the log, the most talkative first. -/
def LogLevel.all : List LogLevel := [.debug, .info, .warning, .error]

/-- The name of a level in options and configurations. -/
def LogLevel.word : LogLevel → String
  | .debug => "debug"
  | .info => "info"
  | .warning => "warning"
  | .error => "error"

def LogLevel.ofWord? (s : String) : Option LogLevel := LogLevel.all.find? (·.word == s)

/-- What an option was given: a value, or nothing in its place. -/
inductive Supplied (α : Type) where
  | nothing
  | value (a : α)
  deriving DecidableEq, Repr

/-- What was given, as text. Nothing shows as an empty list. -/
def Supplied.text {α : Type} (shown : α → String) : Supplied α → String
  | .nothing => "[]"
  | .value a => shown a

/-- Options that both commands have. -/
structure ValidationArguments where
  /-- The configuration file. -/
  config : Option String
  rules : Option (List String)
  least : Option (Supplied Severity)
  deriving DecidableEq, Repr

structure CheckArguments where
  validation : ValidationArguments
  files : List String
  /-- Whether to list the tokens of every file. -/
  tokens : Bool
  deriving DecidableEq, Repr

structure ServeArguments where
  validation : ValidationArguments
  /-- Whether to listen on a port instead of standard input. -/
  tcp : Bool
  host : Supplied String
  port : Supplied Int
  logLevel : Option LogLevel
  logFile : Option String
  deriving DecidableEq, Repr

/-- What the user asked for. -/
inductive Command where
  | check (arguments : CheckArguments)
  | serve (arguments : ServeArguments)
  deriving DecidableEq, Repr

/-! ## Values -/

/-- A list of rules is no list without a name in it. -/
structure NoRules where
  value : String
  deriving DecidableEq, Repr

def NoRules.message (e : NoRules) : String := "invalid rule list: " ++ quote e.value

/-- The names in a list with commas between them. Blanks around names and empty names are left
out. -/
def readRuleList (value : String) : Except NoRules (List String) :=
  let r := Text.pieces ',' value.toList
  let names := ((r.1 :: r.2).map Text.strip).filter (· ≠ [])
  if names.isEmpty then .error ⟨value⟩ else .ok (names.map String.ofList)

/-- The choice of the given name, or what is wrong with the name. -/
def readChoice {α : Type} (choices : List α) (name : α → String) (value : String) :
    Except String α :=
  match choices.find? (name · == value) with
  | some x => .ok x
  | none =>
    .error ("invalid choice: " ++ quote value ++ " (choose from " ++
      ", ".intercalate (choices.map (quote ∘ name)) ++ ")")

/-- What an option was given, if its value can be read. -/
def readSupplied {α : Type} (readWord : String → Except String α) :
    Option String → Except String (Supplied α)
  | none => .ok .nothing
  | some v => (readWord v).map .value

/-- The rules an option names; without a value it names none. -/
def readRules : Option String → Except String (List String)
  | none => .ok []
  | some v => (readRuleList v).mapError NoRules.message

def readSeverity : String → Except String Severity := readChoice Severity.all Severity.word

def readLogLevel : String → Except String LogLevel := readChoice LogLevel.all LogLevel.word

def readPort (v : String) : Except String Int :=
  match Text.integerOf? v.toList with
  | some n => .ok n
  | none => .error ("invalid int value: " ++ quote v)

/-! ## Grammars -/

open CommandLine

/-- The option that explains the others. -/
def helpOption {σ : Type} (program : String) : OptionSpec σ :=
  ⟨["-h", "--help"], .stop (.help program)⟩

/-- The options that both commands have, given how their values are kept. -/
def validationOptions {σ : Type}
    (update : (ValidationArguments → ValidationArguments) → σ → σ) : List (OptionSpec σ) :=
  [⟨["--config"], .value fun v s => .ok (update ({ · with config := v }) s)⟩,
    ⟨["--rules"], .value fun v s => do
      let names ← readRules v
      return update ({ · with rules := some names }) s⟩,
    ⟨["--min-severity"], .value fun v s => do
      let least ← readSupplied readSeverity v
      return update ({ · with least := some least }) s⟩]

def checkGrammar : Grammar CheckArguments where
  program := programName ++ " check"
  options :=
    helpOption (programName ++ " check") ::
      validationOptions (fun f s => { s with validation := f s.validation }) ++
      [⟨["--tokens"], .flag ({ · with tokens := true })⟩]
  operands := .some "FILE" fun files s => { s with files := files }

def serveGrammar : Grammar ServeArguments where
  program := programName ++ " serve"
  options :=
    helpOption (programName ++ " serve") ::
      validationOptions (fun f s => { s with validation := f s.validation }) ++
      [⟨["--tcp"], .flag ({ · with tcp := true })⟩,
        ⟨["--host"], .value fun v s => do
          let host ← readSupplied .ok v
          return { s with host := host }⟩,
        ⟨["--port"], .value fun v s => do
          let port ← readSupplied readPort v
          return { s with port := port }⟩,
        ⟨["--log-level"], .value fun v s => do
          let level ← v.mapM readLogLevel
          return { s with logLevel := level }⟩,
        ⟨["--log-file"], .value fun v s => .ok { s with logFile := v }⟩]
  operands := .none

/-- The commands by name. -/
inductive CommandName where
  | check
  | serve
  deriving DecidableEq, Repr

def CommandName.all : List CommandName := [.check, .serve]

def CommandName.word : CommandName → String
  | .check => "check"
  | .serve => "serve"

/-- The options of a command line that gives none of those that both commands have. -/
def ValidationArguments.unset : ValidationArguments := ⟨none, none, none⟩

/-- Reads the words after the name of a command by its grammar. The words that the command does not
want come back with it. -/
def readNamedCommand (name : String) (rest : List String) :
    Except Exit (Command × List String) :=
  match readChoice CommandName.all CommandName.word name with
  | .error message => .error (.usage programName ("argument command: " ++ message))
  | .ok .check => do
    let (arguments, extras) ← checkGrammar.read ⟨.unset, [], false⟩ rest
    return (.check arguments, extras)
  | .ok .serve => do
    let (arguments, extras) ←
      serveGrammar.read ⟨.unset, false, .value "127.0.0.1", .value 2087, none, none⟩ rest
    return (.serve arguments, extras)

/-- The command line as a whole: options of the program itself, then a command. -/
def programGrammar : Grammar (Option (Command × List String)) where
  program := programName
  options := [helpOption programName, ⟨["--version"], .stop .version⟩]
  operands := .command "command" fun name rest _ => (readNamedCommand name rest).map some

/-- The command on a command line. -/
def readCommand (words : List String) : Except Exit Command := do
  let (found, extras) ← programGrammar.read none words
  match found with
  | none => .error (.usage programName "the following arguments are required: command")
  | some (command, more) =>
    if (extras ++ more).isEmpty then return command
    else
      .error (.usage programName
        ("unrecognized arguments: " ++ " ".intercalate (extras ++ more)))

end SmaliLint
