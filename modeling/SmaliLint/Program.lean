import SmaliLint.Report
import SmaliLint.Server
import SmaliLint.Toml.Document

/-!
# The program

What the program does with a command line and a disk.

* `resolveCommand` : the options of a command, with the configuration file taken into account;
* `runProgram` : what it prints and how it ends; for `serve`, how the server is started;
* `Crash` : what it does not deal with.
-/

namespace SmaliLint

/-! ## Options -/

/-- The options of a command. -/
inductive ResolvedCommand where
  | check (options : CheckOptions)
  | serve (options : ServeOptions)
  deriving DecidableEq, Repr

/-- What the program does not deal with. -/
inductive Crash where
  /-- The configuration file is no text. -/
  | undecodable (cause : Utf8.DecodeError)
  /-- The configuration file holds too much. -/
  | oversized (cause : Toml.ReadFault)
  /-- A value of the configuration cannot be written as text. -/
  | unwritable (cause : Toml.TextFault)
  /-- A file could not be looked at or written to. -/
  | inaccessible (cause : FileError)
  /-- The log file is no file name. -/
  | notAPath (cause : NotAPath)
  /-- The name of a file contains the null character. -/
  | nullInName
  /-- Rules of the options are not known. -/
  | unknownRules (cause : UnknownRules)
  /-- There is no port that could be logged. -/
  | noPort
  deriving DecidableEq, Repr

def Crash.message : Crash → String
  | .undecodable cause => cause.message
  | .oversized cause => cause.message
  | .unwritable cause => cause.message
  | .inaccessible cause => cause.message
  | .notAPath cause => cause.message
  | .nullInName => "embedded null byte"
  | .unknownRules cause => cause.messageWithAvailable
  | .noPort => "%d format: a real number is required, not list"

/-- Why a command has no options. -/
inductive ResolveError where
  | config (cause : ConfigError)
  | crash (cause : Crash)
  deriving DecidableEq, Repr

/-- Whether the name of a file contains the null character. -/
def Path.hasNull (p : Path) : Bool := p.toString.toList.contains '\x00'

/-- The configuration in a file. Where there is no file, nothing is configured. -/
def loadConfig (disk : Disk) (path : Path) : Except ResolveError Toml.Table :=
  if path.hasNull then .ok []
  else
    match disk.read path with
    | .error (.access .notFound _) => .ok []
    | .error (.access .notDirectory _) => .ok []
    | .error (.access .isDirectory _) => .ok []
    | .error e => .error (.crash (.inaccessible e))
    | .ok bytes =>
      match Utf8.decode bytes with
      | .error e => .error (.crash (.undecodable e))
      | .ok s =>
        match Toml.read s with
        | .ok table => .ok table
        | .error .invalid => .error (.config (.invalid path.toString))
        | .error e => .error (.crash (.oversized e))

/-- The files that a command may read. -/
def Command.reads : Command → List Path
  | .check a => a.validation.configPath :: a.files.map Path.ofString
  | .serve a => [a.validation.configPath]

/-- What a fault of the options means for the command. -/
def OptionFault.toResolveError : OptionFault → ResolveError
  | .config e => .config e
  | .unwritable e => .crash (.unwritable e)
  | .logFile e => .crash (.notAPath e)

/-- The options of a command. -/
def resolveCommand (disk : Disk) : Command → Except ResolveError ResolvedCommand
  | .check a => do
    let config ← loadConfig disk a.validation.configPath
    ((CheckOptions.resolve config a).map .check).mapError OptionFault.toResolveError
  | .serve a => do
    let config ← loadConfig disk a.validation.configPath
    ((ServeOptions.resolve config a).map .serve).mapError OptionFault.toResolveError

/-! ## Running -/

/-- How a server is started. -/
structure Serving where
  options : ServeOptions
  /-- What is logged at the start. -/
  records : List Record
  deriving DecidableEq, Repr

/-- What comes of running the program. -/
structure Outcome where
  exitCode : Nat
  stdout : Text
  stderr : Text
  /-- The server that was started, if one was. -/
  serving : Option Serving
  deriving DecidableEq, Repr

/-- The place where a server starts, as its log calls it. -/
def startPlace : Option Endpoint → Except Crash String
  | none => .ok "stdio"
  | some ⟨host, .value port⟩ => .ok (host.text id ++ ":" ++ String.ofList (Text.ofInt port))
  | some ⟨_, .nothing⟩ => .error .noPort

/-- How loud a level is. -/
def LogLevel.rank : LogLevel → Nat
  | .debug => 10
  | .info => 20
  | .warning => 30
  | .error => 40

/-- Whether a log of level `l` takes records of level `m`. -/
def LogLevel.takes (l m : LogLevel) : Bool := l.rank ≤ m.rank

/-- The start of a server, with the record of it if its log takes one. -/
def startServing (options : ServeOptions) : Except Crash Serving := do
  if !options.logLevel.takes .info then return ⟨options, []⟩
  let place ← startPlace options.tcp
  return ⟨options, [⟨.info, "starting " ++ programName ++ " " ++ programVersion ++ " on " ++ place⟩]⟩

/-- What the program prints when it is asked how to use it. "[options]" stands for the summary of the options and the
help on each, which the reader of command lines makes up and which are not modelled. -/
def usageText (program : String) : Text := ("usage: " ++ program ++ " [options]\n").toList

/-- The end of the program after a command line that it does not act upon. -/
def exitOutcome : CommandLine.Exit → Outcome
  | .usage program message => ⟨2, [], (program ++ ": error: " ++ message ++ "\n").toList, none⟩
  | .help program => ⟨0, usageText program, [], none⟩
  | .version => ⟨0, (programName ++ " " ++ programVersion ++ "\n").toList, [], none⟩

/-- Opens the log file, if there is one. -/
def openLog (disk : Disk) : Option Path → Except Crash Unit
  | none => .ok ()
  | some path =>
    if path.hasNull then .error .nullInName else (disk.append path).mapError .inaccessible

/-- Carries out a command. -/
def runCommand (disk : Disk) : ResolvedCommand → Except Crash Outcome
  | .check options =>
    if options.files.any Path.hasNull then .error .nullInName
    else
      match checkFiles options disk with
      | .ok report => .ok ⟨report.verdict.code, Write.on .out report.output, Write.on .err report.output, none⟩
      | .error e => .error (.unknownRules e)
  | .serve options => do
    openLog disk options.logPath
    return ⟨0, [], [], some (← startServing options)⟩

/-- Runs the program. -/
def runProgram (disk : Disk) (words : List String) : Except Crash Outcome :=
  match readCommand words with
  | .error exit => .ok (exitOutcome exit)
  | .ok command =>
    match resolveCommand disk command with
    | .ok resolved => runCommand disk resolved
    | .error (.config e) => .ok ⟨2, [], ("error: " ++ e.message ++ "\n").toList, none⟩
    | .error (.crash e) => .error e

end SmaliLint
