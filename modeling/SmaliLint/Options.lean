import SmaliLint.CommandLine
import SmaliLint.Path
import SmaliLint.Text.Lower
import SmaliLint.Toml.Value
import SmaliLint.Validation

/-!
# Options

What a command is to do, from the command line and the configuration together. Where both say
something, the command line counts.

The configuration is a table. `[validation]` may hold `rules` and `min-severity`, and `[server]` may
hold `log-level` and `log-file`; anything else is left aside, and so is a section that is no table.

* `CheckOptions`, `ServeOptions` : the options of the two commands;
* `CheckOptions.resolve`, `ServeOptions.resolve` : how they come about;
* `ConfigError` : what is wrong with them in the eyes of the user, and `OptionFault` : everything that
  may keep them from coming about.
-/

namespace SmaliLint

/-- What is wrong with a configuration. -/
inductive ConfigError where
  /-- The file is no valid document. -/
  | invalid (path : String)
  | unknownRules (cause : UnknownRules)
  | unknownSeverity (name : String)
  /-- A severity is an integer with too many digits. -/
  | tooManyDigits
  | invalidLogLevel (name : String)
  deriving DecidableEq, Repr

def unknownSeverityMessage (name : String) : String := "unknown severity: " ++ quote name

/-- What the user is told. "invalid document" stands for the reason that the reader of configurations gives, which is
not modelled. -/
def ConfigError.message : ConfigError → String
  | .invalid path => path ++ ": invalid document"
  | .unknownRules cause => cause.message
  | .unknownSeverity name => unknownSeverityMessage name
  | .tooManyDigits => Toml.TextFault.tooManyDigits.message
  | .invalidLogLevel name => "invalid log level: " ++ quote name

/-- The kinds of value that name no file. -/
inductive NotAPath where
  | integer
  | float
  | boolean
  | date
  | time
  | dateTime
  | array
  | table
  deriving DecidableEq, Repr

def NotAPath.message (e : NotAPath) : String :=
  "expected str, bytes or os.PathLike object, not " ++
    match e with
    | .integer => "int"
    | .float => "float"
    | .boolean => "bool"
    | .date => "date"
    | .time => "time"
    | .dateTime => "datetime"
    | .array => "list"
    | .table => "dict"

/-- Why there are no options. -/
inductive OptionFault where
  | config (cause : ConfigError)
  /-- A value of the configuration cannot be written as text. -/
  | unwritable (cause : Toml.TextFault)
  | logFile (cause : NotAPath)
  deriving DecidableEq, Repr

/-- The options of `check`. -/
structure CheckOptions where
  files : List Path
  rules : Option (List String)
  least : Severity
  tokens : Bool
  deriving DecidableEq, Repr

/-- Where a server listens. -/
structure Endpoint where
  host : Supplied String
  port : Supplied Int
  deriving DecidableEq, Repr

/-- The options of `serve`. -/
structure ServeOptions where
  rules : Option (List String)
  least : Severity
  /-- Where to listen, if it is not standard input. -/
  tcp : Option Endpoint
  logLevel : LogLevel
  logFile : Option Path
  deriving DecidableEq, Repr

/-- The log file as it is opened: the way to it is not looked at. -/
def ServeOptions.logPath (o : ServeOptions) : Option Path := o.logFile.map Path.collapse

/-- The name of the configuration file that is looked for. -/
def configName : String := "smalilsp.toml"

/-- The configuration file that the command line asks for. An empty name asks for none. -/
def ValidationArguments.configPath (a : ValidationArguments) : Path :=
  match a.config with
  | some name => if name.isEmpty then .ofString configName else .ofString name
  | none => .ofString configName

/-- A section of the configuration. -/
def configSection (config : Toml.Table) (name : String) : Toml.Table :=
  ((config.get? name).bind Toml.Value.table?).getD []

/-- The names of the rules to run. In the configuration only an array says anything about them. -/
def ruleNames (given : Option (List String)) (configured : Option Toml.Value) :
    Except Toml.TextFault (Option (List String)) :=
  match given, configured with
  | some names, _ => .ok (some names)
  | none, some (.array items) => (items.mapM Toml.Value.text).map some
  | none, _ => .ok none

/-- The rules to run, all of which must be known. -/
def resolveRules (given : Option (List String)) (configured : Option Toml.Value) :
    Except OptionFault (Option (List String)) := do
  let names ← (ruleNames given configured).mapError .unwritable
  match Rule.select names with
  | .ok _ => return names
  | .error e => throw (.config (.unknownRules e))

/-- The severity that a value of the configuration names. -/
def configuredSeverity (v : Toml.Value) : Except OptionFault Severity :=
  match v.text with
  | .ok name =>
    match Severity.ofName? name with
    | some severity => .ok severity
    | none => .error (.config (.unknownSeverity name))
  | .error .tooManyDigits => .error (.config .tooManyDigits)
  | .error .tooDeep => .error (.unwritable .tooDeep)

/-- The least serious diagnostics to report. -/
def resolveSeverity (given : Option (Supplied Severity)) (configured : Option Toml.Value) :
    Except OptionFault Severity :=
  match given, configured with
  | some (.value severity), _ => .ok severity
  | some .nothing, _ =>
    .error (.config (.unknownSeverity (Supplied.nothing.text Severity.word)))
  | none, some v => configuredSeverity v
  | none, none => .ok .hint

/-- The level of the log. In the configuration it may be written in any case. -/
def resolveLogLevel (given : Option LogLevel) (configured : Option Toml.Value) :
    Except OptionFault LogLevel :=
  match given, configured with
  | some level, _ => .ok level
  | none, some v => do
    let written ← v.text.mapError .unwritable
    let name := String.ofList (Text.lower written.toList)
    match LogLevel.ofWord? name with
    | some level => return level
    | none => throw (.config (.invalidLogLevel name))
  | none, none => .ok .info

/-- The options of `check` under a configuration. -/
def CheckOptions.resolve (config : Toml.Table) (a : CheckArguments) :
    Except OptionFault CheckOptions := do
  let validation := configSection config "validation"
  let rules ← resolveRules a.validation.rules (validation.get? "rules")
  let least ← resolveSeverity a.validation.least (validation.get? "min-severity")
  return ⟨a.files.map Path.ofString, rules, least, a.tokens⟩

/-! ## The log file -/

/-- The log file that the configuration names. Nothing, zero, no and an empty value name none. -/
def configuredLogFile : Option Toml.Value → Except NotAPath (Option Path)
  | none => .ok none
  | some (.string s) => .ok (if s.isEmpty then none else some (.ofString s))
  | some (.integer n) => if n = 0 then .ok none else .error .integer
  | some (.float x) => if x.isZero then .ok none else .error .float
  | some (.boolean b) => if b then .error .boolean else .ok none
  | some (.date _) => .error .date
  | some (.time _) => .error .time
  | some (.dateTime _) => .error .dateTime
  | some (.array items) => if items.isEmpty then .ok none else .error .array
  | some (.table entries) => if entries.isEmpty then .ok none else .error .table

/-- The log file. An empty name on the command line leaves it to the configuration. -/
def resolveLogFile (given : Option String) (configured : Option Toml.Value) :
    Except NotAPath (Option Path) :=
  match given with
  | some name => if name.isEmpty then configuredLogFile configured else .ok (some (.ofString name))
  | none => configuredLogFile configured

/-- The options of `serve` under a configuration. -/
def ServeOptions.resolve (config : Toml.Table) (a : ServeArguments) :
    Except OptionFault ServeOptions := do
  let validation := configSection config "validation"
  let server := configSection config "server"
  let logLevel ← resolveLogLevel a.logLevel (server.get? "log-level")
  let rules ← resolveRules a.validation.rules (validation.get? "rules")
  let least ← resolveSeverity a.validation.least (validation.get? "min-severity")
  let logFile ← (resolveLogFile a.logFile (server.get? "log-file")).mapError .logFile
  return ⟨rules, least, if a.tcp then some ⟨a.host, a.port⟩ else none, logLevel, logFile⟩

end SmaliLint
