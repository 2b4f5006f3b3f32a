import SmaliLint.Proofs.Outcome
import SmaliLint.Proofs.Report.Files
import SmaliLint.Proofs.Server.Session

/-!
# The command line counts

The options of a command are made of fields, and each field is asked of the command line first and of the configuration
only if the command line is silent about it. So a configuration cannot undo what the user asked for, not even by being
wrong; and what comes out can be run.

* `Field`, `Field.value?` : what a configuration may say something about, and what it says;
* `Command.options`, `Command.fields`, `Command.Settles` : the options of a command, the fields it asks the configuration
  for, and those that the command line says something about;
* `resolveRules_agree` and the like : two configurations that agree where the command line is silent give the same;
* `ResolvedCommand.Sound` : options that can be run;
* `Server.handle_knowsRules`, `Session.knowsRules_of` : a server whose rules are known never fails for want of one.
-/

namespace SmaliLint

/-! ## Fields -/

/-- What a configuration may say something about. -/
inductive Field where
  | rules
  | least
  | logLevel
  | logFile
  deriving DecidableEq, Repr

/-- What the configuration says about a field. -/
def Field.value? (config : Toml.Table) : Field → Option Toml.Value
  | .rules => (configSection config "validation").get? "rules"
  | .least => (configSection config "validation").get? "min-severity"
  | .logLevel => (configSection config "server").get? "log-level"
  | .logFile => (configSection config "server").get? "log-file"

namespace Command

/-- The options that both commands have. -/
def validation : Command → ValidationArguments
  | .check a => a.validation
  | .serve a => a.validation

/-- The level of the log on the command line. -/
def logLevel : Command → Option LogLevel
  | .check _ => none
  | .serve a => a.logLevel

/-- The log file on the command line. -/
def logFile : Command → Option String
  | .check _ => none
  | .serve a => a.logFile

/-- The fields for which a command asks the configuration, in that order. -/
def fields : Command → List Field
  | .check _ => [.rules, .least]
  | .serve _ => [.logLevel, .rules, .least, .logFile]

/-- Whether the command line says something about a field. An empty name is no log file. -/
def settles (c : Command) : Field → Bool
  | .rules => c.validation.rules.isSome
  | .least => c.validation.least.isSome
  | .logLevel => c.logLevel.isSome
  | .logFile => c.logFile.any (!·.isEmpty)

/-- The options of a command under a configuration. -/
def options (config : Toml.Table) : Command → Except OptionFault ResolvedCommand
  | .check a => (CheckOptions.resolve config a).map .check
  | .serve a => (ServeOptions.resolve config a).map .serve

end Command

/-! ## Two configurations -/

section Agreement

variable {v w : Option Toml.Value}

theorem resolveRules_agree {given : Option (List String)} (h : given.isSome = false → v = w) :
    resolveRules given v = resolveRules given w := by
  cases given with
  | none => rw [h rfl]
  | some names => rfl

theorem resolveSeverity_agree {given : Option (Supplied Severity)} (h : given.isSome = false → v = w) :
    resolveSeverity given v = resolveSeverity given w := by
  cases given with
  | none => rw [h rfl]
  | some least => cases least <;> rfl

theorem resolveLogLevel_agree {given : Option LogLevel} (h : given.isSome = false → v = w) :
    resolveLogLevel given v = resolveLogLevel given w := by
  cases given with
  | none => rw [h rfl]
  | some level => rfl

theorem resolveLogFile_agree {given : Option String} (h : given.any (!·.isEmpty) = false → v = w) :
    resolveLogFile given v = resolveLogFile given w := by
  cases given with
  | none => rw [h rfl]
  | some name =>
    cases hname : name.isEmpty with
    | true => rw [h (by simp [hname])]
    | false => simp [resolveLogFile, hname]

end Agreement

/-- **What the command line settles, the configuration has no say in.** -/
theorem Command.options_agree {c : Command} {config other : Toml.Table}
    (h : ∀ f ∈ c.fields, c.settles f = false → f.value? config = f.value? other) :
    c.options config = c.options other := by
  cases c with
  | check a =>
    have hrules := resolveRules_agree (h .rules (by simp [fields]))
    have hleast := resolveSeverity_agree (h .least (by simp [fields]))
    simp only [Field.value?, validation] at hrules hleast
    simp only [options, CheckOptions.resolve, hrules, hleast]
  | serve a =>
    have hrules := resolveRules_agree (h .rules (by simp [fields]))
    have hleast := resolveSeverity_agree (h .least (by simp [fields]))
    have hlogLevel := resolveLogLevel_agree (h .logLevel (by simp [fields]))
    have hlogFile := resolveLogFile_agree (h .logFile (by simp [fields]))
    simp only [Field.value?, validation, logLevel, logFile] at hrules hleast hlogLevel hlogFile
    simp only [options, ServeOptions.resolve, hrules, hleast, hlogLevel, hlogFile]

/-! ## Options that come about -/

namespace ResolvedCommand

def rules : ResolvedCommand → Option (List String)
  | .check o => o.rules
  | .serve o => o.rules

def least : ResolvedCommand → Severity
  | .check o => o.least
  | .serve o => o.least

def logLevel : ResolvedCommand → Option LogLevel
  | .check _ => none
  | .serve o => some o.logLevel

end ResolvedCommand

theorem CheckOptions.resolve_eq_ok_iff {config : Toml.Table} {a : CheckArguments} {o : CheckOptions} :
    CheckOptions.resolve config a = .ok o ↔
      ∃ rules, resolveRules a.validation.rules (Field.rules.value? config) = .ok rules ∧
      ∃ least, resolveSeverity a.validation.least (Field.least.value? config) = .ok least ∧
        o = ⟨a.files.map Path.ofString, rules, least, a.tokens⟩ := by
  simp only [CheckOptions.resolve, Field.value?, bind_eq_ok_iff, pure_eq_ok_iff]

theorem ServeOptions.resolve_eq_ok_iff {config : Toml.Table} {a : ServeArguments} {o : ServeOptions} :
    ServeOptions.resolve config a = .ok o ↔
      ∃ logLevel, resolveLogLevel a.logLevel (Field.logLevel.value? config) = .ok logLevel ∧
      ∃ rules, resolveRules a.validation.rules (Field.rules.value? config) = .ok rules ∧
      ∃ least, resolveSeverity a.validation.least (Field.least.value? config) = .ok least ∧
      ∃ logFile, resolveLogFile a.logFile (Field.logFile.value? config) = .ok logFile ∧
        o = ⟨rules, least, if a.tcp then some ⟨a.host, a.port⟩ else none, logLevel, logFile⟩ := by
  simp only [ServeOptions.resolve, Field.value?, bind_eq_ok_iff, mapError_eq_ok_iff, pure_eq_ok_iff]

theorem Command.options_eq_ok {c : Command} {config : Toml.Table} {o : ResolvedCommand} (h : c.options config = .ok o) :
    resolveRules c.validation.rules (Field.rules.value? config) = .ok o.rules ∧
      resolveSeverity c.validation.least (Field.least.value? config) = .ok o.least ∧
      (o.logLevel = none → c.logLevel = none) ∧
      ∀ level, o.logLevel = some level → resolveLogLevel c.logLevel (Field.logLevel.value? config) = .ok level := by
  cases c with
  | check a =>
    obtain ⟨p, hp, rfl⟩ := map_eq_ok_iff.1 h
    obtain ⟨rules, hrules, least, hleast, rfl⟩ := CheckOptions.resolve_eq_ok_iff.1 hp
    exact ⟨hrules, hleast, fun _ => rfl, nofun⟩
  | serve a =>
    obtain ⟨p, hp, rfl⟩ := map_eq_ok_iff.1 h
    obtain ⟨logLevel, hlogLevel, rules, hrules, least, hleast, logFile, -, rfl⟩ := ServeOptions.resolve_eq_ok_iff.1 hp
    refine ⟨hrules, hleast, nofun, ?_⟩
    rintro level ⟨⟩
    exact hlogLevel

theorem Rule.mem_of_select {names : List String} {rules : List Rule} (h : Rule.select (some names) = .ok rules) :
    ∀ name ∈ names, name ∈ Rule.all.map Rule.name := by
  have hnone : names.filter (fun s => (ofName? s).isNone) = [] := by
    by_contra hsome
    rw [select, if_neg (by simpa using hsome)] at h
    cases h
  intro name hname
  have hknown := List.filter_eq_nil_iff.1 hnone name hname
  rw [isNone_ofName?, decide_eq_true_iff, not_not] at hknown
  exact hknown

theorem select_of_resolveRules {given : Option (List String)} {v : Option Toml.Value} {names : Option (List String)}
    (h : resolveRules given v = .ok names) : ∃ rules, Rule.select names = .ok rules := by
  obtain ⟨found, -, hfound⟩ := bind_eq_ok_iff.1 h
  cases hselect : Rule.select found with
  | error e =>
    rw [hselect] at hfound
    cases hfound
  | ok rules =>
    rw [hselect] at hfound
    cases hfound
    exact ⟨rules, hselect⟩

theorem resolveRules_given {names : List String} {v : Option Toml.Value} {resolved : Option (List String)}
    (h : resolveRules (some names) v = .ok resolved) : resolved = some names := by
  obtain ⟨found, hgiven, hfound⟩ := bind_eq_ok_iff.1 h
  cases hgiven
  split at hfound
  · exact (Except.ok.inj hfound).symm
  · cases hfound

/-- A level is read by its own word, and by no other. -/
theorem LogLevel.ofWord?_eq_some_iff {word : String} {level : LogLevel} :
    LogLevel.ofWord? word = some level ↔ word = level.word := by
  constructor
  · intro h
    rw [ofWord?] at h
    have hfound := List.find?_some h
    exact (eq_of_beq hfound).symm
  · rintro rfl
    cases level <;> decide

/-- **A level that the configuration gives** is written there in any case. -/
theorem resolveLogLevel_configured {v : Toml.Value} {level : LogLevel} (h : resolveLogLevel none (some v) = .ok level) :
    v.text.map (fun s => String.ofList (Text.lower s.toList)) = .ok level.word := by
  obtain ⟨written, hwritten, hlevel⟩ := bind_eq_ok_iff.1 h
  rw [mapError_eq_ok_iff.1 hwritten]
  dsimp only at hlevel
  split at hlevel
  case h_1 found hfound =>
    cases hlevel
    exact congrArg Except.ok (LogLevel.ofWord?_eq_some_iff.1 hfound)
  case h_2 => cases hlevel

/-! ## Servers whose rules are known -/

/-- The turn did not fail for want of a rule. -/
def Turn.KnowsRules (t : Turn) : Prop := ∀ e, t.failure ≠ some (.unknownRules e)

theorem Turn.KnowsRules.of_failure_none {t : Turn} (h : t.failure = none) : t.KnowsRules := by
  intro e he
  rw [h] at he
  cases he

theorem Turn.KnowsRules.of_store {t : Turn} {cause : StoreError} (h : t.failure = some (.store cause)) :
    t.KnowsRules := by
  intro e he
  rw [h] at he
  cases he

theorem Turn.KnowsRules.after {t : Turn} (h : t.KnowsRules) (sent : List Notification) (records : List Record) :
    (t.after sent records).KnowsRules := h

namespace Server

theorem publishFindings_failure (s : Server) (snapshot : Snapshot) (found : List Diagnostic) :
    (s.publishFindings snapshot found).failure = none := by
  unfold publishFindings
  split <;> rfl

/-- Whatever is done to the documents while one of them is validated. -/
theorem validateDocument_knowsRules {s : Server} {rules : List Rule} (hrules : Rule.select s.rules = .ok rules)
    (uri : String) (meanwhile : List StoreOp) : (s.validateDocument uri meanwhile).KnowsRules := by
  cases hget : s.store.get? uri with
  | none =>
    rw [validateDocument_of_closed hget]
    exact .of_failure_none rfl
  | some d =>
    rw [validateDocument_of_found hget (validate_of_select hrules d.text)]
    exact (Turn.KnowsRules.of_failure_none (publishFindings_failure _ _ _)).after _ _

theorem changeDocument_knowsRules {s : Server} {rules : List Rule} (hrules : Rule.select s.rules = .ok rules)
    (uri : String) (version : Option Int) (cs : List ContentChange) : (s.changeDocument uri version cs).KnowsRules := by
  induction cs generalizing s with
  | nil => exact validateDocument_knowsRules hrules uri []
  | cons c cs ih =>
    unfold changeDocument
    cases s.applyChange uri version c with
    | ok store => exact ih hrules
    | error e =>
      cases e with
      | position cause => exact .of_store rfl
      | notOpen u => exact (validateDocument_knowsRules hrules uri []).after _ _
      | noRange u => exact (validateDocument_knowsRules hrules uri []).after _ _

theorem handle_knowsRules {s : Server} {rules : List Rule} (hrules : Rule.select s.rules = .ok rules) (m : Message) :
    (s.handle m).KnowsRules := by
  cases m with
  | initialized => exact .of_failure_none rfl
  | opened uri text version =>
    exact (validateDocument_knowsRules (s := { s with store := (s.store.openDocument uri text version).1 })
      hrules uri []).after _ _
  | changed uri changes version => exact changeDocument_knowsRules hrules uri version changes
  | closed uri => exact .of_failure_none rfl
  | saved uri => exact .of_failure_none rfl

end Server

/-- **No session fails for want of a rule** if the rules of its server are known. -/
theorem Session.knowsRules_of {s : Server} {rules : List Rule} (hrules : Rule.select s.rules = .ok rules)
    (ms : List Message) (e : UnknownRules) : .unknownRules e ∉ (of s ms).failures := by
  have hfold : ∀ x : Session, x.server.rules = s.rules → .unknownRules e ∉ x.failures →
      .unknownRules e ∉ (ms.foldl hear x).failures := by
    induction ms with
    | nil => exact fun x _ hx => hx
    | cons m ms ih =>
      intro x hx hfailures
      have hknown : Rule.select x.server.rules = .ok rules := by rw [hx, hrules]
      refine ih (x.hear m) ?_ ?_
      · rw [hear, Server.handle_server]
        exact hx
      · have hturn := Server.handle_knowsRules hknown m e
        simp only [hear, List.mem_append, Option.mem_toList, not_or]
        exact ⟨hfailures, hturn⟩
  exact hfold _ rfl (List.not_mem_nil)

/-! ## What the command line gives -/

/-- Options that can be run: nothing in them is unknown, and no validation under them will find otherwise. -/
structure ResolvedCommand.Sound (o : ResolvedCommand) : Prop where
  names : ∀ names, o.rules = some names → ∀ name ∈ names, name ∈ Rule.all.map Rule.name
  validates : ∀ source, ∃ ds, validate source o.rules = .ok ds
  checks : ∀ p, o = .check p → ∀ disk, ∃ report, checkFiles p disk = .ok report
  serves : ∀ p, o = .serve p → ∀ units ms, let x := Session.of (.start p.rules p.least units) ms
    x.server.rules = p.rules ∧ (∀ e, .unknownRules e ∉ x.failures) ∧
      ∀ uri meanwhile e, (x.server.validateDocument uri meanwhile).failure ≠ some (.unknownRules e)
  level : ∀ level, o.logLevel = some level → level.word ∈ ["debug", "info", "warning", "error"]

theorem ResolvedCommand.sound_of_select {o : ResolvedCommand} {rules : List Rule} (h : Rule.select o.rules = .ok rules) :
    o.Sound where
  names names hnames := Rule.mem_of_select (hnames ▸ h)
  validates source := ⟨_, validate_of_select h source⟩
  checks := by
    rintro p rfl disk
    obtain ⟨_, report, -, hreport, -⟩ := checkFiles_of_select h disk
    exact ⟨report, hreport⟩
  serves := by
    rintro p rfl units ms x
    have hrules : x.server.rules = p.rules := congrArg Server.rules (Session.server_of _ ms)
    have hknown : Rule.select x.server.rules = .ok rules := by
      rw [hrules]
      exact h
    exact ⟨hrules, Session.knowsRules_of h ms, Server.validateDocument_knowsRules hknown⟩
  level level _ := by cases level <;> decide

/-- The options say what the command line says, field by field. A level that only the configuration gives is written
there in any case. -/
structure Command.Governs (c : Command) (config : Toml.Table) (o : ResolvedCommand) : Prop where
  rules : ∀ names, c.validation.rules = some names → o.rules = some names
  least : ∀ least, c.validation.least = some (.value least) → o.least = least
  level : ∀ level, c.logLevel = some level → o.logLevel = some level
  written : ∀ level v, c.logLevel = none → Field.logLevel.value? config = some v → o.logLevel = some level →
    v.text.map (fun s => String.ofList (Text.lower s.toList)) = .ok level.word

theorem Command.governs_of_options {c : Command} {config : Toml.Table} {o : ResolvedCommand}
    (h : c.options config = .ok o) : c.Governs config o := by
  obtain ⟨hrules, hleast, hnone, hlevel⟩ := options_eq_ok h
  refine ⟨fun names hnames => ?_, fun least hgiven => ?_, fun level hgiven => ?_, fun level v hsilent hv ho => ?_⟩
  · rw [hnames] at hrules
    exact resolveRules_given hrules
  · rw [hgiven] at hleast
    exact (Except.ok.inj hleast).symm
  · cases ho : o.logLevel with
    | none =>
      rw [hnone ho] at hgiven
      cases hgiven
    | some found =>
      have hresolved := hlevel found ho
      rw [hgiven] at hresolved
      rw [Except.ok.inj hresolved]
  · have hresolved := hlevel level ho
    rw [hsilent, hv] at hresolved
    exact resolveLogLevel_configured hresolved

/-- **The command line counts**, and what comes out can be run: its names are those of rules, the level of the log is
one of the four, and both, like the threshold, are those of the command line where it gives them. What the configuration
says of a field that the command line gives has no influence. -/
theorem command_line_counts (c : Command) (config : Toml.Table) :
    (∀ o, c.options config = .ok o → o.Sound ∧ c.Governs config o) ∧
      ∀ other : Toml.Table, (∀ f ∈ c.fields, c.settles f = false → f.value? config = f.value? other) →
        c.options config = c.options other := by
  refine ⟨fun o ho => ⟨?_, Command.governs_of_options ho⟩, fun other => Command.options_agree⟩
  obtain ⟨hresolved, -⟩ := Command.options_eq_ok ho
  obtain ⟨rules, hrules⟩ := select_of_resolveRules hresolved
  exact ResolvedCommand.sound_of_select hrules

/-- A configuration in which everything is wrong does not matter to a command line that gives everything, though it does to
one that gives nothing. -/
theorem command_line_counts_wrong_configuration :
    let wrong : Toml.Table :=
      [("validation", .table [("rules", .array [.string "footer"]), ("min-severity", .integer 7)]),
        ("server", .table [("log-level", .boolean true)])]
    let all : Command :=
      .serve ⟨⟨none, some ["header"], some (.value .error)⟩, false, .value "127.0.0.1", .value 2087, some .debug, none⟩
    let nothing : Command := .serve ⟨.unset, false, .value "127.0.0.1", .value 2087, none, none⟩
    (∀ f ∈ all.fields, all.settles f = false → f.value? wrong = f.value? []) ∧
      all.options wrong = all.options [] ∧
      all.options wrong = .ok (.serve ⟨some ["header"], .error, none, .debug, none⟩) ∧
      nothing.options wrong = .error (.config (.invalidLogLevel "true")) := by
  intro wrong all nothing
  have hagree : ∀ f ∈ all.fields, all.settles f = false → f.value? wrong = f.value? [] := by
    intro f hf hsilent
    cases f with
    | logFile => rfl
    | _ => cases hsilent
  exact ⟨hagree, (command_line_counts all wrong).2 [] hagree, by rfl, by rfl⟩

end SmaliLint
