import SmaliLint.Proofs.Options.Overrides
import SmaliLint.Proofs.Report.Carets
import SmaliLint.Proofs.Toml.Writing

/-!
# Faults of the options

When the options of a command do not come about, the user is to be told why. That is so for most of what may be wrong
with a configuration, but not for all of it: a fault of another kind is none that the program deals with.

* `Escapes`, `escapes_bind_iff` : nothing comes about, and the user is not told;
* `Field.Astray` : the values of a field for which that happens, and `Command.ask_escapes_iff` : it happens for no others;
* `Command.forM_ask`, `Command.options_escapes_iff` : fields are asked for in turn, so the first fault counts;
* `ConfigError.newline_mem_message_iff` : what the user is told takes one line, unless a name that it shows takes more;
* `runProgram_of_options` : what the program makes of options and of faults.
-/

namespace SmaliLint

/-! ## Faults of which the user is not told -/

/-- There is a fault, and it is not one that the user is told about. -/
def Escapes {α : Type} (x : Except OptionFault α) : Prop := ∃ fault, x = .error fault ∧ ∀ e, fault ≠ .config e

section Escapes
variable {α β γ : Type}

theorem escapes_bind_iff {x : Except OptionFault α} {f : α → Except OptionFault β} :
    Escapes (x >>= f) ↔ Escapes x ∨ ∃ a, x = .ok a ∧ Escapes (f a) := by
  constructor
  · rintro ⟨fault, hfault, hstray⟩
    rcases bind_eq_error_iff.1 hfault with hx | ⟨a, ha, hf⟩
    · exact .inl ⟨fault, hx, hstray⟩
    · exact .inr ⟨a, ha, fault, hf, hstray⟩
  · rintro (⟨fault, hx, hstray⟩ | ⟨a, ha, fault, hf, hstray⟩)
    · exact ⟨fault, bind_eq_error_iff.2 (.inl hx), hstray⟩
    · exact ⟨fault, bind_eq_error_iff.2 (.inr ⟨a, ha, hf⟩), hstray⟩

theorem escapes_map_iff {x : Except OptionFault α} {f : α → β} : Escapes (x.map f) ↔ Escapes x := by
  simp only [Escapes, map_eq_error_iff]

theorem not_escapes_iff {x : Except OptionFault α} :
    ¬Escapes x ↔ (∃ a, x = .ok a) ∨ ∃ e, x = .error (.config e) := by
  constructor
  · intro h
    cases x with
    | ok a => exact .inl ⟨a, rfl⟩
    | error fault =>
      by_contra hstray
      exact h ⟨fault, rfl, fun e he => hstray (.inr ⟨e, congrArg Except.error he⟩)⟩
  · rintro (⟨a, rfl⟩ | ⟨e, rfl⟩) ⟨fault, ⟨⟩, hstray⟩
    exact hstray e rfl

@[simp] theorem not_escapes_ok (a : α) : ¬Escapes (Except.ok a) := not_escapes_iff.2 (.inl ⟨a, rfl⟩)

@[simp] theorem not_escapes_config (e : ConfigError) :
    ¬Escapes (Except.error (.config e) : Except OptionFault α) :=
  not_escapes_iff.2 (.inr ⟨e, rfl⟩)

/-- Faults that are renamed to such as the user is not told about. -/
theorem escapes_mapError_iff {x : Except β α} {g : β → OptionFault} (hg : ∀ c e, g c ≠ .config e) :
    Escapes (x.mapError g) ↔ ∃ c, x = .error c := by
  constructor
  · rintro ⟨fault, hfault, -⟩
    obtain ⟨c, hc, -⟩ := mapError_eq_error_iff.1 hfault
    exact ⟨c, hc⟩
  · rintro ⟨c, hc⟩
    exact ⟨g c, mapError_eq_error_iff.2 ⟨c, hc, rfl⟩, hg c⟩

end Escapes

/-! ## Values that lead astray -/

/-- The value stands for nothing: zero, no and whatever is empty. -/
def Toml.Value.isNothing : Toml.Value → Bool
  | .string s => s.isEmpty
  | .integer n => n = 0
  | .float x => x.isZero
  | .boolean b => !b
  | .array items => items.isEmpty
  | .table entries => entries.isEmpty
  | .date _ => false
  | .time _ => false
  | .dateTime _ => false

/-- A value of a field that leads to a fault of which the user is not told. -/
def Field.Astray : Field → Toml.Value → Prop
  | .rules, v => ∃ items, v = .array items ∧ ∃ item ∈ items, item.Unwritable
  | .least, v => v.text = .error .tooDeep
  | .logLevel, v => v.Unwritable
  | .logFile, v => v.isNothing = false ∧ ∀ s, v ≠ .string s

theorem resolveRules_escapes_iff {given : Option (List String)} {configured : Option Toml.Value} :
    Escapes (resolveRules given configured) ↔
      given.isSome = false ∧ ∃ v, configured = some v ∧ Field.rules.Astray v := by
  have hnames : Escapes (resolveRules given configured) ↔ ∃ fault, ruleNames given configured = .error fault := by
    rw [resolveRules, escapes_bind_iff, escapes_mapError_iff (by simp), or_iff_left]
    rintro ⟨names, -, hselect⟩
    split at hselect
    · exact not_escapes_ok _ hselect
    · exact not_escapes_config _ hselect
  rw [hnames]
  cases given with
  | some names => simp [ruleNames]
  | none =>
    cases configured with
    | none => simp [ruleNames]
    | some v =>
      cases v with
      | array items =>
        simp only [ruleNames, map_eq_error_iff, exists_mapM_eq_error_iff, Toml.Value.exists_text_eq_error_iff]
        simp [Field.Astray]
      | _ => simp [ruleNames, Field.Astray]

theorem configuredSeverity_escapes_iff {v : Toml.Value} :
    Escapes (configuredSeverity v) ↔ v.text = .error .tooDeep := by
  unfold configuredSeverity
  split
  case h_1 name htext =>
    rw [htext]
    split <;> simp
  case h_2 htext => simp [htext]
  case h_3 htext => exact ⟨fun _ => htext, fun _ => ⟨_, rfl, nofun⟩⟩

theorem resolveSeverity_escapes_iff {given : Option (Supplied Severity)} {configured : Option Toml.Value} :
    Escapes (resolveSeverity given configured) ↔
      given.isSome = false ∧ ∃ v, configured = some v ∧ Field.least.Astray v := by
  cases given with
  | some least => cases least <;> simp [resolveSeverity]
  | none => cases configured <;> simp [resolveSeverity, configuredSeverity_escapes_iff, Field.Astray]

theorem resolveLogLevel_escapes_iff {given : Option LogLevel} {configured : Option Toml.Value} :
    Escapes (resolveLogLevel given configured) ↔
      given.isSome = false ∧ ∃ v, configured = some v ∧ Field.logLevel.Astray v := by
  cases given with
  | some level => simp [resolveLogLevel]
  | none =>
    cases configured with
    | none => simp [resolveLogLevel]
    | some v =>
      have hwritten : Escapes (resolveLogLevel none (some v)) ↔ ∃ fault, v.text = .error fault := by
        rw [resolveLogLevel, escapes_bind_iff, escapes_mapError_iff (by simp), or_iff_left]
        rintro ⟨written, -, hlevel⟩
        dsimp only at hlevel
        split at hlevel
        · exact not_escapes_ok _ hlevel
        · exact not_escapes_config _ hlevel
      rw [hwritten, Toml.Value.exists_text_eq_error_iff]
      simp [Field.Astray]

theorem exists_ite_eq_error_iff {ε α : Type} {p : Prop} [Decidable p] {a : α} {e : ε} :
    (∃ fault, (if p then Except.ok a else .error e) = .error fault) ↔ ¬p := by
  by_cases h : p <;> simp [h]

theorem exists_configuredLogFile_eq_error_iff {configured : Option Toml.Value} :
    (∃ fault, configuredLogFile configured = .error fault) ↔
      ∃ v, configured = some v ∧ v.isNothing = false ∧ ∀ s, v ≠ .string s := by
  cases configured with
  | none => exact ⟨nofun, nofun⟩
  | some v =>
    cases v with
    | boolean b => cases b <;> simp [configuredLogFile, Toml.Value.isNothing]
    | _ => simp [configuredLogFile, Toml.Value.isNothing, exists_ite_eq_error_iff]

theorem resolveLogFile_escapes_iff {given : Option String} {configured : Option Toml.Value} :
    Escapes ((resolveLogFile given configured).mapError .logFile) ↔
      given.any (!·.isEmpty) = false ∧ ∃ v, configured = some v ∧ Field.logFile.Astray v := by
  rw [escapes_mapError_iff (by simp)]
  cases given with
  | none => simp [resolveLogFile, Field.Astray, exists_configuredLogFile_eq_error_iff]
  | some name =>
    cases hname : name.isEmpty <;>
      simp [resolveLogFile, hname, Field.Astray, exists_configuredLogFile_eq_error_iff]

/-! ## One field after the other -/

namespace Command

/-- What comes of asking for a field: it comes about, or there is a fault. -/
def ask (config : Toml.Table) (c : Command) : Field → Except OptionFault Unit
  | .rules => (resolveRules c.validation.rules (Field.rules.value? config)).map fun _ => ()
  | .least => (resolveSeverity c.validation.least (Field.least.value? config)).map fun _ => ()
  | .logLevel => (resolveLogLevel c.logLevel (Field.logLevel.value? config)).map fun _ => ()
  | .logFile => ((resolveLogFile c.logFile (Field.logFile.value? config)).mapError .logFile).map fun _ => ()

/-- The command comes to ask for the field: those before it come about. -/
def Reaches (config : Toml.Table) (c : Command) (f : Field) : Prop :=
  ∃ before after, c.fields = before ++ f :: after ∧ ∀ g ∈ before, c.ask config g = .ok ()

/-- The command comes to ask for a field about which the command line is silent and the configuration leads astray. -/
def Strays (config : Toml.Table) (c : Command) : Prop :=
  ∃ f, c.Reaches config f ∧ c.settles f = false ∧ ∃ v, f.value? config = some v ∧ f.Astray v

theorem ask_escapes_iff {c : Command} {config : Toml.Table} {f : Field} :
    Escapes (c.ask config f) ↔ c.settles f = false ∧ ∃ v, f.value? config = some v ∧ f.Astray v := by
  cases f with
  | rules => exact escapes_map_iff.trans resolveRules_escapes_iff
  | least => exact escapes_map_iff.trans resolveSeverity_escapes_iff
  | logLevel => exact escapes_map_iff.trans resolveLogLevel_escapes_iff
  | logFile => exact escapes_map_iff.trans resolveLogFile_escapes_iff

/-- **The options of a command come about field by field.** -/
theorem forM_ask (c : Command) (config : Toml.Table) :
    c.fields.forM (c.ask config) = (c.options config).map fun _ => () := by
  cases c with
  | check a =>
    simp only [options, CheckOptions.resolve, fields, List.forM, ask, validation, Field.value?]
    cases resolveRules a.validation.rules ((configSection config "validation").get? "rules") with
    | error fault => rfl
    | ok rules =>
      cases resolveSeverity a.validation.least ((configSection config "validation").get? "min-severity") <;> rfl
  | serve a =>
    simp only [options, ServeOptions.resolve, fields, List.forM, ask, validation, logLevel, logFile, Field.value?]
    cases resolveLogLevel a.logLevel ((configSection config "server").get? "log-level") with
    | error fault => rfl
    | ok level =>
      cases resolveRules a.validation.rules ((configSection config "validation").get? "rules") with
      | error fault => rfl
      | ok rules =>
        cases resolveSeverity a.validation.least ((configSection config "validation").get? "min-severity") with
        | error fault => rfl
        | ok least =>
          cases resolveLogFile a.logFile ((configSection config "server").get? "log-file") <;> rfl

/-- **The user is not told** just when a field that the command comes to ask for leads astray. -/
theorem options_escapes_iff {c : Command} {config : Toml.Table} : Escapes (c.options config) ↔ c.Strays config := by
  have hforM : Escapes (c.options config) ↔ Escapes (c.fields.forM (c.ask config)) := by
    rw [forM_ask, escapes_map_iff]
  rw [hforM]
  constructor
  · rintro ⟨fault, hfault, hstray⟩
    obtain ⟨before, f, after, hfields, hbefore, hf⟩ := forM_eq_error_iff.1 hfault
    exact ⟨f, ⟨before, after, hfields, hbefore⟩, ask_escapes_iff.1 ⟨fault, hf, hstray⟩⟩
  · rintro ⟨f, ⟨before, after, hfields, hbefore⟩, hastray⟩
    obtain ⟨fault, hf, hstray⟩ := ask_escapes_iff.2 hastray
    exact ⟨fault, forM_eq_error_iff.2 ⟨before, f, after, hfields, hbefore, hf⟩, hstray⟩

end Command

/-! ## What the user is told -/

namespace Text

theorem newline_not_mem_hex (n : Nat) : '\n' ∉ Nat.toDigits 16 n := by
  have hdigit : ∀ d < 16, '\n' ≠ Nat.digitChar d := by decide
  induction n using Nat.strongRecOn with
  | ind n ih =>
    rw [Nat.toDigits_eq_if (by omega)]
    split
    case isTrue hlt => simp [hdigit n hlt]
    case isFalse hlt =>
      simp only [List.mem_append, List.mem_singleton, not_or]
      exact ⟨ih (n / 16) (by omega), hdigit (n % 16) (Nat.mod_lt n (by omega))⟩

theorem newline_not_mem_hexPadded (width n : Nat) : '\n' ∉ hexPadded width n := by
  simp [hexPadded, newline_not_mem_hex]

theorem newline_not_mem_escaped {quote : Char} (hquote : quote ≠ '\n') (c : Char) : '\n' ∉ escaped quote c := by
  by_cases hc : c = '\n'
  · subst hc
    simp [escaped, hquote.symm]
  · unfold escaped
    split_ifs <;> simp [Ne.symm hc, newline_not_mem_hexPadded]

/-- **A text between quotes takes one line.** -/
theorem newline_not_mem_quoted (s : Text) : '\n' ∉ quoted s := by
  have hquote : quoteFor s ≠ '\n' := by
    unfold quoteFor
    split <;> decide
  simp [quoted, hquote.symm, newline_not_mem_escaped hquote]

theorem newline_mem_intercalate_iff {sep : Text} (hsep : '\n' ∉ sep) (parts : List Text) :
    '\n' ∈ sep.intercalate parts ↔ ∃ part ∈ parts, '\n' ∈ part := by
  induction parts with
  | nil => simp
  | cons part parts ih =>
    cases parts with
    | nil => simp
    | cons next parts =>
      rw [List.intercalate_cons_cons, List.mem_append, List.mem_append, ih]
      simp [hsep]

end Text

/-- The names that a message shows as they are written. -/
def ConfigError.names : ConfigError → List String
  | .invalid path => [path]
  | .unknownRules cause => cause.names
  | .unknownSeverity _ => []
  | .tooManyDigits => []
  | .invalidLogLevel _ => []

theorem newline_not_mem_quote (s : String) : '\n' ∉ (quote s).toList := by
  rw [quote, String.toList_ofList]
  exact Text.newline_not_mem_quoted s.toList

theorem newline_mem_append_iff {start : String} (hstart : '\n' ∉ start.toList) (rest : String) :
    '\n' ∈ (start ++ rest).toList ↔ '\n' ∈ rest.toList := by
  rw [String.toList_append, List.mem_append, or_iff_right hstart]

/-- **What the user is told takes one line**, unless a name in it takes more. -/
theorem ConfigError.newline_mem_message_iff (e : ConfigError) :
    '\n' ∈ e.message.toList ↔ ∃ name ∈ e.names, '\n' ∈ name.toList := by
  cases e with
  | invalid path =>
    show '\n' ∈ (path ++ ": invalid document").toList ↔ _
    have hrest : '\n' ∉ ": invalid document".toList := by decide
    rw [String.toList_append, List.mem_append, or_iff_left hrest]
    simp [names]
  | unknownRules cause =>
    show '\n' ∈ ("unknown rule(s): " ++ ", ".intercalate cause.names).toList ↔ _
    have hcomma : '\n' ∉ ", ".toList := by decide
    rw [newline_mem_append_iff (by decide), String.toList_intercalate, Text.newline_mem_intercalate_iff hcomma]
    simp [names]
  | unknownSeverity name =>
    show '\n' ∈ ("unknown severity: " ++ quote name).toList ↔ _
    rw [newline_mem_append_iff (by decide)]
    simp [names, newline_not_mem_quote]
  | tooManyDigits => exact ⟨fun h => absurd h (by decide +kernel), nofun⟩
  | invalidLogLevel name =>
    show '\n' ∈ ("invalid log level: " ++ quote name).toList ↔ _
    rw [newline_mem_append_iff (by decide)]
    simp [names, newline_not_mem_quote]

/-! ## The program -/

theorem resolveCommand_eq (disk : Disk) (c : Command) :
    resolveCommand disk c =
      loadConfig disk c.validation.configPath >>= fun config =>
        (c.options config).mapError OptionFault.toResolveError := by
  cases c <;> rfl

/-- What the program makes of the options of a command. -/
theorem runProgram_of_options {disk : Disk} {words : List String} {c : Command} {config : Toml.Table}
    (hread : readCommand words = .ok c) (hload : loadConfig disk c.validation.configPath = .ok config) :
    runProgram disk words =
      match c.options config with
      | .ok o => runCommand disk o
      | .error (.config e) => .ok ⟨2, [], ("error: " ++ e.message ++ "\n").toList, none⟩
      | .error (.unwritable e) => .error (.unwritable e)
      | .error (.logFile e) => .error (.notAPath e) := by
  have hresolve : resolveCommand disk c = (c.options config).mapError OptionFault.toResolveError := by
    rw [resolveCommand_eq, hload]
    rfl
  rw [runProgram, hread]
  simp only [hresolve]
  cases c.options config with
  | ok o => rfl
  | error fault => cases fault <;> rfl

/-- A disk on which every file holds the same text. -/
def Disk.holding (content : String) : Disk := ⟨fun _ => .ok content.toUTF8.toList, fun _ => .ok ()⟩

/-- **Where a wrong configuration is told to the user.** A command gets its options, or the user is told of a fault,
unless it comes to ask for a field about which the command line is silent and the configuration leads astray. The
program then is carried out, or ends with exit code 2 and a message; astray, it does not deal with the fault. -/
theorem options_told_iff (c : Command) (config : Toml.Table) :
    (((∃ o, c.options config = .ok o) ∨ ∃ e, c.options config = .error (.config e)) ↔ ¬c.Strays config) ∧
      ∀ disk words, readCommand words = .ok c → loadConfig disk c.validation.configPath = .ok config →
        (∀ o, c.options config = .ok o → runProgram disk words = runCommand disk o) ∧
        (∀ e, c.options config = .error (.config e) →
          runProgram disk words = .ok ⟨2, [], ("error: " ++ e.message ++ "\n").toList, none⟩ ∧
            ('\n' ∈ e.message.toList ↔ ∃ name ∈ e.names, '\n' ∈ name.toList)) ∧
        (c.Strays config → ∃ fault, c.options config = .error fault ∧ ∃ crash, runProgram disk words = .error crash) := by
  rw [← Command.options_escapes_iff]
  refine ⟨not_escapes_iff.symm, fun disk words hread hload => ?_⟩
  have hrun := runProgram_of_options hread hload
  refine ⟨fun o ho => ?_, fun e he => ⟨?_, e.newline_mem_message_iff⟩, ?_⟩
  · rw [hrun, ho]
  · rw [hrun, he]
  · rintro ⟨fault, hfault, hstray⟩
    refine ⟨fault, hfault, ?_⟩
    rw [hrun, hfault]
    cases fault with
    | config e => exact absurd rfl (hstray e)
    | unwritable e => exact ⟨_, rfl⟩
    | logFile e => exact ⟨_, rfl⟩

/-- A level of the log that there is not is told to the user. -/
theorem options_told_iff_loud :
    let serve : Command := .serve ⟨.unset, false, .value "127.0.0.1", .value 2087, none, none⟩
    let disk : Disk := .holding "[server]\nlog-level = \"loud\"\n"
    readCommand ["serve"] = .ok serve ∧
      ∃ config, loadConfig disk serve.validation.configPath = .ok config ∧
        serve.options config = .error (.config (.invalidLogLevel "loud")) ∧ ¬serve.Strays config ∧
        runProgram disk ["serve"] = .ok ⟨2, [], "error: invalid log level: 'loud'\n".toList, none⟩ := by
  intro serve disk
  have hread : readCommand ["serve"] = .ok serve := by rfl
  have hresolve : resolveCommand disk serve = .error (.config (.invalidLogLevel "loud")) := by decide +kernel
  have hloaded : (loadConfig disk serve.validation.configPath).isOk = true := by decide +kernel
  rw [resolveCommand_eq] at hresolve
  cases hload : loadConfig disk serve.validation.configPath with
  | error e =>
    rw [hload] at hloaded
    cases hloaded
  | ok config =>
    rw [hload] at hresolve
    obtain ⟨fault, hoptions, hfault⟩ := mapError_eq_error_iff.1 hresolve
    cases fault with
    | config e =>
      cases hfault
      obtain ⟨htold, hprogram⟩ := options_told_iff serve config
      obtain ⟨-, hline, -⟩ := hprogram disk ["serve"] hread hload
      exact ⟨hread, config, rfl, hoptions, htold.1 (.inr ⟨_, hoptions⟩), (hline _ hoptions).1⟩
    | unwritable e => cases hfault
    | logFile e => cases hfault

/-- **A log file that is no name** is a fault of which the user is not told: the program does not deal with it. -/
theorem log_file_not_told :
    let serve : Command := .serve ⟨.unset, false, .value "127.0.0.1", .value 2087, none, none⟩
    let config : Toml.Table := [("server", .table [("log-file", .integer 1)])]
    ¬((∃ o, serve.options config = .ok o) ∨ ∃ e, serve.options config = .error (.config e)) ∧
      serve.options config = .error (.logFile .integer) ∧
      runProgram (.holding "[server]\nlog-file = 1\n") ["serve"] = .error (.notAPath .integer) := by
  intro serve config
  have hoptions : serve.options config = .error (.logFile .integer) := by rfl
  refine ⟨?_, hoptions, by decide +kernel⟩
  rw [hoptions]
  rintro (⟨o, ⟨⟩⟩ | ⟨e, ⟨⟩⟩)

end SmaliLint
