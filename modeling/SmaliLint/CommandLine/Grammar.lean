import SmaliLint.Text.Characters
import SmaliLint.Text.Quoted

/-!
# Command lines

A program is told what to do by options, which start with a hyphen and may stand anywhere, and by
operands. This module reads a command line by a grammar; what an option means for the settings `σ`
of the program is part of the grammar.

* `Grammar` : the options of a program and the operands it takes;
* `Argument`, `Grammar.classify` : what each word of a command line is, found before anything is
  acted upon;
* `Grammar.read` : the settings, and the words that nobody asked for;
* `Exit` : why the program ends without doing its work.

An option may be shortened as long as it stays the only one meant. A value follows its option, or an
equals sign in the same word; the value `--` after an equals sign means no value at all. Everything
after the word `--` is an operand.
-/

namespace SmaliLint.CommandLine

/-- Why the program ends right after reading the command line. -/
inductive Exit where
  /-- The command line makes no sense to the named program. -/
  | usage (program message : String)
  /-- The user asked how to use the named program. -/
  | help (program : String)
  /-- The user asked for the version. -/
  | version
  deriving DecidableEq, Repr

/-- What an option does. -/
inductive Action (σ : Type) where
  /-- Changes the settings. -/
  | flag (apply : σ → σ)
  /-- Changes the settings by a value, or says what is wrong with it. The value may be left out. -/
  | value (apply : Option String → σ → Except String σ)
  /-- Ends the program. -/
  | stop (exit : Exit)

/-- An option by its names. -/
structure OptionSpec (σ : Type) where
  names : List String
  action : Action σ

/-- The operands of a program. -/
inductive Operands (σ : Type) where
  | none
  /-- One or more, all together. -/
  | some (label : String) (apply : List String → σ → σ)
  /-- A word and everything after it, options included. -/
  | command (label : String) (apply : String → List String → σ → Except Exit σ)

/-- How the command line of a program is made up. -/
structure Grammar (σ : Type) where
  program : String
  options : List (OptionSpec σ)
  operands : Operands σ

/-! ## Words -/

/-- A value written in the same word as its option. -/
inductive Inline where
  | none
  /-- After an equals sign. -/
  | given (value : String)
  /-- Behind the letter of a short option. -/
  | attached (value : String)
  deriving DecidableEq, Repr

/-- What a word of the command line is. -/
inductive Shape (σ : Type) where
  | operand
  /-- The word `--`, the first time. -/
  | separator
  /-- An option, perhaps one that the grammar does not know. -/
  | option (spec : Option (OptionSpec σ)) (inline : Inline)

/-- A word of the command line. -/
structure Argument (σ : Type) where
  word : String
  shape : Shape σ

/-- Whether a word is a negative number, which is no option: a hyphen and digits, with or without a
decimal point. One line feed may stand behind it. -/
def isNegativeNumber (s : Text) : Bool :=
  match Text.dropSuffix '\n' s with
  | '-' :: t =>
    match t.dropWhile Text.isDecimalDigit with
    | [] => !t.isEmpty
    | '.' :: u => !u.isEmpty && u.all Text.isDecimalDigit
    | _ => false
  | _ => false

/-- The text before the first equals sign, and the text after it if there is one. -/
def splitAtEquals (s : Text) : Text × Option Text :=
  match s.dropWhile (· ≠ '=') with
  | _ :: v => (s.takeWhile (· ≠ '='), some v)
  | [] => (s, none)

namespace Grammar
variable {σ : Type}

/-- Every name of every option, in order. -/
def names (g : Grammar σ) : List (String × OptionSpec σ) :=
  g.options.flatMap fun o => o.names.map (·, o)

/-- The names a word may be short for, with the value in the same word. -/
def shortened (g : Grammar σ) (s : Text) : List (String × OptionSpec σ × Inline) :=
  if "--".toList.isPrefixOf s then
    let r := splitAtEquals s
    let inline := match r.2 with
      | some v => Inline.given (String.ofList v)
      | none => .none
    g.names.filterMap fun (name, o) =>
      if r.1.isPrefixOf name.toList then some (name, o, inline) else none
  else
    g.names.filterMap fun (name, o) =>
      if name.toList = s.take 2 then some (name, o, .attached (String.ofList (s.drop 2)))
      else if s.isPrefixOf name.toList then some (name, o, .none)
      else none

/-- The option that is spelled out in a word, with a value after an equals sign if it has one. -/
def spelledOut? (g : Grammar σ) (word : String) : Option (OptionSpec σ × Inline) :=
  match g.names.lookup word with
  | some o => some (o, .none)
  | none =>
    match splitAtEquals word.toList with
    | (name, some v) =>
      let value := String.ofList v
      let inline := if name.length = 2 ∧ v ≠ [] then Inline.attached value else .given value
      (g.names.lookup (String.ofList name)).map (·, inline)
    | (_, none) => none

/-- The letters behind a short option from the first on that is no short option itself. -/
def afterLetters (g : Grammar σ) (s : Text) : Text :=
  s.dropWhile fun c => (g.names.lookup (String.ofList ['-', c])).isSome

/-- What a word before `--` is. -/
def shapeOf (g : Grammar σ) (word : String) : Except Exit (Shape σ) :=
  match word.toList with
  | '-' :: c :: s =>
    match g.spelledOut? word with
    | some (o, inline) => .ok (.option (some o) inline)
    | none =>
      match g.shortened ('-' :: c :: s) with
      | [] =>
        if isNegativeNumber ('-' :: c :: s) || word.toList.contains ' ' then .ok .operand
        else .ok (.option none .none)
      | [(_, o, inline)] => .ok (.option (some o) inline)
      | candidates =>
        .error (.usage g.program ("ambiguous option: " ++ word ++ " could match " ++
          ", ".intercalate (candidates.map (·.1))))
  | _ => .ok .operand

/-- What the words of a command line are. -/
def classify (g : Grammar σ) : List String → Except Exit (List (Argument σ))
  | [] => .ok []
  | word :: rest =>
    if word = "--" then .ok (⟨word, .separator⟩ :: rest.map (⟨·, .operand⟩))
    else do return ⟨word, ← g.shapeOf word⟩ :: (← g.classify rest)

/-! ## Reading -/

/-- How far the reading has come. -/
structure Progress (σ : Type) where
  settings : σ
  /-- Whether the operands have been taken. -/
  taken : Bool
  /-- The words since the last option. -/
  waiting : List String
  /-- Whether one of them is an operand. -/
  hasOperand : Bool
  /-- The words that nobody asked for. -/
  extras : List String

/-- Takes the waiting words as the operands, or puts them aside. -/
def settle (g : Grammar σ) (p : Progress σ) : Progress σ :=
  match g.operands with
  | .some _ apply =>
    if !p.taken && p.hasOperand then
      { p with
        settings := apply (p.waiting.erase "--") p.settings
        taken := true
        waiting := []
        hasOperand := false }
    else { p with extras := p.extras ++ p.waiting, waiting := [], hasOperand := false }
  | _ => { p with extras := p.extras ++ p.waiting, waiting := [], hasOperand := false }

/-- An error about an option. -/
def refuse {α : Type} (g : Grammar σ) (o : OptionSpec σ) (message : String) : Except Exit α :=
  .error (.usage g.program ("argument " ++ "/".intercalate o.names ++ ": " ++ message))

/-- An option does not take the value it was given. -/
def ignored {α : Type} (g : Grammar σ) (o : OptionSpec σ) (value : String) : Except Exit α :=
  g.refuse o ("ignored explicit argument " ++ String.ofList (Text.quoted value.toList))

/-- The settings after an option with its value. -/
def applyValue (g : Grammar σ) (o : OptionSpec σ) (apply : Option String → σ → Except String σ)
    (value : String) (p : Progress σ) : Except Exit (Progress σ) :=
  match apply (if value = "--" then none else some value) p.settings with
  | .ok settings => .ok { p with settings := settings }
  | .error message => g.refuse o message

/-- Reads the words from left to right. -/
def readFrom (g : Grammar σ) (p : Progress σ) : List (Argument σ) → Except Exit (Progress σ)
  | [] => .ok (g.settle p)
  | ⟨word, .separator⟩ :: rest => g.readFrom { p with waiting := p.waiting ++ [word] } rest
  | ⟨word, .operand⟩ :: rest =>
    match g.operands with
    | .command _ apply => do
      let rest := rest.map (·.word)
      let settings ←
        match p.waiting with
        | [] => apply word rest p.settings
        | first :: more => apply first (more ++ word :: rest) p.settings
      return { p with settings := settings, taken := true, waiting := [] }
    | _ => g.readFrom { p with waiting := p.waiting ++ [word], hasOperand := true } rest
  | ⟨word, .option none _⟩ :: rest =>
    let p := g.settle p
    g.readFrom { p with extras := p.extras ++ [word] } rest
  | ⟨_, .option (some o) inline⟩ :: rest =>
    let p := g.settle p
    match o.action, inline with
    | .flag apply, .none => g.readFrom { p with settings := apply p.settings } rest
    | .flag _, .given v => g.ignored o v
    | .flag _, .attached v => g.ignored o v
    | .stop exit, .none => .error exit
    | .stop _, .given v => g.ignored o v
    | .stop exit, .attached v =>
      match g.afterLetters v.toList with
      | [] => .error exit
      | rest => g.ignored o (String.ofList rest)
    | .value apply, .given v => do g.readFrom (← g.applyValue o apply v p) rest
    | .value apply, .attached v => do g.readFrom (← g.applyValue o apply v p) rest
    | .value apply, .none =>
      match rest with
      | ⟨v, .operand⟩ :: rest => do g.readFrom (← g.applyValue o apply v p) rest
      | _ => g.refuse o "expected one argument"

/-- The settings that a command line makes of `initial`, and the words that nobody asked for. -/
def read (g : Grammar σ) (initial : σ) (words : List String) : Except Exit (σ × List String) := do
  let p ← g.readFrom ⟨initial, false, [], false, []⟩ (← g.classify words)
  let missing (label : String) : Except Exit (σ × List String) :=
    .error (.usage g.program ("the following arguments are required: " ++ label))
  match g.operands with
  | .none => return (p.settings, p.extras)
  | .some label _ => if p.taken then return (p.settings, p.extras) else missing label
  | .command label _ => if p.taken then return (p.settings, p.extras) else missing label

end Grammar

end SmaliLint.CommandLine
