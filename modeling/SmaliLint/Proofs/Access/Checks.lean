import SmaliLint.Validation

/-!
# Validation over plain lists

A `Line` holds a token by its type, and a return type that is known holds the line that says it. Here the same checks
are written down without such types: lines, declarations and return types are lists that could be empty, and whatever
asks a list for an item or a table for an entry fails if it is not there. Slices of a list and the parts of a pair are
always there.

* `Fault` : what a failure says; `item`, `entry` : asking a list and a table;
* `report`, `alreadyDeclared` : diagnostics from the first to the last token of a list;
* `Header`, `Methods`, `Check` : what the checks remember, `step` what a signal does to one, `run` and `Event` the
  record of all of them;
* `Check.Filled` : nothing that a check may ask for its first token is empty;
* `tokenize`, `select`, `trace`, `validate` : from a text and names to diagnostics.
-/

namespace SmaliLint.Access

/-! ## Asking -/

/-- Why there is no answer. -/
inductive Fault where
  | unknownRules (cause : UnknownRules)
  /-- A list has no item at the place asked for. -/
  | noItem
  /-- A table has no entry under the key asked for. -/
  | noKey
  deriving DecidableEq, Repr

def orFault {α : Type} (fault : Fault) : Option α → Except Fault α
  | some x => .ok x
  | none => .error fault

/-- The item at a place of a list. Negative places count from the end, and `-1` is the last. -/
def item {α : Type} (xs : List α) : Int → Except Fault α
  | .ofNat n => orFault .noItem xs[n]?
  | .negSucc n => orFault .noItem xs.reverse[n]?

/-- Whether a table of tokens, kept by what they read, has an entry for a word. -/
def holds (table : List Token) (word : Text) : Bool := table.any (·.content == word)

/-- The entry of a word. -/
def entry (table : List Token) (word : Text) : Except Fault Token :=
  orFault .noKey (table.find? (·.content == word))

/-! ## Diagnostics -/

/-- A diagnostic from the first to the last of some tokens. -/
def report (ts : List Token) (severity : Severity) (message : String) : Except Fault Diagnostic := do
  let first ← item ts 0
  let last ← item ts (-1)
  return ⟨⟨first.span.start, last.span.stop⟩, severity, message⟩

def reportIf (condition : Bool) (ts : List Token) (severity : Severity) (message : String) :
    Except Fault (List Diagnostic) :=
  if condition then do return [← report ts severity message] else .ok []

def alreadyDeclared (first second : List Token) (entity verb : String) : Except Fault (List Diagnostic) := do
  let hint ← report first .hint s!"{entity} {verb} here."
  let refusal ← report second .error s!"{entity} already {verb}."
  return [hint, refusal]

/-! ## The class header -/

def checkClassWords (line : List Token) (visibility : Option Token) (modifiers : List Token) :
    List Token → Except Fault (List Diagnostic)
  | [] => do return [← report line .error "Usage: '.class [visibility] [modifiers] Lclass/Name;'"]
  | t :: ts =>
    match t.kind with
    | .space => checkClassWords line visibility modifiers ts
    | .visibility =>
      match visibility with
      | some first => do
        let found ← alreadyDeclared [first] [t] "Visibility modifier" "defined"
        return found ++ (← checkClassWords line visibility modifiers ts)
      | none => checkClassWords line (some t) modifiers ts
    | .modifier =>
      if t.reads "static" then do
        return t.report .error "Class cannot be defined as static." :: (← checkClassWords line visibility modifiers ts)
      else if holds modifiers t.content then do
        let first ← entry modifiers t.content
        let found ← alreadyDeclared [first] [t] (modifierEntity t) "defined"
        return found ++ (← checkClassWords line visibility modifiers ts)
      else checkClassWords line visibility (modifiers ++ [t]) ts
    | .classType => .ok (unexpectedTokens (ts.filter (·.kind ≠ .space)))
    | _ => do return t.report .error "Class modifier expected." :: (← checkClassWords line visibility modifiers ts)

def checkClassShape (line : List Token) : Except Fault (List Diagnostic) := do
  return checkSpaceAfter (line.drop 1) ++ (← checkClassWords line none [] (line.drop 1))

def checkOperandShape (operand : Operand) (line : List Token) : Except Fault (List Diagnostic) := do
  let directive ← item line 0
  if line.length < 3 then
    let usage := "Usage: '" ++ String.ofList directive.content ++ " " ++ operand.sample ++ "'"
    return [← report line .error usage]
  else
    let space ← item line 1
    let value ← item line 2
    return checkSpaceAfter [space] ++
      (if value.kind = operand.kind then [] else [value.report .error operand.expected]) ++
      unexpectedTokens (line.drop 3)

structure Header where
  top : Option (List Token)
  classLine : Option (List Token)
  superLine : Option (List Token)
  sourceLine : Option (List Token)
  last : Option Token
  blank : Bool
  deriving DecidableEq, Repr

namespace Header

def empty : Header := ⟨none, none, none, none, none, false⟩

def seeToken (h : Header) (t : Token) : Header :=
  { h with
    blank := h.blank || (t.kind = .newline && h.last.any (·.kind = .newline))
    last := if t.kind = .space then h.last else some t }

def fill (place : Option (List Token)) (line : List Token) (entity : String)
    (shape : List Token → Except Fault (List Diagnostic)) : Except Fault (Option (List Token) × List Diagnostic) :=
  match place with
  | some first => do return (some first, ← alreadyDeclared first line entity "declared")
  | none => do return (some line, ← shape line)

def seeDirective (h : Header) (line : List Token) : Except Fault (Header × List Diagnostic) := do
  let first ← item line 0
  match (Line.single first).headerDirective? with
  | none => return (h, [])
  | some .class_ =>
    let r ← fill h.classLine line "Class" checkClassShape
    return ({ h with classLine := r.1 }, r.2)
  | some .super =>
    let r ← fill h.superLine line "Super" (checkOperandShape classOperand)
    return ({ h with superLine := r.1 }, r.2)
  | some .source =>
    let r ← fill h.sourceLine line "Source" (checkOperandShape stringOperand)
    return ({ h with sourceLine := r.1 }, r.2)
  | some .implements => return (h, ← checkOperandShape classOperand line)

def seeLine (h : Header) (line : List Token) : Except Fault (Header × List Diagnostic) := do
  let r ← h.seeDirective line
  return ({ r.1 with top := r.1.top <|> some line }, r.2)

def missing (h : Header) : Except Fault (List Diagnostic) :=
  match h.top with
  | none => .ok []
  | some top => do
    let noClass ← reportIf h.classLine.isNone top .error "Missing class directive."
    let noSuper ← reportIf h.superLine.isNone top .error
      "Missing super directive.\nExtend 'Ljava/lang/Object;' by default."
    return noClass ++ noSuper

end Header

/-! ## Method declarations -/

/-- A return type: no kind if it could not be read, and the tokens that say it. -/
structure ReturnType where
  kind : Option ReturnKind
  tokens : List Token
  deriving DecidableEq, Repr

def ReturnType.unknown : ReturnType := ⟨none, []⟩

def ReturnType.ofTokens (brackets : List Token) (type : Token) : ReturnType :=
  let tokens := brackets ++ [type]
  if !brackets.isEmpty || type.kind = .classType then ⟨some .reference, tokens⟩
  else if type.reads "V" then ⟨some .void, tokens⟩
  else ⟨some .builtin, tokens⟩

structure Declaration where
  found : List Diagnostic
  returnType : ReturnType
  modifiers : List Token
  deriving DecidableEq, Repr

namespace Declaration

def prepend (ds : List Diagnostic) (d : Declaration) : Declaration := { d with found := ds ++ d.found }

/-- The declaration of a line that ends too early. Its last token is told so, unless another token was. -/
def broken (line modifiers : List Token) (flagged : Bool) (message : String) : Except Fault Declaration := do
  if flagged then return ⟨[], .unknown, modifiers⟩
  else return ⟨[(← item line (-1)).report .error message], .unknown, modifiers⟩

def readReturnType (line modifiers brackets : List Token) (flagged : Bool) : List Token → Except Fault Declaration
  | [] => broken line modifiers flagged SmaliLint.Declaration.returnTypeExpected
  | t :: ts =>
    if t.kind = .arrayOp then readReturnType line modifiers (brackets ++ [t]) flagged ts
    else if t.kind = .builtinType ∨ t.kind = .classType then
      .ok ⟨unexpectedTokens (ts.filter (·.kind ≠ .space)), .ofTokens brackets t, modifiers⟩
    else do
      return (← readReturnType line modifiers brackets true ts).prepend
        [t.report .error SmaliLint.Declaration.returnTypeExpected]

def readParameters (line modifiers : List Token) (flagged : Bool) : List Token → Except Fault Declaration
  | [] => broken line modifiers flagged "')' expected."
  | t :: ts =>
    if t.kind = .paren ∧ t.reads ")" then readReturnType line modifiers [] false ts
    else if t.kind = .builtinType ∨ t.kind = .classType ∨ t.kind = .arrayOp then
      readParameters line modifiers flagged ts
    else do return (← readParameters line modifiers true ts).prepend [t.report .error "')' expected."]

def readModifiers (line : List Token) (visibility : Option Token) (modifiers : List Token) (afterSpace : Bool) :
    List Token → Except Fault Declaration
  | [] => do return ⟨[← report line .error "Method name expected."], .unknown, modifiers⟩
  | t :: ts =>
    if t.kind = .space then do
      return (← readModifiers line visibility modifiers true ts).prepend
        (if t.reads " " then [] else [t.report .error "Single space expected."])
    else
      let gap := if afterSpace then [] else [t.report .error "Space expected."]
      match t.kind with
      | .visibility =>
        match visibility with
        | some first => do
          let found ← alreadyDeclared [first] [t] "Visibility modifier" "declared"
          return (← readModifiers line visibility modifiers false ts).prepend (gap ++ found)
        | none => do return (← readModifiers line (some t) modifiers false ts).prepend gap
      | .modifier =>
        if holds modifiers t.content then do
          let first ← entry modifiers t.content
          let found ← alreadyDeclared [first] [t] (modifierEntity t) "declared"
          return (← readModifiers line visibility modifiers false ts).prepend (gap ++ found)
        else do return (← readModifiers line visibility (modifiers ++ [t]) false ts).prepend gap
      | .methodName => do
        return (← readParameters line modifiers false ts).prepend
          (gap ++ SmaliLint.Declaration.checkName modifiers t)
      | _ => do
        return (← readModifiers line visibility modifiers false ts).prepend
          (gap ++ [t.report .error "Method modifier expected."])

def ofLine (line : List Token) : Except Fault Declaration := readModifiers line none [] false (line.drop 1)

def has (d : Declaration) (name : String) : Bool := holds d.modifiers name.toList

end Declaration

/-! ## Method blocks -/

/-- The last block boundary: the start of an open method, or the end of a closed one. -/
structure Method where
  isOpen : Bool
  line : List Token
  returnType : ReturnType
  sawReturn : Bool
  hasBody : Bool
  deriving DecidableEq, Repr

/-- What is left of a method that the given line has ended. -/
def Method.ended (line : List Token) : Method := ⟨false, line, .unknown, false, true⟩

structure Methods where
  current : Option Method
  staticConstructor : Option (List Token)
  instanceConstructor : Option (List Token)
  deriving DecidableEq, Repr

def checkReturn (declared : ReturnType) (t : Token) : Except Fault (List Diagnostic) :=
  match declared.kind with
  | none => .ok [t.report .information "Unable to get return type from method declaration."]
  | some kind =>
    match kind.instruction? with
    | none => .ok []
    | some expected =>
      if t.reads expected then .ok []
      else do
        let hint ← report declared.tokens .hint "Return type declared here."
        return [hint, t.report .error s!"'{expected}' expected."]

namespace Methods

def empty : Methods := ⟨none, none, none⟩

def seeToken (m : Methods) (t : Token) : Except Fault (Methods × List Diagnostic) :=
  match m.current with
  | some method =>
    if t.kind = .ret ∧ method.isOpen then do
      let found ← checkReturn method.returnType t
      return ({ m with current := some { method with sawReturn := true } }, found)
    else .ok (m, [])
  | none => .ok (m, [])

def addConstructor (m : Methods) (line : List Token) (d : Declaration) : Except Fault (Methods × List Diagnostic) :=
  if !d.has "constructor" then .ok (m, [])
  else if d.has "static" then
    match m.staticConstructor with
    | some first => do return (m, ← alreadyDeclared first line "Static constructor" "defined")
    | none => .ok ({ m with staticConstructor := some line }, [])
  else
    match m.instanceConstructor with
    | some first => do return (m, ← alreadyDeclared first line "Constructor" "defined")
    | none => .ok ({ m with instanceConstructor := some line }, [])

/-- What a `.method` line inside a method is told. -/
def nested (method : Method) (line : List Token) : Except Fault (List Diagnostic) := do
  let hint ← report method.line .hint "Method block starts here."
  let refusal ← report line .error "'.method' directive cannot be inside a method block."
  return [hint, refusal]

def openBlock (m : Methods) (line : List Token) : Except Fault (Methods × List Diagnostic) := do
  let d ← Declaration.ofLine line
  let r ← m.addConstructor line d
  let found ←
    match m.current with
    | some method => if method.isOpen then nested method line else .ok (d.found ++ r.2)
    | none => .ok (d.found ++ r.2)
  let hasBody := !d.has "abstract" && !d.has "native"
  return ({ r.1 with current := some ⟨true, line, d.returnType, false, hasBody⟩ }, found)

def closeBlock (m : Methods) (line : List Token) : Except Fault (Methods × List Diagnostic) :=
  match m.current with
  | none => do return (m, [← report line .error SmaliLint.Methods.misplacedEnd])
  | some method =>
    if method.isOpen then do
      let found ← reportIf (method.hasBody && !method.sawReturn) method.line .error
        "No return instruction found in method block."
      return ({ m with current := some (.ended line) }, found)
    else do
      let hint ← report method.line .hint "Method block ends here."
      let refusal ← report line .error SmaliLint.Methods.misplacedEnd
      return (m, [hint, refusal])

def seeLine (m : Methods) (line : List Token) : Except Fault (Methods × List Diagnostic) := do
  let first ← item line 0
  if first.kind ≠ .method then return (m, [])
  else if first.reads ".method" then m.openBlock line
  else m.closeBlock line

end Methods

/-! ## Signals and checks -/

inductive Signal where
  | line (l : List Token)
  | token (t : Token)
  | finish
  deriving DecidableEq, Repr

/-- The line that a buffer holds, if anything is left of it. -/
def finished (buffer : List Token) : Option (List Token) :=
  let line := trim buffer
  if line.isEmpty then none else some line

def signalsFrom (buffer : List Token) : List Token → List Signal
  | [] => ((finished buffer).map Signal.line).toList ++ [.finish]
  | t :: ts =>
    if t.kind = .newline then ((finished buffer).map Signal.line).toList ++ .token t :: signalsFrom [] ts
    else .token t :: signalsFrom (buffer ++ [t]) ts

def signals (ts : List Token) : List Signal := signalsFrom [] ts

inductive Check where
  | header (state : Header)
  | method (state : Methods)
  deriving DecidableEq, Repr

def Check.ofRule : Rule → Check
  | .header => .header .empty
  | .method => .method .empty

def Check.step : Check → Signal → Except Fault (Check × List Diagnostic)
  | .header h, .line l => do let r ← h.seeLine l; return (.header r.1, r.2)
  | .header h, .token t => .ok (.header (h.seeToken t), [])
  | .header h, .finish => do return (.header h, ← h.missing)
  | .method m, .line l => do let r ← m.seeLine l; return (.method r.1, r.2)
  | .method m, .token t => do let r ← m.seeToken t; return (.method r.1, r.2)
  | .method m, .finish => .ok (.method m, [])

structure Event where
  signal : Signal
  check : Check
  found : List Diagnostic
  deriving DecidableEq, Repr

def Check.event (s : Signal) (c : Check) : Except Fault Event := do
  let r ← c.step s
  return ⟨s, r.1, r.2⟩

def run (checks : List Check) : List Signal → Except Fault (List Event)
  | [] => .ok []
  | s :: ss => do
    let events ← checks.mapM (Check.event s)
    return events ++ (← run (events.map (·.check)) ss)

/-! ## What must not be empty -/

/-- No line kept is empty. -/
structure Header.Filled (h : Header) : Prop where
  top : ∀ l ∈ h.top, l ≠ []
  classLine : ∀ l ∈ h.classLine, l ≠ []
  superLine : ∀ l ∈ h.superLine, l ≠ []
  sourceLine : ∀ l ∈ h.sourceLine, l ≠ []

/-- No line kept is empty, and neither are the tokens of a return type that could be read. -/
structure Methods.Filled (m : Methods) : Prop where
  line : ∀ method ∈ m.current, method.line ≠ []
  returnType : ∀ method ∈ m.current, method.returnType.kind ≠ none → method.returnType.tokens ≠ []
  staticConstructor : ∀ l ∈ m.staticConstructor, l ≠ []
  instanceConstructor : ∀ l ∈ m.instanceConstructor, l ≠ []

def Check.Filled : Check → Prop
  | .header h => h.Filled
  | .method m => m.Filled

def Signal.Filled : Signal → Prop
  | .line l => l ≠ []
  | _ => True

/-! ## Texts -/

/-- The binary search, which asks for the entry in the middle. -/
def firstAfter (starts : List Nat) (o lo hi : Nat) : Except Fault Nat :=
  if lo < hi then do
    let mid := (lo + hi) / 2
    if o < (← item starts mid) then firstAfter starts o lo mid else firstAfter starts o (mid + 1) hi
  else .ok lo
termination_by hi - lo

def position (x : LineIndex) (offset : Int) : Except Fault Position := do
  let o := min offset.toNat x.size
  let line : Int := (← firstAfter x.starts.toList o 0 x.starts.size) - 1
  return ⟨line, o - (← item x.starts.toList line), o⟩

def place (x : LineIndex) (n : Nat) : List Lexeme → Except Fault (List Token)
  | [] => .ok []
  | l :: ls => do
    let m := n + l.content.length
    let span : Span := ⟨← position x n, ← position x m⟩
    return ⟨l.kind, l.content, span⟩ :: (← place x m ls)

def tokenize (s : Text) : Except Fault (List Token) := place (.ofText s) 0 (lexemes s)

/-- The rule that is registered under a name. -/
def ruleOf (name : String) : Except Fault Rule := orFault .noKey (Rule.ofName? name)

def select : Option (List String) → Except Fault (List Rule)
  | none => (Rule.all.map Rule.name).mapM ruleOf
  | some names =>
    let unknown := names.filter (· ∉ Rule.all.map Rule.name)
    if unknown.isEmpty then names.mapM ruleOf else .error (.unknownRules ⟨unknown⟩)

def trace (rules : List Rule) (ts : List Token) : Except Fault (List Event) :=
  run (rules.map Check.ofRule) (signals ts)

def validate (source : Text) (names : Option (List String)) : Except Fault (List Diagnostic) := do
  let ts ← tokenize source
  let rules ← select names
  return (← trace rules ts).flatMap (·.found)

end SmaliLint.Access
