import SmaliLint.Diagnostic

/-!
# The class header

A file declares its class with `.class`, names the class it extends with `.super`, may name its
source file with `.source` and any number of interfaces with `.implements`. The first three stand at
most once, the first two must be there, and each has a fixed shape.

* `Header` : the header lines seen so far;
* `Header.seeLine`, `Header.seeToken` : what a line or a token adds to it;
* `Header.missing` : what is found lacking at the end;
* `checkClassShape`, `checkOperandShape` : the shape of a single line.
-/

namespace SmaliLint

/-! ## The shape of a header line -/

/-- Tokens where the line should have ended. -/
def unexpectedTokens (ts : List Token) : List Diagnostic :=
  ts.map (·.report .error "New line expected.")

/-- The first token after a directive should be a space. -/
def checkSpaceAfter : List Token → List Diagnostic
  | [] => []
  | t :: _ => if t.kind = .space then [] else [t.report .error "Space expected."]

/-- A modifier's name as the first word of a sentence. Modifiers are ASCII words. -/
def capitalized : Text → Text
  | [] => []
  | c :: s => c.toUpper :: s.map Char.toLower

/-- What a message calls a modifier. -/
def modifierEntity (t : Token) : String := String.ofList (capitalized t.content) ++ " modifier"

/-- The token of `ts` that reads like `t`. -/
def sameWord? (ts : List Token) (t : Token) : Option Token := ts.find? (·.content == t.content)

/-- The words between `.class` and the name of the class, given the visibility and the modifiers
already seen. -/
def checkClassWords (line : Line) (visibility : Option Token) (modifiers : List Token) :
    List Token → List Diagnostic
  | [] => [line.report .error "Usage: '.class [visibility] [modifiers] Lclass/Name;'"]
  | t :: ts =>
    match t.kind with
    | .space => checkClassWords line visibility modifiers ts
    | .visibility =>
      match visibility with
      | some first =>
        alreadyDeclared (.single first) (.single t) "Visibility modifier" "defined" ++
          checkClassWords line visibility modifiers ts
      | none => checkClassWords line (some t) modifiers ts
    | .modifier =>
      if t.reads "static" then
        t.report .error "Class cannot be defined as static." ::
          checkClassWords line visibility modifiers ts
      else
        match sameWord? modifiers t with
        | some first =>
          alreadyDeclared (.single first) (.single t) (modifierEntity t) "defined" ++
            checkClassWords line visibility modifiers ts
        | none => checkClassWords line visibility (modifiers ++ [t]) ts
    | .classType => unexpectedTokens (ts.filter (·.kind ≠ .space))
    | _ =>
      t.report .error "Class modifier expected." :: checkClassWords line visibility modifiers ts

/-- `.class`, a space, a visibility and modifiers in any order, and the name of the class. -/
def checkClassShape (line : Line) : List Diagnostic :=
  checkSpaceAfter line.tail ++ checkClassWords line none [] line.tail

/-- What a directive with one operand expects. -/
structure Operand where
  kind : TokenKind
  /-- The operand in a usage message. -/
  sample : String
  /-- What an operand of another kind is told. -/
  expected : String

def classOperand : Operand := ⟨.classType, "Lclass/Name;", "Class expected."⟩

def stringOperand : Operand := ⟨.string, "\"FileName\"", "String expected."⟩

/-- A directive, a space and its operand. -/
def checkOperandShape (operand : Operand) (line : Line) : List Diagnostic :=
  match line.tail with
  | space :: value :: rest =>
    checkSpaceAfter [space] ++
      (if value.kind = operand.kind then [] else [value.report .error operand.expected]) ++
      unexpectedTokens rest
  | _ =>
    let directive := String.ofList line.head.content
    [line.report .error ("Usage: '" ++ directive ++ " " ++ operand.sample ++ "'")]

/-! ## The header of a file -/

/-- The directives of a class header. -/
inductive HeaderDirective where
  | class_
  | super
  | source
  | implements
  deriving DecidableEq, Repr

/-- The header directive that a line starts with. -/
def Line.headerDirective? (l : Line) : Option HeaderDirective :=
  if l.head.kind ≠ .directive then none
  else if l.head.reads ".class" then some .class_
  else if l.head.reads ".super" then some .super
  else if l.head.reads ".source" then some .source
  else if l.head.reads ".implements" then some .implements
  else none

/-- The header lines seen so far, each the first of its kind. -/
structure Header where
  /-- The first line of any kind. -/
  top : Option Line
  classLine : Option Line
  superLine : Option Line
  sourceLine : Option Line
  /-- The last token that is no space. -/
  last : Option Token
  /-- Whether two newlines have stood next to each other. -/
  blank : Bool
  deriving DecidableEq, Repr

namespace Header

def empty : Header := ⟨none, none, none, none, none, false⟩

/-- Keeps track of newlines. -/
def seeToken (h : Header) (t : Token) : Header :=
  { h with
    blank := h.blank || (t.kind = .newline && h.last.any (·.kind = .newline))
    last := if t.kind = .space then h.last else some t }

/-- A line whose directive may stand once: it fills an empty place once its shape is checked, and is
refused when the place is taken. -/
def fill (place : Option Line) (line : Line) (entity : String) (shape : Line → List Diagnostic) :
    Option Line × List Diagnostic :=
  match place with
  | some first => (some first, alreadyDeclared first line entity "declared")
  | none => (some line, shape line)

/-- Checks a line by its directive and remembers it. -/
def seeDirective (h : Header) (line : Line) : Header × List Diagnostic :=
  match line.headerDirective? with
  | none => (h, [])
  | some .class_ =>
    let r := fill h.classLine line "Class" checkClassShape
    ({ h with classLine := r.1 }, r.2)
  | some .super =>
    let r := fill h.superLine line "Super" (checkOperandShape classOperand)
    ({ h with superLine := r.1 }, r.2)
  | some .source =>
    let r := fill h.sourceLine line "Source" (checkOperandShape stringOperand)
    ({ h with sourceLine := r.1 }, r.2)
  | some .implements => (h, checkOperandShape classOperand line)

/-- Checks a line, and remembers it if it is the first of all. -/
def seeLine (h : Header) (line : Line) : Header × List Diagnostic :=
  let r := h.seeDirective line
  ({ r.1 with top := r.1.top <|> some line }, r.2)

/-- The directives that a text with any line at all should have had. -/
def missing (h : Header) : List Diagnostic :=
  match h.top with
  | none => []
  | some top =>
    (if h.classLine.isNone then [top.report .error "Missing class directive."] else []) ++
      (if h.superLine.isNone then
        [top.report .error "Missing super directive.\nExtend 'Ljava/lang/Object;' by default."]
      else [])

end Header

end SmaliLint
