import SmaliLint.Method.Declaration

/-!
# Method blocks

A method is a block from `.method` to `.end method`. Blocks do not nest, every block with a body
returns something of its declared type, and a class has at most one constructor of each kind.

* `Block` : where in the blocks of a file a line stands;
* `Methods` : that, and the constructors seen so far;
* `Methods.seeToken`, `Methods.seeLine` : what a token or a line adds.
-/

namespace SmaliLint

/-- The method whose block is open. -/
structure Method where
  line : Line
  returnType : ReturnType
  sawReturn : Bool
  hasBody : Bool
  deriving DecidableEq, Repr

/-- Where a line stands. -/
inductive Block where
  /-- Before the first method. -/
  | before
  /-- Inside a method. -/
  | inside (method : Method)
  /-- After a method that the given line has ended. -/
  | after (line : Line)
  deriving DecidableEq, Repr

/-- What is remembered about the methods of a file. -/
structure Methods where
  block : Block
  staticConstructor : Option Line
  instanceConstructor : Option Line
  deriving DecidableEq, Repr

/-! ## Returns -/

/-- The return instruction that a type asks for, if there is one only. -/
def ReturnKind.instruction? : ReturnKind → Option String
  | .void => some "return-void"
  | .reference => some "return-object"
  | .builtin => none

/-- A return instruction against the declared type. -/
def checkReturn (declared : ReturnType) (t : Token) : List Diagnostic :=
  match declared with
  | .unknown => [t.report .information "Unable to get return type from method declaration."]
  | .known kind written =>
    match kind.instruction? with
    | none => []
    | some expected =>
      if t.reads expected then []
      else
        [written.report .hint "Return type declared here.",
          t.report .error s!"'{expected}' expected."]

namespace Methods

def empty : Methods := ⟨.before, none, none⟩

/-- A return instruction is checked against the method it stands in. -/
def seeToken (m : Methods) (t : Token) : Methods × List Diagnostic :=
  match m.block with
  | .inside method =>
    if t.kind = .ret then
      ({ m with block := .inside { method with sawReturn := true } },
        checkReturn method.returnType t)
    else (m, [])
  | _ => (m, [])

/-! ## Block boundaries -/

/-- A constructor takes the place for its kind, or is refused if the place is taken. -/
def addConstructor (m : Methods) (line : Line) (d : Declaration) : Methods × List Diagnostic :=
  if !d.has "constructor" then (m, [])
  else if d.has "static" then
    match m.staticConstructor with
    | some first => (m, alreadyDeclared first line "Static constructor" "defined")
    | none => ({ m with staticConstructor := some line }, [])
  else
    match m.instanceConstructor with
    | some first => (m, alreadyDeclared first line "Constructor" "defined")
    | none => ({ m with instanceConstructor := some line }, [])

/-- A `.method` line. Inside another method only that is reported. -/
def openBlock (m : Methods) (line : Line) : Methods × List Diagnostic :=
  let d := Declaration.ofLine line
  let r := m.addConstructor line d
  let found :=
    match m.block with
    | .inside method =>
      [method.line.report .hint "Method block starts here.",
        line.report .error "'.method' directive cannot be inside a method block."]
    | _ => d.found ++ r.2
  let hasBody := !d.has "abstract" && !d.has "native"
  ({ r.1 with block := .inside ⟨line, d.returnType, false, hasBody⟩ }, found)

/-- What an `.end method` line outside a method is told. -/
def misplacedEnd : String := "'.end method' directive must be at the end of a method block."

/-- An `.end method` line. -/
def closeBlock (m : Methods) (line : Line) : Methods × List Diagnostic :=
  match m.block with
  | .before => (m, [line.report .error misplacedEnd])
  | .after ended =>
    (m, [ended.report .hint "Method block ends here.", line.report .error misplacedEnd])
  | .inside method =>
    ({ m with block := .after line },
      if method.hasBody && !method.sawReturn then
        [method.line.report .error "No return instruction found in method block."]
      else [])

/-- A line that starts with a method directive opens or closes a block. -/
def seeLine (m : Methods) (line : Line) : Methods × List Diagnostic :=
  if line.head.kind ≠ .method then (m, [])
  else if line.head.reads ".method" then m.openBlock line
  else m.closeBlock line

end Methods

end SmaliLint
