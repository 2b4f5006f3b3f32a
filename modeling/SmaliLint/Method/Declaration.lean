import SmaliLint.Header

/-!
# Method declarations

The line `.method <modifiers> name(<parameters>)<return type>`, read from left to right. Each part
has its own expectations, and the reading goes on after a token that does not meet them.

* `ReturnType` : what a declaration says a method returns;
* `Declaration` : what is read off a declaration;
* `Declaration.ofLine` : the reading.
-/

namespace SmaliLint

/-- What kind of value a method returns. -/
inductive ReturnKind where
  | void
  | builtin
  /-- A class or an array. -/
  | reference
  deriving DecidableEq, Repr

/-- What a declaration says a method returns, with the tokens that say it. -/
inductive ReturnType where
  /-- The declaration could not be read that far. -/
  | unknown
  | known (kind : ReturnKind) (written : Line)
  deriving DecidableEq, Repr

/-- The return type written as array brackets and a type. -/
def ReturnType.ofTokens (brackets : List Token) (type : Token) : ReturnType :=
  match brackets with
  | b :: bs => .known .reference ⟨b, bs ++ [type]⟩
  | [] =>
    if type.kind = .classType then .known .reference (.single type)
    else if type.reads "V" then .known .void (.single type)
    else .known .builtin (.single type)

/-- What is read off the declaration of a method. -/
structure Declaration where
  found : List Diagnostic
  returnType : ReturnType
  /-- The modifiers, each the first of its name. -/
  modifiers : List Token
  deriving DecidableEq, Repr

namespace Declaration

/-- Whether a modifier of the given name is there. -/
def has (d : Declaration) (name : String) : Bool := d.modifiers.any (·.reads name)

/-- The declaration with further diagnostics in front. -/
def prepend (ds : List Diagnostic) (d : Declaration) : Declaration :=
  { d with found := ds ++ d.found }

def returnTypeExpected : String := "Return type expected.\n'V' for void."

/-- Reads the return type, after the brackets already read. The end of the line is reported on its
last token, unless another token was. -/
def readReturnType (last : Token) (modifiers brackets : List Token) (flagged : Bool) :
    List Token → Declaration
  | [] =>
    ⟨if flagged then [] else [last.report .error returnTypeExpected], .unknown, modifiers⟩
  | t :: ts =>
    if t.kind = .arrayOp then readReturnType last modifiers (brackets ++ [t]) flagged ts
    else if t.kind = .builtinType ∨ t.kind = .classType then
      ⟨unexpectedTokens (ts.filter (·.kind ≠ .space)), .ofTokens brackets t, modifiers⟩
    else
      (readReturnType last modifiers brackets true ts).prepend [t.report .error returnTypeExpected]

/-- Reads the parameters up to the closing parenthesis. -/
def readParameters (last : Token) (modifiers : List Token) (flagged : Bool) :
    List Token → Declaration
  | [] => ⟨if flagged then [] else [last.report .error "')' expected."], .unknown, modifiers⟩
  | t :: ts =>
    if t.kind = .paren ∧ t.reads ")" then readReturnType last modifiers [] false ts
    else if t.kind = .builtinType ∨ t.kind = .classType ∨ t.kind = .arrayOp then
      readParameters last modifiers flagged ts
    else (readParameters last modifiers true ts).prepend [t.report .error "')' expected."]

/-- A constructor is named `<clinit>` if it is static and `<init>` if it is not, and nothing else is
named so. The name token ends in the opening parenthesis. -/
def checkName (modifiers : List Token) (nameToken : Token) : List Diagnostic :=
  let name := Text.dropSuffix '(' nameToken.content
  match modifiers.find? (·.reads "constructor"), modifiers.find? (·.reads "static") with
  | some constructor, some static =>
    if name = "<clinit>".toList then []
    else
      [constructor.report .hint "Constructor modifier declared here.",
        static.report .hint "Static modifier declared here.",
        nameToken.report .error "Static constructor must be named '<clinit>'."]
  | some constructor, none =>
    if name = "<init>".toList then []
    else
      [constructor.report .hint "Constructor modifier declared here.",
        nameToken.report .error "Non-static constructor must be named '<init>'."]
  | none, _ =>
    if name = "<init>".toList then
      [nameToken.report .error "'<init>' is reserved for non-static constructors."]
    else if name = "<clinit>".toList then
      [nameToken.report .error "'<clinit>' is reserved for static constructors."]
    else []

/-- Reads visibility and modifiers, each after a single space, up to the name. -/
def readModifiers (line : Line) (visibility : Option Token) (modifiers : List Token)
    (afterSpace : Bool) : List Token → Declaration
  | [] => ⟨[line.report .error "Method name expected."], .unknown, modifiers⟩
  | t :: ts =>
    if t.kind = .space then
      (readModifiers line visibility modifiers true ts).prepend
        (if t.reads " " then [] else [t.report .error "Single space expected."])
    else
      let gap := if afterSpace then [] else [t.report .error "Space expected."]
      match t.kind with
      | .visibility =>
        match visibility with
        | some first =>
          (readModifiers line visibility modifiers false ts).prepend
            (gap ++ alreadyDeclared (.single first) (.single t) "Visibility modifier" "declared")
        | none => (readModifiers line (some t) modifiers false ts).prepend gap
      | .modifier =>
        match sameWord? modifiers t with
        | some first =>
          (readModifiers line visibility modifiers false ts).prepend
            (gap ++ alreadyDeclared (.single first) (.single t) (modifierEntity t) "declared")
        | none => (readModifiers line visibility (modifiers ++ [t]) false ts).prepend gap
      | .methodName =>
        (readParameters line.last modifiers false ts).prepend (gap ++ checkName modifiers t)
      | _ =>
        (readModifiers line visibility modifiers false ts).prepend
          (gap ++ [t.report .error "Method modifier expected."])

/-- Reads the tokens of a line after `.method`. -/
def ofLine (line : Line) : Declaration := readModifiers line none [] false line.tail

end Declaration

end SmaliLint
