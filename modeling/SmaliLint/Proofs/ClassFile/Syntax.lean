import SmaliLint.Method
import SmaliLint.Proofs.Lexer.Words
import SmaliLint.Proofs.Validation.LineEndings

/-!
# Well-formed class files

A class file as it should be written: a header, and methods that return what they declare. Each part carries what makes
it well formed, and has the text that it is written as.

* `ClassName`, `TypeName`, `AccessFlags` : the parts of declarations;
* `MethodHead`, `ReturnLine`, `OtherLine`, `MethodBlock` : a method;
* `ClassFile`, `ClassFile.lines` : a file, and its lines.
-/

namespace SmaliLint
open Vocabulary (nameChar)

/-! ## Names and types -/

/-- The name of a class, without the `L` and the semicolon around it. -/
structure ClassName where
  path : Text
  valid : ∀ c ∈ path, nameChar "$_-./" c = true

def ClassName.text (n : ClassName) : Text := 'L' :: (n.path ++ [';'])

/-- A type that is no array. -/
inductive BaseType where
  | builtin (letter : Char) (known : letter ∈ typeLetters.toList)
  | named (name : ClassName)

def BaseType.text : BaseType → Text
  | .builtin letter _ => [letter]
  | .named name => name.text

/-- A type with so many brackets before it. -/
structure TypeName where
  brackets : Nat
  base : BaseType

namespace TypeName

def text (t : TypeName) : Text := List.replicate t.brackets '[' ++ t.base.text

/-- What a method of this type returns. -/
def returnKind (t : TypeName) : ReturnKind :=
  match t.brackets, t.base with
  | 0, .builtin letter _ => if letter = 'V' then .void else .builtin
  | _, _ => .reference

end TypeName

/-! ## Visibility and modifiers -/

/-- At most one visibility, and modifiers that all differ. -/
structure AccessFlags where
  visibility : Option String
  modifiers : List String
  visible : ∀ w ∈ visibility, w ∈ Vocabulary.visibilities
  known : ∀ w ∈ modifiers, w ∈ Vocabulary.modifiers
  distinct : modifiers.Nodup

namespace AccessFlags

def words (f : AccessFlags) : List String := f.visibility.toList ++ f.modifiers

/-- Every word after a single space. -/
def text (f : AccessFlags) : Text := f.words.flatMap fun w => ' ' :: w.toList

end AccessFlags

/-! ## Methods -/

structure MethodHead where
  flags : AccessFlags
  name : Text
  parameters : List TypeName
  returnType : TypeName
  nonempty : name ≠ []
  valid : ∀ c ∈ name, nameChar "$<>_" c = true
  /-- Constructors have names of their own, which nothing else has. -/
  named : if "constructor" ∈ flags.modifiers then
      name = (if "static" ∈ flags.modifiers then "<clinit>" else "<init>").toList
    else name ≠ "<init>".toList ∧ name ≠ "<clinit>".toList

namespace MethodHead

def text (h : MethodHead) : Text :=
  ".method".toList ++ (h.flags.text ++ ' ' :: (h.name ++ ['('] ++ (h.parameters.flatMap TypeName.text ++
    ')' :: h.returnType.text)))

/-- Whether it declares a constructor, static or not. -/
def declaresConstructor (static : Bool) (h : MethodHead) : Bool :=
  h.flags.modifiers.contains "constructor" && h.flags.modifiers.contains "static" == static

end MethodHead

/-- The return instructions that a type allows. -/
def ReturnKind.mnemonics : ReturnKind → List String
  | .void => ["return-void"]
  | .reference => ["return-object"]
  | .builtin => ["return", "return-void", "return-object", "return-wide"]

/-- No return instruction stands in the text. -/
def Text.ReturnFree (s : Text) : Prop := ∀ t ∈ tokenize s, t.kind ≠ .ret

/-- An indented return instruction that the type allows, with its operands. -/
structure ReturnLine (kind : ReturnKind) (s : Text) : Prop where
  exists_parts : ∃ indent mnemonic operands, s = indent ++ (String.toList mnemonic ++ operands) ∧
    (∀ c ∈ indent, c = ' ' ∨ c = '\t') ∧ mnemonic ∈ kind.mnemonics ∧
    (∀ c, operands.head? = some c → c = ' ' ∨ c = '\t') ∧ operands.Plain ∧ operands.ReturnFree

/-- A line of a body that is no return: it holds none, and what it starts with has no meaning to methods and headers. -/
structure OtherLine (s : Text) : Prop where
  plain : s.Plain
  returnFree : s.ReturnFree
  neutral : ∀ t, (tokenize s).find? (fun t => t.kind ≠ .space ∧ t.kind ≠ .comment) = some t →
    t.kind ≠ .method ∧ (Line.single t).headerDirective? = none

structure MethodBlock where
  head : MethodHead
  body : List Text
  wellFormed : ∀ s ∈ body, ReturnLine head.returnType.returnKind s ∨ OtherLine s
  returns : "abstract" ∉ head.flags.modifiers → "native" ∉ head.flags.modifiers →
    ∃ s ∈ body, ReturnLine head.returnType.returnKind s

def MethodBlock.lines (m : MethodBlock) : List Text := m.head.text :: (m.body ++ [".end method".toList])

/-! ## Files -/

structure ClassFile where
  flags : AccessFlags
  name : ClassName
  superName : ClassName
  source : Option Text
  interfaces : List ClassName
  methods : List MethodBlock
  notStatic : "static" ∉ flags.modifiers
  sourceValid : ∀ s ∈ source, ∀ c ∈ s, c ∉ "\"\\\r\n".toList
  constructors : ∀ static, (methods.filter (·.head.declaresConstructor static)).length ≤ 1

namespace ClassFile

def classText (f : ClassFile) : Text := ".class".toList ++ (f.flags.text ++ ' ' :: f.name.text)

def sourceText (s : Text) : Text := ".source".toList ++ ' ' :: '"' :: (s ++ ['"'])

def headerLines (f : ClassFile) : List Text :=
  f.classText :: (".super".toList ++ ' ' :: f.superName.text) ::
    (f.source.toList.map sourceText ++ f.interfaces.map fun n => ".implements".toList ++ ' ' :: n.text)

def lines (f : ClassFile) : List Text := f.headerLines ++ f.methods.flatMap MethodBlock.lines

end ClassFile

end SmaliLint
