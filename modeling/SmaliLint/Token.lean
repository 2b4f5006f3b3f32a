import SmaliLint.Position

/-!
# Tokens

The kinds of token that smali text is made of, and a token as a kind, the text it covers and where
that text stands.
-/

namespace SmaliLint

/-- What a token is. -/
inductive TokenKind where
  | newline
  | comment
  | visibility
  | modifier
  | space
  /-- A class type such as `Ljava/lang/Object;`. -/
  | classType
  | register
  /-- `.method` or `.end method`. -/
  | method
  /-- `.field` or `.end field`. -/
  | field
  | label
  /-- Any other word that starts with a full stop. -/
  | directive
  | invoke
  | checkCast
  | newInstance
  | constString
  | constInt
  | const
  | branch
  | instanceGet
  | staticGet
  | instancePut
  | staticPut
  | move
  | ret
  | string
  | number
  /-- A name between double braces, to be filled in by another tool. -/
  | placeholder
  | brace
  | paren
  | builtinType
  /-- An arrow, a name and an opening parenthesis. -/
  | methodCall
  /-- A name and an opening parenthesis. -/
  | methodName
  /-- A name and a colon. -/
  | fieldName
  | arrayOp
  | rangeOp
  | commaOp
  /-- A character that starts no other token. -/
  | error
  deriving DecidableEq, Repr

/-- The name of a kind in listings. -/
def TokenKind.name : TokenKind → String
  | .newline => "NEWLINE"
  | .comment => "COMMENT"
  | .visibility => "VISIBILITY"
  | .modifier => "MODIFIER"
  | .space => "SPACE"
  | .classType => "CLASS"
  | .register => "REGISTER"
  | .method => "METHOD"
  | .field => "FIELD"
  | .label => "LABEL"
  | .directive => "DIRECTIVE"
  | .invoke => "INVOKE"
  | .checkCast => "CHECK_CAST"
  | .newInstance => "NEW_INSTANCE"
  | .constString => "CONST_STRING"
  | .constInt => "CONST_INT"
  | .const => "CONST"
  | .branch => "IF"
  | .instanceGet => "IGET"
  | .staticGet => "SGET"
  | .instancePut => "IPUT"
  | .staticPut => "SPUT"
  | .move => "MOVE"
  | .ret => "RETURN"
  | .string => "STRING"
  | .number => "NUMBER"
  | .placeholder => "MACRO"
  | .brace => "BRACE"
  | .paren => "PAREN"
  | .builtinType => "BUILTIN_TYPE"
  | .methodCall => "METHOD_CALL"
  | .methodName => "METHOD_NAME"
  | .fieldName => "FIELD_NAME"
  | .arrayOp => "ARRAY_OP"
  | .rangeOp => "RANGE_OP"
  | .commaOp => "COMMA_OP"
  | .error => "ERROR"

/-- A piece of a text, its kind and its place. -/
structure Token where
  kind : TokenKind
  content : Text
  span : Span
  deriving DecidableEq, Repr

/-- Whether the token reads `word`. -/
def Token.reads (t : Token) (word : String) : Bool := t.content == word.toList

end SmaliLint
