import SmaliLint.Pattern
import SmaliLint.Text.Characters
import SmaliLint.Token

/-!
# The vocabulary of smali

The words the language knows, and for every kind of token the pattern of the texts that are one.

* `visibilities`, `modifiers`, `directives`, `methodDirectives`, `fieldDirectives` : the words by
  their use;
* `instructions` : the mnemonics offered to somebody typing one;
* `tokenRules` : the patterns, in the order in which they are preferred.
-/

namespace SmaliLint.Vocabulary
open Pattern

/-! ## Words -/

def visibilities : List String := ["public", "private", "protected"]

def modifiers : List String :=
  ["static", "constructor", "final", "synthetic", "abstract", "native", "synchronized",
    "declared-synchronized", "bridge", "varargs", "transient", "volatile", "interface", "enum",
    "annotation", "strictfp"]

/-- The words that may follow a full stop, other than those of methods and fields. -/
def directives : List String :=
  ["class", "super", "source", "implements", "locals", "local", "end local", "restart local",
    "registers", "line", "prologue", "epilogue", "goto", "param", "end param", "annotation",
    "end annotation", "subannotation", "end subannotation", "enum", "catch", "catchall",
    "packed-switch", "end packed-switch", "sparse-switch", "end sparse-switch", "array-data",
    "end array-data"]

def methodDirectives : List String := ["method", "end method"]

def fieldDirectives : List String := ["field", "end field"]

def instructions : List String :=
  ["invoke-direct", "invoke-static", "invoke-virtual", "invoke-interface", "invoke-super",
    "check-cast", "new-instance", "const-string", "const/4", "const/16", "const", "const-class",
    "if-eq", "if-ne", "if-lt", "if-ge", "if-gt", "if-le", "if-eqz", "if-nez", "iget",
    "iget-object", "sget", "sget-object", "iput", "iput-object", "sput", "sput-object", "move",
    "move-result", "move-result-object", "return", "return-void", "return-object", "return-wide"]

/-! ## Characters -/

/-- An ASCII letter or digit, or one of the characters of `extra`. -/
def nameChar (extra : String) (c : Char) : Bool := c.isAlphanum || extra.toList.contains c

def hexDigit (c : Char) : Bool :=
  c.isDigit || ('a' ≤ c && c ≤ 'f') || ('A' ≤ c && c ≤ 'F')

/-! ## Patterns -/

/-- Puts a word before the first of the words that is no longer. -/
def insertByLength (w : String) : List String → List String
  | [] => [w]
  | v :: vs => if v.length ≤ w.length then w :: v :: vs else v :: insertByLength w vs

/-- The words by falling length; those of the same length keep their order. -/
def longestFirst (ws : List String) : List String := ws.foldr insertByLength []

/-- Any of the words, of which one may begin with another: longer ones are tried first. -/
def keyword (ws : List String) : Pattern := oneOf (longestFirst ws)

/-- A full stop and one of the words. -/
def dotted (ws : List String) : Pattern := .seq (word ".") (keyword ws)

/-- A hyphen and one of the words, or nothing. -/
def hyphenated (ws : List String) : Pattern := maybe (.seq (word "-") (oneOf ws))

/-- A field access: its mnemonic, with or without the type of the field. -/
def fieldAccess (mnemonic : String) : Pattern :=
  .seq (word mnemonic)
    (hyphenated ["object", "string", "wide", "boolean", "byte", "char", "short"])

/-- Between double quotes: any character but a quote, a backslash or a line end, or a backslash and
any character but a line feed. -/
def quoted : Pattern :=
  all [word "\"",
    .star (.alt (.char fun c => !"\"\\\r\n".toList.contains c)
      (.seq (word "\\") (.char (· != '\n')))),
    word "\""]

/-- `0x` and hexadecimal digits, or decimal digits of any script. -/
def digits : Pattern :=
  .alt (.seq (word "0x") (plus (.char hexDigit))) (plus (.char Text.isDecimalDigit))

/-- Digits, with or without a minus sign. -/
def numeral : Pattern := .seq (optional ["-"]) digits

/-- Moves: what is moved, then the width of the register numbers. -/
def moveForms : Pattern :=
  all [word "move",
    maybe (.alt (.seq (word "-result") (optional ["-object", "-wide"]))
      (oneOf ["-object", "-wide", "-exception"])),
    optional ["/from16", "/16"]]

/-- A kind of token and the pattern of its texts. -/
structure TokenRule where
  kind : TokenKind
  pattern : Pattern

/-- The pattern of every kind of token. Of two that match equally much, the earlier one counts. -/
def tokenRules : List TokenRule :=
  [⟨.newline, .seq (optional ["\r"]) (word "\n")⟩,
    ⟨.comment, .seq (word "#") (.star (.char fun c => c != '\r' && c != '\n'))⟩,
    ⟨.visibility, keyword visibilities⟩,
    ⟨.modifier, keyword modifiers⟩,
    ⟨.space, plus (anyOf " \t")⟩,
    ⟨.classType, all [word "L", .star (.char (nameChar "$_-./")), word ";"]⟩,
    ⟨.register, .seq (anyOf "pv") (plus (.char Text.isDecimalDigit))⟩,
    ⟨.method, dotted methodDirectives⟩,
    ⟨.field, dotted fieldDirectives⟩,
    ⟨.label, .seq (word ":") (plus (.char (nameChar "_")))⟩,
    ⟨.directive, dotted directives⟩,
    ⟨.invoke, all [word "invoke-", oneOf ["direct", "static", "virtual", "interface", "super"],
      optional ["/range"]]⟩,
    ⟨.checkCast, word "check-cast"⟩,
    ⟨.newInstance, word "new-instance"⟩,
    ⟨.constString, .seq (word "const-string") (optional ["/jumbo"])⟩,
    ⟨.constInt, .seq (word "const/") (oneOf ["4", "16", "high16"])⟩,
    ⟨.const, .seq (word "const") (optional ["-class"])⟩,
    ⟨.branch, all [word "if-", oneOf ["lt", "le", "gt", "ge", "eq", "ne"], optional ["z"]]⟩,
    ⟨.instanceGet, fieldAccess "iget"⟩,
    ⟨.staticGet, fieldAccess "sget"⟩,
    ⟨.instancePut, fieldAccess "iput"⟩,
    ⟨.staticPut, fieldAccess "sput"⟩,
    ⟨.move, moveForms⟩,
    ⟨.ret, .seq (word "return") (hyphenated ["void", "object", "wide"])⟩,
    ⟨.string, quoted⟩,
    ⟨.number, numeral⟩,
    ⟨.placeholder, all [word "\x7b\x7b", .star (.char (nameChar "_/")), word "\x7d\x7d"]⟩,
    ⟨.brace, anyOf "\x7b\x7d"⟩,
    ⟨.paren, anyOf "()"⟩,
    ⟨.builtinType, anyOf "VZBSCIJFD"⟩,
    ⟨.methodCall, all [word "->", plus (.char (nameChar "$<>_")), word "("]⟩,
    ⟨.methodName, .seq (plus (.char (nameChar "$<>_"))) (word "(")⟩,
    ⟨.fieldName, .seq (plus (.char (nameChar "$_"))) (word ":")⟩,
    ⟨.arrayOp, word "["⟩,
    ⟨.rangeOp, word ".."⟩,
    ⟨.commaOp, word ","⟩]

theorem tokenRules_not_nullable : ∀ r ∈ tokenRules, r.pattern.nullable = false := by decide

end SmaliLint.Vocabulary
