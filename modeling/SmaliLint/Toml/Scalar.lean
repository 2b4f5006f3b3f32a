import SmaliLint.Toml.Number

/-!
# TOML keys and strings

Readers for keys and strings, and for what stands between the parts of a document. Each takes the
text from where the part starts, and gives what it read and the text after it, or nothing if the text
is no valid part.

* `readKey` : a key, which may be dotted;
* `readString`, `readLiteral` and their forms over several lines;
* `skipBlanks`, `skipComment`, `skipGap` : what may stand between the parts.
-/

namespace SmaliLint.Toml

/-! ## Between the parts -/

def isBlank (c : Char) : Bool := c = ' ' || c = '\t'

def isControl (c : Char) : Bool := c.toNat < 0x20 || c.toNat = 0x7f

/-- Whether a character may not stand in a comment or a string on one line. -/
def isIllegal (c : Char) : Bool := isControl c && c != '\t'

def skipBlanks (s : Text) : Text := s.dropWhile isBlank

/-- The text after a comment, if one starts here. A comment ends before the line feed. -/
def skipComment : Text → Option Text
  | '#' :: s => if (s.takeWhile (· ≠ '\n')).any isIllegal then none else some (s.dropWhile (· ≠ '\n'))
  | s => some s

/-- The text after any number of blanks, line ends and comments. The number bounds the comments. -/
def skipGapUpTo : Nat → Text → Option Text
  | 0, s => some s
  | n + 1, s =>
    match s.dropWhile fun c => isBlank c || c = '\n' with
    | '#' :: t => (skipComment ('#' :: t)).bind (skipGapUpTo n)
    | t => some t

/-- The text after any number of blanks, line ends and comments. -/
def skipGap (s : Text) : Option Text := skipGapUpTo (s.length + 1) s

/-! ## Strings -/

/-- The character of the given number of hexadecimal digits, which must be one. -/
def readCodePoint (count : Nat) (s : Text) : Option (Char × Text) := do
  let digits ← (s.take count).mapM hexValue?
  let n := digits.foldl (fun n d => n * 16 + d) 0
  if digits.length = count ∧ n.isValidChar then some (Char.ofNat n, s.drop count) else none

/-- The character that an escape stands for, from after its backslash. -/
def readEscape : Text → Option (Char × Text)
  | 'b' :: s => some ('\x08', s)
  | 't' :: s => some ('\t', s)
  | 'n' :: s => some ('\n', s)
  | 'f' :: s => some ('\x0c', s)
  | 'r' :: s => some ('\r', s)
  | '"' :: s => some ('"', s)
  | '\\' :: s => some ('\\', s)
  | 'u' :: s => readCodePoint 4 s
  | 'U' :: s => readCodePoint 8 s
  | _ => none

/-- The rest of a string up to its closing quote. The number bounds its length. -/
def readStringUpTo : Nat → Text → Option (Text × Text)
  | 0, _ => none
  | _ + 1, [] => none
  | _ + 1, '"' :: s => some ([], s)
  | n + 1, '\\' :: s => do
    let (c, s) ← readEscape s
    let (t, s) ← readStringUpTo n s
    return (c :: t, s)
  | n + 1, c :: s =>
    if isIllegal c then none else (readStringUpTo n s).map fun r => (c :: r.1, r.2)

/-- A string on one line, from after its opening quote. -/
def readString (s : Text) : Option (Text × Text) := readStringUpTo (s.length + 1) s

/-- A literal string on one line, from after its opening quote. -/
def readLiteral (s : Text) : Option (Text × Text) :=
  let body := s.takeWhile (· ≠ '\'')
  match s.dropWhile (· ≠ '\'') with
  | _ :: rest => if body.any isIllegal then none else some (body, rest)
  | [] => none

/-- The text after a line feed that stands right behind the opening quotes. -/
def skipFirstNewline : Text → Text
  | '\n' :: s => s
  | s => s

/-- Up to two further quotes behind the closing ones, which still belong to the string. -/
def readFinalQuotes (quote : Char) (body : Text) : Text → Text × Text
  | a :: b :: s =>
    if a = quote then
      if b = quote then (body ++ [quote, quote], s) else (body ++ [quote], b :: s)
    else (body, a :: b :: s)
  | [a] => if a = quote then (body ++ [quote], []) else (body, [a])
  | [] => (body, [])

/-- The text after a backslash that ends a line: all blanks and line ends that follow it. -/
def skipLineEnd (s : Text) : Option Text :=
  match skipBlanks s with
  | '\n' :: t => some (t.dropWhile fun c => isBlank c || c = '\n')
  | _ => none

/-- The rest of a string over several lines. The number bounds its length. -/
def readLongStringUpTo : Nat → Text → Option (Text × Text)
  | 0, _ => none
  | _ + 1, [] => none
  | _ + 1, '"' :: '"' :: '"' :: s => some ([], s)
  | n + 1, '\\' :: s =>
    match skipLineEnd s with
    | some s => readLongStringUpTo n s
    | none => do
      let (c, s) ← readEscape s
      let (t, s) ← readLongStringUpTo n s
      return (c :: t, s)
  | n + 1, c :: s =>
    if isIllegal c && c != '\n' then none
    else (readLongStringUpTo n s).map fun r => (c :: r.1, r.2)

/-- A string over several lines, from after its opening quotes. -/
def readLongString (s : Text) : Option (Text × Text) :=
  (readLongStringUpTo (s.length + 1) (skipFirstNewline s)).map fun r => readFinalQuotes '"' r.1 r.2

/-- The text up to three single quotes, and the text after them. -/
def untilQuotes : Text → Option (Text × Text)
  | [] => none
  | '\'' :: '\'' :: '\'' :: s => some ([], s)
  | c :: s =>
    if isIllegal c && c != '\n' then none else (untilQuotes s).map fun r => (c :: r.1, r.2)

/-- A literal string over several lines, from after its opening quotes. -/
def readLongLiteral (s : Text) : Option (Text × Text) :=
  (untilQuotes (skipFirstNewline s)).map fun r => readFinalQuotes '\'' r.1 r.2

/-! ## Keys -/

def isBareKeyChar (c : Char) : Bool := c.isAlphanum || c = '-' || c = '_'

/-- One part of a key: a bare word or a string. -/
def readKeyPart : Text → Option (String × Text)
  | '"' :: s => (readString s).map fun r => (String.ofList r.1, r.2)
  | '\'' :: s => (readLiteral s).map fun r => (String.ofList r.1, r.2)
  | s =>
    match s.takeWhile isBareKeyChar with
    | [] => none
    | w => some (String.ofList w, s.dropWhile isBareKeyChar)

/-- The parts of a key; the number bounds how many there are. -/
def readKeyUpTo : Nat → Text → Option (List String × Text)
  | 0, _ => none
  | n + 1, s => do
    let (part, s) ← readKeyPart s
    match skipBlanks s with
    | '.' :: s => (readKeyUpTo n (skipBlanks s)).map fun r => (part :: r.1, r.2)
    | s => return ([part], s)

/-- A key and the blanks after it. It has at least one part. -/
def readKey (s : Text) : Option (List String × Text) := readKeyUpTo (s.length + 1) s

end SmaliLint.Toml
