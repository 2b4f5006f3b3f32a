import SmaliLint.Token

/-!
# Logical lines

A logical line is what is left of the tokens between two newlines without comments and without the
spaces at both ends, if anything is left.

* `Line` : at least one token;
* `trim ts` : the tokens of `ts` that belong to a line;
* `LineAssembler` : takes tokens one by one and hands out a line at every newline (`feed`), or when
  asked to (`flush`).
-/

namespace SmaliLint

/-- A logical line, or a part of one: a first token and those after it. -/
structure Line where
  head : Token
  tail : List Token
  deriving DecidableEq, Repr

namespace Line

def toList (l : Line) : List Token := l.head :: l.tail

/-- The line of the given tokens, if there are any. -/
def ofList? : List Token → Option Line
  | [] => none
  | t :: ts => some ⟨t, ts⟩

/-- The line of one token. -/
def single (t : Token) : Line := ⟨t, []⟩

/-- The last token. -/
def last (l : Line) : Token := l.tail.getLastD l.head

/-- From the start of the first token to the end of the last. -/
def span (l : Line) : Span := ⟨l.head.span.start, l.last.span.stop⟩

end Line

/-! ## Trimming -/

/-- The tokens that follow one already kept. Spaces are held back until another token is kept. -/
def trimAfter (held : List Token) : List Token → List Token
  | [] => []
  | t :: ts =>
    if t.kind = .comment then trimAfter held ts
    else if t.kind = .space then trimAfter (held ++ [t]) ts
    else held ++ t :: trimAfter [] ts

/-- The tokens without comments and without spaces at the beginning and at the end. -/
def trim : List Token → List Token
  | [] => []
  | t :: ts =>
    if t.kind = .comment ∨ t.kind = .space then trim ts else t :: trimAfter [] ts

/-! ## Assembling -/

/-- The tokens since the last line was handed out. -/
structure LineAssembler where
  buffer : Array Token
  deriving DecidableEq, Repr

namespace LineAssembler

def empty : LineAssembler := ⟨#[]⟩

/-- Ends the line here: it is handed out if it holds anything. -/
def flush (a : LineAssembler) : LineAssembler × Option Line :=
  (empty, Line.ofList? (trim a.buffer.toList))

/-- Takes a token; a newline ends the line. -/
def feed (a : LineAssembler) (t : Token) : LineAssembler × Option Line :=
  if t.kind = .newline then a.flush else (⟨a.buffer.push t⟩, none)

end LineAssembler

end SmaliLint
