import SmaliLint.Text.Basic

/-!
# Positions

A position is a line, a column in it and an offset into the text, all counted from zero. Lines end
at line feeds, and the offset counts characters. Positions that come from outside may be anything,
so the three numbers are integers. Editors count columns in code points, in 16-bit units or in bytes.

* `Position`, `Span` : a place in a text, and a stretch of it;
* `Units.width u c` : how many units a character takes; `Units.measure` : how many a text takes;
* `Position.ofOffset u s o` : the position of an offset, which is first brought inside the text;
* `offsetAt? u s line column` : the offset of a position. A column inside a character or past its
  line is rounded down to the nearest offset, and a line past the last one is the end of the text.
  A negative line counts from the end, so there is no answer only before the first line.
-/

namespace SmaliLint

/-- A place in a text. -/
structure Position where
  line : Int
  column : Int
  offset : Int
  deriving DecidableEq, Repr

/-- A stretch of a text, up to but not including `stop`. -/
structure Span where
  start : Position
  stop : Position
  deriving DecidableEq, Repr

/-! ## Column units -/

/-- What columns count. -/
inductive Units where
  /-- Bytes of UTF-8. -/
  | utf8
  /-- 16-bit units of UTF-16. -/
  | utf16
  /-- Code points. -/
  | utf32
  deriving DecidableEq, Repr

namespace Units

/-- The number of units of a character. -/
def width : Units → Char → Nat
  | .utf8, c => c.utf8Size
  | .utf16, c => if c.toNat > 0xffff then 2 else 1
  | .utf32, _ => 1

/-- The number of units of a text. -/
def measure (u : Units) : Text → Nat
  | [] => 0
  | c :: s => u.width c + measure u s

/-- How many characters of `s` lie entirely within its first `column` units. -/
def fit (u : Units) (column : Int) : Text → Nat
  | [] => 0
  | c :: s => if u.width c ≤ column then fit u (column - u.width c) s + 1 else 0

end Units

namespace Text

/-- An offset brought inside the text. -/
def clampOffset (s : Text) (offset : Int) : Nat := min offset.toNat s.length

/-- The part of a text after its last line feed. -/
def lastLine (s : Text) : Text := (s.reverse.takeWhile (· ≠ '\n')).reverse

end Text

/-- The position of an offset: the line is the number of line feeds before it, and the column
measures what stands between the last of them and the offset. -/
def Position.ofOffset (u : Units) (s : Text) (offset : Int) : Position :=
  let before := s.take (s.clampOffset offset)
  ⟨before.count '\n', u.measure (Text.lastLine before), before.length⟩

/-- The number of the line that `line` stands for among `count` lines; a negative one counts from
the end. -/
def lineNumber? (count : Nat) (line : Int) : Option Nat :=
  if 0 ≤ line then some line.toNat
  else if 0 ≤ line + count then some (line + count).toNat
  else none

/-- The offset at which a line starts, given the lines: those before it and their line feeds. -/
def startOfLine : List Text → Nat → Nat
  | _, 0 => 0
  | [], _ => 0
  | line :: lines, n + 1 => line.length + 1 + startOfLine lines n

/-- The offset of a position. -/
def offsetAt? (u : Units) (s : Text) (line column : Int) : Option Nat :=
  let lines := s.lines
  (lineNumber? lines.length line).map fun n =>
    match lines[n]? with
    | none => s.length
    | some target => startOfLine lines n + u.fit column target

/-- The same stretch with its columns measured in `u`. Code points are what a span has already. -/
def Span.remeasure (u : Units) (s : Text) (span : Span) : Span :=
  match u with
  | .utf32 => span
  | u => ⟨.ofOffset u s span.start.offset, .ofOffset u s span.stop.offset⟩

end SmaliLint
