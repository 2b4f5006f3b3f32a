import SmaliLint.Position
import SmaliLint.Text.Quoted

/-!
# Encodings by name

A client names the encoding its columns count in. A name that is not known does no harm as long as
there is nothing to measure.

* `Encoding.positionOf`, `Encoding.offsetOf`, `Encoding.remeasure` : the conversions of `Units`
  under a named encoding;
* `PositionError` : why one of them has no answer.
-/

namespace SmaliLint

/-- An encoding as a client names it. -/
inductive Encoding where
  | known (units : Units)
  | unknown (name : String)
  deriving DecidableEq, Repr

/-- Why a conversion has no answer. -/
inductive PositionError where
  /-- The line lies before the first one. -/
  | noSuchLine (line : Int)
  /-- Something was to be measured in an encoding that is not known. -/
  | unknownEncoding (name : String)
  deriving DecidableEq, Repr

/-- What a client is told. A line that is no 64-bit number has a message of its own. -/
def PositionError.message : PositionError → String
  | .noSuchLine line =>
    if line < -9223372036854775808 then "cannot fit 'int' into an index-sized integer"
    else "list index out of range"
  | .unknownEncoding name => "unknown position encoding: " ++ quote name

namespace Encoding

/-- The encoding of the given name. -/
def ofName (name : String) : Encoding :=
  if name = "utf-8" then .known .utf8
  else if name = "utf-16" then .known .utf16
  else if name = "utf-32" then .known .utf32
  else .unknown name

/-- The position of an offset. -/
def positionOf (e : Encoding) (s : Text) (offset : Int) : Except PositionError Position :=
  match e with
  | .known u => .ok (.ofOffset u s offset)
  | .unknown name =>
    let p := Position.ofOffset .utf32 s offset
    if p.column = 0 then .ok p else .error (.unknownEncoding name)

/-- The offset of a position. -/
def offsetOf (e : Encoding) (s : Text) (line column : Int) : Except PositionError Nat :=
  match e with
  | .known u =>
    match offsetAt? u s line column with
    | some o => .ok o
    | none => .error (.noSuchLine line)
  | .unknown name =>
    match lineNumber? s.lines.length line with
    | none => .error (.noSuchLine line)
    | some n =>
      match s.lines[n]? with
      | none => .ok s.length
      | some [] => .ok (startOfLine s.lines n)
      | some (_ :: _) => .error (.unknownEncoding name)

/-- The same stretch with its columns measured in another encoding. -/
def remeasure (e : Encoding) (s : Text) (span : Span) : Except PositionError Span :=
  match e with
  | .known u => .ok (span.remeasure u s)
  | .unknown _ => do
    return ⟨← e.positionOf s span.start.offset, ← e.positionOf s span.stop.offset⟩

end Encoding

end SmaliLint
