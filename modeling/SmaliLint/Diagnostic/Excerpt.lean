import SmaliLint.Diagnostic
import SmaliLint.Text.Integer

/-!
# Excerpts

A diagnostic as text: the headline, the place, the line of the source it starts on with carets under
the stretch it covers, and a note for every further line of the message.

* `Diagnostic.excerpt` : that text;
* `Diagnostic.boundedExcerpt` : the same for a diagnostic from outside, whose place may be anything.
-/

namespace SmaliLint

/-- The word in front of a headline. -/
def Severity.label : Severity → String
  | .error => "error"
  | .warning => "warning"
  | .information => "info"
  | .hint => "hint"

/-- The line of the given number without the carriage return at its end; empty if there is none. -/
def Text.shownLine (source : Text) (line : Int) : Text :=
  if line < 0 then [] else Text.dropSuffix '\r' (source.lines.getD line.toNat [])

namespace Diagnostic

/-- How many carets stand under `shown`: the whole stretch if it ends on the line it starts on, and
otherwise the rest of the line. There is always at least one. -/
def caretCount (d : Diagnostic) (shown : Text) : Nat :=
  let start := d.span.start
  let stop := d.span.stop
  if stop.line = start.line then max 1 (stop.column - start.column).toNat
  else max 1 ((shown.length : Int) - start.column).toNat

/-- The rows of the excerpt of a diagnostic in a source of the given name. -/
def rows (d : Diagnostic) (source : Text) (filename : String) : List Text :=
  let start := d.span.start
  let shown := source.shownLine start.line
  let number := Text.ofInt (start.line + 1)
  let gutter := Text.spaces (number.length + 1)
  let message := Text.pieces '\n' d.message.toList
  [d.severity.label.toList ++ ": ".toList ++ message.1,
    gutter ++ "--> ".toList ++ filename.toList ++ ':' :: number ++
      ':' :: Text.ofInt (start.column + 1),
    gutter ++ ['|'],
    number ++ " | ".toList ++ shown,
    gutter ++ "| ".toList ++ Text.spaces start.column.toNat ++
      List.replicate (d.caretCount shown) '^'] ++
  message.2.map fun note => gutter ++ "= note: ".toList ++ note

/-- The excerpt of a diagnostic. -/
def excerpt (d : Diagnostic) (source : Text) (filename : String) : Text :=
  Text.join ['\n'] (d.rows source filename)

end Diagnostic

/-! ## Limits -/

/-- Why an excerpt cannot be written. -/
inductive ExcerptFault where
  /-- The length of a run of one character is no 64-bit number. -/
  | uncountable
  /-- There is no room for a run of one character. -/
  | noRoom
  /-- The number of the line has too many digits. -/
  | tooManyDigits
  deriving DecidableEq, Repr

def ExcerptFault.message : ExcerptFault → String
  | .uncountable => "cannot fit 'int' into an index-sized integer"
  | .noRoom => ""
  | .tooManyDigits => Text.digitLimitMessage none

/-- The longest run there is room for. -/
def maxRun : Int := 2147483647

/-- Refuses a length that no run can have. -/
def checkRun (length : Int) : Except ExcerptFault Unit :=
  if length < -9223372036854775808 ∨ 9223372036854775807 < length then .error .uncountable
  else if maxRun < length then .error .noRoom
  else .ok ()

/-- The excerpt of a diagnostic, unless the spaces before its carets or the carets are too many, or
the number of its line is too long. -/
def Diagnostic.boundedExcerpt (d : Diagnostic) (source : Text) (filename : String) :
    Except ExcerptFault Text := do
  checkRun d.span.start.column
  checkRun (d.caretCount (source.shownLine d.span.start.line))
  if (Text.boundedOfInt? (d.span.start.line + 1)).isNone then throw .tooManyDigits
  return d.excerpt source filename

end SmaliLint
