import SmaliLint.Line
import SmaliLint.Severity

/-!
# Diagnostics

What a check has to say about a stretch of a text.

* `Token.report`, `Line.report` : a diagnostic on a token, or from the first to the last token of a
  line;
* `alreadyDeclared` : the pair of diagnostics for a thing that is there twice;
* `Diagnostic.sort` : diagnostics in the order of the text.
-/

namespace SmaliLint

/-- A finding: where it is, how serious, and what it says. Further lines of the message are notes. -/
structure Diagnostic where
  span : Span
  severity : Severity
  message : String
  deriving DecidableEq, Repr

/-- A diagnostic that covers the token. -/
def Token.report (t : Token) (severity : Severity) (message : String) : Diagnostic :=
  ⟨t.span, severity, message⟩

/-- A diagnostic that covers the line. -/
def Line.report (l : Line) (severity : Severity) (message : String) : Diagnostic :=
  ⟨l.span, severity, message⟩

/-- A hint at the first of two declarations, and an error at the second. -/
def alreadyDeclared (first second : Line) (entity verb : String) : List Diagnostic :=
  [first.report .hint s!"{entity} {verb} here.", second.report .error s!"{entity} already {verb}."]

namespace Diagnostic

/-- Whether `a` may stand before `b`: it starts earlier, or there and ends no later. -/
def precedes (a b : Diagnostic) : Bool :=
  a.span.start.offset < b.span.start.offset ||
    (a.span.start.offset == b.span.start.offset && a.span.stop.offset ≤ b.span.stop.offset)

/-- The diagnostics by start offset, then by end offset; those with equal offsets keep their order. -/
def sort (ds : List Diagnostic) : List Diagnostic := ds.mergeSort precedes

end Diagnostic

end SmaliLint
