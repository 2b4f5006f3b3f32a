import SmaliLint.Text.Characters

/-!
# Severities

How serious a finding is. The rank is the number an editor knows it by: 1 is the most serious.
-/

namespace SmaliLint

inductive Severity where
  | error
  | warning
  | information
  | hint
  deriving DecidableEq, Repr

namespace Severity

/-- All severities, the most serious first. -/
def all : List Severity := [.error, .warning, .information, .hint]

def rank : Severity → Nat
  | .error => 1
  | .warning => 2
  | .information => 3
  | .hint => 4

/-- The name in capitals. -/
def name : Severity → String
  | .error => "ERROR"
  | .warning => "WARNING"
  | .information => "INFORMATION"
  | .hint => "HINT"

/-- The name as a word of the command line. -/
def word : Severity → String
  | .error => "error"
  | .warning => "warning"
  | .information => "information"
  | .hint => "hint"

/-- Whether a finding of this severity is reported when `least` is the least serious one wanted. -/
def reaches (s least : Severity) : Bool := s.rank ≤ least.rank

/-- The capital that a letter of a name stands for. Besides ASCII letters a dotless `ı` is an `I`;
no other character has a capital that occurs in a name. -/
def capital (c : Char) : Char := if c = 'ı' then 'I' else c.toUpper

/-- The severity of the given name, in any case and with blanks around it. -/
def ofName? (s : String) : Option Severity :=
  let wanted := (Text.strip s.toList).map capital
  all.find? fun x => x.name.toList == wanted

end Severity

end SmaliLint
