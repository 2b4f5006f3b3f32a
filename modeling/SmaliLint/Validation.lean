import SmaliLint.Lexer
import SmaliLint.Method

/-!
# Validation

The checks of a text run side by side over its tokens and lines. A line is shown to them when the
newline after it comes, before that newline; every token is shown to them, and at last the end.
What is shown when depends on the tokens only (`signals`), and a check sees nothing of the others.

* `Rule` : the checks there are, by name;
* `Signal`, `signals ts` : what checks are shown, in order;
* `Check`, `Check.step` : a running check and what one signal does to it;
* `run`, `Event` : the record of every step of every check;
* `validate` : the diagnostics of a text.
-/

namespace SmaliLint

/-! ## Rules -/

/-- The checks there are. -/
inductive Rule where
  | header
  | method
  deriving DecidableEq, Repr

namespace Rule

/-- All rules, in the order in which they run unless told otherwise. -/
def all : List Rule := [.header, .method]

def name : Rule → String
  | .header => "header"
  | .method => "method"

def ofName? (s : String) : Option Rule := all.find? (·.name == s)

end Rule

/-- Names that are no rule's. -/
structure UnknownRules where
  names : List String
  deriving DecidableEq, Repr

/-- The names that are unknown. -/
def UnknownRules.message (e : UnknownRules) : String :=
  "unknown rule(s): " ++ ", ".intercalate e.names

/-- The names that are unknown, and the ones there are. -/
def UnknownRules.messageWithAvailable (e : UnknownRules) : String :=
  e.message ++ " (available: " ++ ", ".intercalate (Rule.all.map Rule.name) ++ ")"

/-- The rules of the given names in their order, or every rule if no names are given. -/
def Rule.select (names : Option (List String)) : Except UnknownRules (List Rule) :=
  match names with
  | none => .ok Rule.all
  | some names =>
    let unknown := names.filter fun s => (Rule.ofName? s).isNone
    if unknown.isEmpty then .ok (names.filterMap Rule.ofName?) else .error ⟨unknown⟩

/-! ## Signals -/

/-- What a check is shown. -/
inductive Signal where
  | line (l : Line)
  | token (t : Token)
  | finish
  deriving DecidableEq, Repr

/-- The signals of the tokens to come. -/
def signalsFrom (a : LineAssembler) : List Token → List Signal
  | [] => (a.flush.2.map Signal.line).toList ++ [.finish]
  | t :: ts =>
    let r := a.feed t
    (r.2.map Signal.line).toList ++ .token t :: signalsFrom r.1 ts

/-- The signals of a stream of tokens. -/
def signals (ts : List Token) : List Signal := signalsFrom .empty ts

/-! ## Checks -/

/-- A running check. -/
inductive Check where
  | header (state : Header)
  | method (state : Methods)
  deriving DecidableEq, Repr

namespace Check

/-- A check that has seen nothing yet. -/
def ofRule : Rule → Check
  | .header => .header .empty
  | .method => .method .empty

def rule : Check → Rule
  | .header _ => .header
  | .method _ => .method

/-- What a signal does to a check, and what the check says to it. -/
def step : Check → Signal → Check × List Diagnostic
  | .header h, .line l => let r := h.seeLine l; (.header r.1, r.2)
  | .header h, .token t => (.header (h.seeToken t), [])
  | .header h, .finish => (.header h, h.missing)
  | .method m, .line l => let r := m.seeLine l; (.method r.1, r.2)
  | .method m, .token t => let r := m.seeToken t; (.method r.1, r.2)
  | .method m, .finish => (.method m, [])

end Check

/-! ## Running -/

/-- One step of one check. -/
structure Event where
  signal : Signal
  /-- The check after the step. -/
  check : Check
  found : List Diagnostic
  deriving DecidableEq, Repr

/-- The step that a signal makes a check take. -/
def Check.event (s : Signal) (c : Check) : Event :=
  let r := c.step s
  ⟨s, r.1, r.2⟩

/-- Every signal is shown to every check in turn. -/
def run (checks : List Check) : List Signal → List Event
  | [] => []
  | s :: ss =>
    let events := checks.map (Check.event s)
    events ++ run (events.map (·.check)) ss

/-- What was found in a run, in the order in which it was found. -/
def findings (events : List Event) : List Diagnostic := events.flatMap (·.found)

/-- The record of the given rules over a text. -/
def trace (rules : List Rule) (source : Text) : List Event :=
  run (rules.map Check.ofRule) (signals (tokenize source))

/-- The diagnostics of a text under the rules of the given names, or under every rule. -/
def validate (source : Text) (names : Option (List String)) :
    Except UnknownRules (List Diagnostic) := do
  return findings (trace (← Rule.select names) source)

end SmaliLint
