import SmaliLint.Binary64
import SmaliLint.Text.Integer
import SmaliLint.Text.Quoted
import SmaliLint.Toml.Moment

/-!
# TOML values

What a configuration file holds: strings, numbers, booleans, dates and times, arrays and tables. The
entries of a table stand in the order in which they were written, no two of them with the same key.

* `Value.text v` : a value as text. A string is its own text; inside an array or a table it is
  quoted;
* `TextFault` : why a value cannot be written as text;
* `Table.get?`, `Table.set` : looking up an entry, and adding or replacing one.
-/

namespace SmaliLint.Toml

inductive Value where
  | string (s : String)
  | integer (n : Int)
  | float (x : Binary64)
  | boolean (b : Bool)
  | date (d : Date)
  | time (t : TimeOfDay)
  | dateTime (d : DateTime)
  | array (items : List Value)
  | table (entries : List (String × Value))

/-- Keys and their values. -/
abbrev Table := List (String × Value)

namespace Table

def get? (t : Table) (key : String) : Option Value := t.lookup key

/-- The table with the entry replaced, or added at the end if the key is new. -/
def set (t : Table) (key : String) (v : Value) : Table :=
  if (t.get? key).isSome then t.map fun e => if e.1 = key then (key, v) else e else t ++ [(key, v)]

end Table

/-- The table of a value, if it is one. -/
def Value.table? : Value → Option Table
  | .table t => some t
  | _ => none

/-! ## Text -/

/-- Why a value cannot be written as text. -/
inductive TextFault where
  /-- An integer in it has too many digits. -/
  | tooManyDigits
  /-- It is nested too deep. -/
  | tooDeep
  deriving DecidableEq, Repr

def TextFault.message : TextFault → String
  | .tooManyDigits => Text.digitLimitMessage none
  | .tooDeep => "maximum recursion depth exceeded while getting the repr of an object"

/-- How many arrays and tables inside each other are written. This is approximate: the limit is one of nested calls, and
the fields of a configuration are read with some calls more or fewer around them. -/
def maxShownDepth : Nat := 985

/-- The numeral of an integer. -/
def integerText (n : Int) : Except TextFault Text :=
  match Text.boundedOfInt? n with
  | some s => .ok s
  | none => .error .tooManyDigits

mutual

/-- A value as it shows inside an array or a table, given how many more of them it may hold inside
each other. -/
def Value.shown (room : Nat) : Value → Except TextFault Text
  | .string s => .ok (Text.quoted s.toList)
  | .integer n => integerText n
  | .float x => .ok x.text
  | .boolean b => .ok (if b then "True".toList else "False".toList)
  | .date d => .ok d.shown
  | .time t => .ok t.shown
  | .dateTime d => .ok d.shown
  | .array items =>
    match room with
    | 0 => .error .tooDeep
    | room + 1 => do
      let parts ← shownItems room items
      return '[' :: Text.join ", ".toList parts ++ [']']
  | .table entries =>
    match room with
    | 0 => .error .tooDeep
    | room + 1 => do
      let parts ← shownEntries room entries
      return '\x7b' :: Text.join ", ".toList parts ++ ['\x7d']

/-- The items of an array as they show. -/
def shownItems (room : Nat) : List Value → Except TextFault (List Text)
  | [] => .ok []
  | v :: vs => do
    let part ← v.shown room
    return part :: (← shownItems room vs)

/-- The entries of a table as they show. -/
def shownEntries (room : Nat) : List (String × Value) → Except TextFault (List Text)
  | [] => .ok []
  | (k, v) :: es => do
    let part ← v.shown room
    return (Text.quoted k.toList ++ ": ".toList ++ part) :: (← shownEntries room es)

end

/-- A value as text. -/
def Value.text : Value → Except TextFault String
  | .string s => .ok s
  | .date d => .ok (String.ofList d.text)
  | .time t => .ok (String.ofList t.text)
  | .dateTime d => .ok (String.ofList d.text)
  | v => (v.shown maxShownDepth).map String.ofList

end SmaliLint.Toml
