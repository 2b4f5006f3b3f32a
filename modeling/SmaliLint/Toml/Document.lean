import SmaliLint.Toml.Scalar

/-!
# TOML documents

A document is a sequence of entries and of headings. `[a.b]` opens a table that further entries go
into, and `[[a.b]]` adds a table to an array of tables and opens it. A table is opened once, and
what is written as one value is never added to.

* `readValue` : a value, with the arrays and tables in it;
* `Draft` : the tables read so far, with what may not be opened or added to any more;
* `read` : the table of a whole document, or why it is not read.
-/

namespace SmaliLint.Toml

/-! ## Nested tables -/

/-- Applies `f` to the table at the end of a path of keys. Tables that are not there yet are added.
On the way an array of tables stands for its last table, if `intoArrays` says so. -/
def updateAt (intoArrays : Bool) (f : Table → Option Table) : List String → Table → Option Table
  | [], t => f t
  | k :: ks, t =>
    match t.get? k with
    | none => (updateAt intoArrays f ks []).map fun u => t.set k (.table u)
    | some (.table u) => (updateAt intoArrays f ks u).map fun u => t.set k (.table u)
    | some (.array vs) =>
      match vs.getLast? with
      | some (.table u) =>
        if intoArrays then
          (updateAt intoArrays f ks u).map fun u => t.set k (.array (vs.dropLast ++ [.table u]))
        else none
      | _ => none
    | some _ => none

/-- Adds an entry with a new key. -/
def addEntry (key : String) (v : Value) (t : Table) : Option Table :=
  if (t.get? key).isSome then none else some (t.set key v)

/-- Adds an empty table to an array of tables, which need not be there yet. -/
def addTable (key : String) (t : Table) : Option Table :=
  match t.get? key with
  | none => some (t.set key (.array [.table []]))
  | some (.array vs) => some (t.set key (.array (vs ++ [.table []])))
  | some _ => none

/-- Whether a path leads through one of `frozen`, or to it. -/
def isFrozen (frozen : List (List String)) (path : List String) : Bool :=
  frozen.any (·.isPrefixOf path)

/-- Whether a value holds others. -/
def Value.isContainer : Value → Bool
  | .array _ => true
  | .table _ => true
  | _ => false

/-! ## Values -/

/-- A string on one line or several, from where it starts. -/
def readAnyString? : Text → Option (Text × Text)
  | '"' :: '"' :: '"' :: s => readLongString s
  | '"' :: s => readString s
  | '\'' :: '\'' :: '\'' :: s => readLongLiteral s
  | '\'' :: s => readLiteral s
  | _ => none

/-- What follows a date: a time, or nothing that belongs to it. -/
def readAfterDate (d : Date) (s : Text) : Value × Text :=
  let time :=
    match s with
    | c :: t => if c = 'T' ∨ c = 't' ∨ c = ' ' then readTime? t else none
    | [] => none
  match time with
  | none => (.date d, s)
  | some (time, t) =>
    match readOffset? t with
    | some (offset, u) => (.dateTime ⟨d, time, some offset⟩, u)
    | none => (.dateTime ⟨d, time, none⟩, t)

/-- A date, a time or a number. -/
def readMomentOrNumber (s : Text) : Except ReadFault (Value × Text) :=
  match readDate? s with
  | some (d, t) => if d.isReal then .ok (readAfterDate d t) else .error .invalid
  | none =>
    match readTime? s with
    | some (time, t) => .ok (.time time, t)
    | none => readNumber s

/-- How deep values may be nested. An array counts twice and a table three times. -/
def maxReadDepth : Nat := 988

mutual

/-- A value, given how deep it may be nested. The first number bounds the nesting and the number of
the items as well. -/
def readValueUpTo : Nat → Nat → Text → Except ReadFault (Value × Text)
  | 0, _, _ => .error .invalid
  | n + 1, room, s =>
    match s with
    | '"' :: _ => do
      let (t, s) ← orInvalid (readAnyString? s)
      return (.string (String.ofList t), s)
    | '\'' :: _ => do
      let (t, s) ← orInvalid (readAnyString? s)
      return (.string (String.ofList t), s)
    | 't' :: 'r' :: 'u' :: 'e' :: t => .ok (.boolean true, t)
    | 'f' :: 'a' :: 'l' :: 's' :: 'e' :: t => .ok (.boolean false, t)
    | '[' :: t =>
      if room < 2 then .error .tooDeep
      else (readItemsUpTo n (room - 2) t).map fun r => (.array r.1, r.2)
    | '\x7b' :: t =>
      if room < 3 then .error .tooDeep
      else
        match skipBlanks t with
        | '\x7d' :: t => .ok (.table [], t)
        | t => (readEntriesUpTo n (room - 3) [] [] t).map fun r => (.table r.1, r.2)
    | _ => readMomentOrNumber s

/-- The items of an array and its closing bracket. -/
def readItemsUpTo : Nat → Nat → Text → Except ReadFault (List Value × Text)
  | 0, _, _ => .error .invalid
  | n + 1, room, s => do
    match ← orInvalid (skipGap s) with
    | ']' :: t => return ([], t)
    | t =>
      let (v, t) ← readValueUpTo n room t
      match ← orInvalid (skipGap t) with
      | ']' :: t => return ([v], t)
      | ',' :: t => (readItemsUpTo n room t).map fun r => (v :: r.1, r.2)
      | _ => throw .invalid

/-- The entries of a table on one line, at least one, and its closing brace, given those already
read and the paths that may not be added to. -/
def readEntriesUpTo :
    Nat → Nat → Table → List (List String) → Text → Except ReadFault (Table × Text)
  | 0, _, _, _, _ => .error .invalid
  | n + 1, room, table, frozen, s => do
    let (path, s) ← orInvalid (readKey s)
    let s ← orInvalid (after? '=' s)
    let (v, s) ← readValueUpTo n room (skipBlanks s)
    if isFrozen frozen path then throw .invalid
    let table ← orInvalid (updateAt false (addEntry (path.getLastD "") v) path.dropLast table)
    match skipBlanks s with
    | '\x7d' :: s => return (table, s)
    | ',' :: s =>
      readEntriesUpTo n room table (if v.isContainer then path :: frozen else frozen) (skipBlanks s)
    | _ => throw .invalid

end

/-- A value. -/
def readValue (s : Text) : Except ReadFault (Value × Text) :=
  readValueUpTo (s.length + 1) maxReadDepth s

/-! ## Statements -/

/-- What has been read of a document. -/
structure Draft where
  root : Table
  /-- The table that entries go into. -/
  heading : List String
  /-- Tables that may not be opened any more. -/
  opened : List (List String)
  /-- Tables made by dotted keys, which may not be opened under another heading. -/
  pending : List (List String)
  /-- Values that may not be added to. -/
  frozen : List (List String)

namespace Draft

def empty : Draft := ⟨[], [], [], [], []⟩

/-- Ends the section under the present heading. -/
def endSection (d : Draft) : Draft := { d with opened := d.pending ++ d.opened, pending := [] }

/-- Opens a table. -/
def openTable (d : Draft) (path : List String) : Option Draft :=
  if d.opened.contains path || isFrozen d.frozen path then none
  else
    (updateAt true some path d.root).map fun root =>
      { d with root := root, heading := path, opened := path :: d.opened }

/-- Adds a table to an array of tables and opens it. What was opened in the table before it may be
opened again. -/
def openItem (d : Draft) (path : List String) : Option Draft :=
  if isFrozen d.frozen path then none
  else
    (updateAt true (addTable (path.getLastD "")) path.dropLast d.root).map fun root =>
      { d with
        root := root
        heading := path
        opened := path :: d.opened.filter fun p => !path.isPrefixOf p
        frozen := d.frozen.filter fun p => !path.isPrefixOf p }

/-- The tables a dotted key leads through, from the heading on. -/
def between (heading path : List String) : List (List String) :=
  (List.range (path.length - 1)).map fun i => heading ++ path.take (i + 1)

/-- Adds an entry under the present heading. -/
def addEntry (d : Draft) (path : List String) (v : Value) : Option Draft :=
  let tables := between d.heading path
  if tables.any d.opened.contains || isFrozen d.frozen (d.heading ++ path.dropLast) then none
  else
    (updateAt true (Toml.addEntry (path.getLastD "") v) (d.heading ++ path.dropLast) d.root).map
      fun root =>
        { d with
          root := root
          pending := tables ++ d.pending
          frozen := if v.isContainer then (d.heading ++ path) :: d.frozen else d.frozen }

end Draft

/-- Reads one statement, which starts with something else than a blank, a line feed or a comment. -/
def readStatement (d : Draft) : Text → Except ReadFault (Draft × Text)
  | '[' :: '[' :: s => do
    let (path, s) ← orInvalid (readKey (skipBlanks s))
    let d ← orInvalid (d.endSection.openItem path)
    return (d, ← orInvalid ((after? ']' s).bind (after? ']')))
  | '[' :: s => do
    let (path, s) ← orInvalid (readKey (skipBlanks s))
    let d ← orInvalid (d.endSection.openTable path)
    return (d, ← orInvalid (after? ']' s))
  | s => do
    let (path, s) ← orInvalid (readKey s)
    let (v, s) ← readValue (skipBlanks (← orInvalid (after? '=' s)))
    return (← orInvalid (d.addEntry path v), s)

/-- Reads statements, one a line, to the end. The number bounds the lines. -/
def readStatements : Nat → Draft → Text → Except ReadFault Draft
  | 0, _, _ => .error .invalid
  | n + 1, d, s => do
    let (d, s) ←
      match skipBlanks s with
      | [] => .ok (d, [])
      | '\n' :: s => .ok (d, '\n' :: s)
      | '#' :: s => .ok (d, '#' :: s)
      | s => readStatement d s
    match ← orInvalid (skipComment (skipBlanks s)) with
    | [] => return d
    | '\n' :: s => readStatements n d s
    | _ => throw .invalid

/-- Line feeds in place of the line ends of two characters. -/
def unifyLineEnds : Text → Text
  | [] => []
  | '\r' :: '\n' :: s => '\n' :: unifyLineEnds s
  | c :: s => c :: unifyLineEnds s

/-- The table of a document. -/
def read (s : Text) : Except ReadFault Table :=
  let s := unifyLineEnds s
  (readStatements (s.length + 1) .empty s).map (·.root)

end SmaliLint.Toml
