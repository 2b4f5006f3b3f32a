import SmaliLint.Position.Encoding

/-!
# Open documents

The documents an editor has open, each with its text, the version the editor gave it, and the number
of times it was changed since it was opened.

* `Store` : the open documents;
* `Store.openDocument`, `Store.closeDocument`, `Store.replaceText`, `Store.changeRange` : what may
  happen to one of them, and `StoreOp`, `Store.apply` : the same as data;
* `Store.applyAll` : operations in turn, up to the first that fails; `Store.attemptAll`, `Store.attemptRun` : all of
  them, where those that fail change nothing;
* `Snapshot`, `Store.isCurrent` : a copy of a document, and whether it still is as it was.
-/

namespace SmaliLint

/-! ## Log records -/

/-- How much attention a log record asks for. -/
inductive LogLevel where
  | debug
  | info
  | warning
  | error
  deriving DecidableEq, Repr

/-- A line of the log. -/
structure Record where
  level : LogLevel
  message : String
  deriving DecidableEq, Repr

/-! ## Documents -/

structure Document where
  uri : String
  text : Text
  version : Option Int
  revision : Nat
  deriving DecidableEq, Repr

/-- A copy of a document at some moment. -/
abbrev Snapshot := Document

/-- A range of an editor: lines and columns counted from zero. -/
structure EditRange where
  startLine : Int
  startColumn : Int
  stopLine : Int
  stopColumn : Int
  deriving DecidableEq, Repr

/-- Why a request about a document fails. -/
inductive StoreError where
  | notOpen (uri : String)
  | noRange (uri : String)
  | position (cause : PositionError)
  deriving DecidableEq, Repr

def StoreError.message : StoreError → String
  | .notOpen uri => "Unable to get document: " ++ uri
  | .noRange uri => "Unable to get range to update: " ++ uri
  | .position cause => cause.message

/-- The document with a new text. It keeps its version unless a new one is given. -/
def Document.update (d : Document) (text : Text) (version : Option Int) : Document :=
  { d with text := text, version := version <|> d.version, revision := d.revision + 1 }

/-- `new` in place of what stands between two offsets; nothing is cut if they are in the wrong
order. -/
def Text.splice (s : Text) (start stop : Nat) (new : Text) : Text :=
  s.take start ++ new ++ s.drop (max start stop)

/-! ## The store -/

/-- The open documents, no two of the same URI. -/
structure Store where
  documents : List Document
  deriving DecidableEq, Repr

namespace Store

def empty : Store := ⟨[]⟩

def get? (s : Store) (uri : String) : Option Document := s.documents.find? (·.uri == uri)

/-- The document of the given URI, which must be open. -/
def get (s : Store) (uri : String) : Except StoreError Document :=
  match s.get? uri with
  | some d => .ok d
  | none => .error (.notOpen uri)

def contains (s : Store) (uri : String) : Bool := (s.get? uri).isSome

def size (s : Store) : Nat := s.documents.length

/-- Puts `d` in the place of the document of the same URI. -/
def put (s : Store) (d : Document) : Store :=
  ⟨s.documents.map fun e => if e.uri = d.uri then d else e⟩

/-- A version in a log record. -/
def shownVersion : Option Int → String
  | some v => String.ofList (Text.ofInt v)
  | none => "None"

/-- Opens a document. One that is open already keeps its text. -/
def openDocument (s : Store) (uri : String) (text : Text) (version : Option Int) : Store × List Record :=
  if s.contains uri then (s, [])
  else
    (⟨s.documents ++ [⟨uri, text, version, 0⟩]⟩,
      [⟨.debug, "opened " ++ uri ++ " (version " ++ shownVersion version ++ ")"⟩])

/-- Closes a document if it is open. -/
def closeDocument (s : Store) (uri : String) : Store × List Record :=
  if s.contains uri then
    (⟨s.documents.filter (·.uri ≠ uri)⟩, [⟨.debug, "closed " ++ uri⟩])
  else (s, [])

/-- Replaces the whole text of a document. -/
def replaceText (s : Store) (uri : String) (text : Text) (version : Option Int) :
    Except StoreError Store := do
  let d ← s.get uri
  return s.put (d.update text version)

/-- The offset of one end of a range. -/
def offsetIn (text : Text) (encoding : Encoding) (line column : Int) : Except StoreError Nat :=
  (encoding.offsetOf text line column).mapError .position

/-- Replaces what a range covers, with its columns counted in the given encoding. -/
def changeRange (s : Store) (uri : String) (range : Option EditRange) (text : Text)
    (version : Option Int) (encoding : Encoding) : Except StoreError Store := do
  let d ← s.get uri
  match range with
  | none => .error (.noRange uri)
  | some r =>
    let start ← offsetIn d.text encoding r.startLine r.startColumn
    let stop ← offsetIn d.text encoding r.stopLine r.stopColumn
    return s.put (d.update (d.text.splice start stop text) version)

/-- Whether the document of a snapshot is open and has not been changed since it was taken, as far
as the number of its changes tells. -/
def isCurrent (s : Store) (snapshot : Snapshot) : Bool :=
  match s.get? snapshot.uri with
  | some d => d.revision == snapshot.revision
  | none => false

end Store

/-! ## Operations as data -/

/-- Something that happens to a document. -/
inductive StoreOp where
  /-- Looks a document up, which must be open. -/
  | look (uri : String)
  | openDocument (uri : String) (text : Text) (version : Option Int)
  | closeDocument (uri : String)
  | replaceText (uri : String) (text : Text) (version : Option Int)
  | changeRange (uri : String) (range : Option EditRange) (text : Text) (version : Option Int)
      (encoding : Encoding)
  deriving DecidableEq, Repr

/-- Carries out an operation. -/
def Store.apply (s : Store) : StoreOp → Except StoreError (Store × List Record)
  | .look uri => (s.get uri).map fun _ => (s, [])
  | .openDocument uri text version => .ok (s.openDocument uri text version)
  | .closeDocument uri => .ok (s.closeDocument uri)
  | .replaceText uri text version => (s.replaceText uri text version).map (·, [])
  | .changeRange uri range text version encoding =>
    (s.changeRange uri range text version encoding).map (·, [])

/-- What comes of operations in turn. -/
structure StoreRun where
  store : Store
  records : List Record
  /-- Why an operation failed, if one did. -/
  failure : Option StoreError
  deriving DecidableEq, Repr

/-- Carries out operations in turn. The first that fails leaves the store as it is and ends the
run. -/
def Store.applyAll (s : Store) : List StoreOp → StoreRun
  | [] => ⟨s, [], none⟩
  | op :: ops =>
    match s.apply op with
    | .error e => ⟨s, [], some e⟩
    | .ok (t, records) =>
      let r := t.applyAll ops
      { r with records := records ++ r.records }

namespace Store

/-- The store after an operation. One that fails leaves it as it is. -/
def attempt (s : Store) (op : StoreOp) : Store :=
  match s.apply op with
  | .ok r => r.1
  | .error _ => s

/-- The store after operations in turn, some of which may fail. -/
def attemptAll (s : Store) (ops : List StoreOp) : Store := ops.foldl attempt s

/-- What operations in turn write to the log. One that fails writes nothing. -/
def attemptRecords (s : Store) : List StoreOp → List Record
  | [] => []
  | op :: ops =>
    let records := match s.apply op with
      | .ok r => r.2
      | .error _ => []
    records ++ (s.attempt op).attemptRecords ops

/-- Attempts operations in turn. Each comes from a request of its own, so one that fails stops none after it. -/
def attemptRun (s : Store) (ops : List StoreOp) : StoreRun := ⟨s.attemptAll ops, s.attemptRecords ops, none⟩

end Store

end SmaliLint
