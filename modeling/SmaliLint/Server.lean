import SmaliLint.Document
import SmaliLint.Uri
import SmaliLint.Validation

/-!
# The language server

What the server does when a client tells it something: it keeps the store up to date, validates the
document concerned and publishes what was found.

* `Server` : the open documents and what the server was started with;
* `Message` : what a client may tell it;
* `Server.handle` : the answer to a message, a `Turn`;
* `completionItems` : the words offered to somebody who is typing;
* `Server.validateWhile` : validation of one document, given what becomes of the documents while it goes on;
* `Server.validateDocument` : the same when that is what operations in turn (`meanwhile`) make of them. If the
  document has changed, what was found is not published.
-/

namespace SmaliLint

/-- The documents of a server, and what it was started with. -/
structure Server where
  store : Store
  /-- The names of the rules to run, or none for all of them. -/
  rules : Option (List String)
  /-- The least serious diagnostics to publish. -/
  least : Severity
  /-- What the client's columns count. -/
  units : Units
  deriving DecidableEq, Repr

/-- How prominently a message is shown. -/
inductive Prominence where
  | error
  | info
  deriving DecidableEq, Repr

/-- What the server sends. -/
inductive Notification where
  /-- The diagnostics of a document, in place of those published before. -/
  | publish (uri : String) (version : Option Int) (diagnostics : List Diagnostic)
  /-- A message for the client's log. -/
  | log (message : String)
  /-- A message for the user. -/
  | show_ (prominence : Prominence) (message : String)
  deriving DecidableEq, Repr

/-- Why a message could not be dealt with to the end. -/
inductive ServerError where
  | unknownRules (cause : UnknownRules)
  | store (cause : StoreError)
  deriving DecidableEq, Repr

/-- What comes of a message: the server after it, what was sent, what was logged, and why it ended
early if it did. -/
structure Turn where
  server : Server
  sent : List Notification
  records : List Record
  failure : Option ServerError
  deriving DecidableEq, Repr

/-- The turn with something that went before it. -/
def Turn.after (t : Turn) (sent : List Notification) (records : List Record) : Turn :=
  { t with sent := sent ++ t.sent, records := records ++ t.records }

/-- What the server calls itself as the source of a diagnostic. -/
def diagnosticSource : String := "smali"

/-- A diagnostic with its columns in the client's units. -/
def Diagnostic.remeasure (u : Units) (source : Text) (d : Diagnostic) : Diagnostic :=
  { d with span := d.span.remeasure u source }

/-- A change of a document: of the given range, or of the whole text. -/
structure ContentChange where
  range : Option EditRange
  text : Text
  deriving DecidableEq, Repr

/-- What a client may tell the server. -/
inductive Message where
  | initialized
  | opened (uri : String) (text : Text) (version : Option Int)
  | changed (uri : String) (changes : List ContentChange) (version : Option Int)
  | closed (uri : String)
  | saved (uri : String)
  deriving DecidableEq, Repr

namespace Server

/-- A server without documents. -/
def start (rules : Option (List String)) (least : Severity) (units : Units) : Server :=
  ⟨.empty, rules, least, units⟩

/-! ## Validation -/

/-- Publishes what was found in a snapshot, unless the document has changed since. -/
def publishFindings (s : Server) (snapshot : Snapshot) (found : List Diagnostic) : Turn :=
  if s.store.isCurrent snapshot then
    let ds := (found.filter (·.severity.reaches s.least)).map (·.remeasure s.units snapshot.text)
    let count := String.ofList (Text.ofNat ds.length)
    ⟨s,
      [.publish snapshot.uri snapshot.version ds,
        .log ("[validator] Successfully validated " ++ Uri.filename snapshot.uri)],
      [⟨.debug, "published " ++ count ++ " diagnostic(s) for " ++ snapshot.uri⟩], none⟩
  else
    ⟨s, [], [⟨.debug, "dropping stale diagnostics for " ++ snapshot.uri⟩], none⟩

/-- Validates the stored text of a document and publishes what was found. Between the two, the documents come to
be as `run` tells. A failure of `run` is a fault of the validation itself, and ends it. -/
def validateWhile (s : Server) (uri : String) (run : StoreRun) : Turn :=
  let begun := Notification.log ("[validator] Validating " ++ Uri.filename uri)
  match s.store.get uri with
  | .error e =>
    ⟨s, [begun, .show_ .error "Unable to get current document for validation"],
      [⟨.warning, "validation skipped: " ++ e.message⟩], none⟩
  | .ok snapshot =>
    match validate snapshot.text s.rules with
    | .error e => ⟨s, [begun], [], some (.unknownRules e)⟩
    | .ok found =>
      let s := { s with store := run.store }
      match run.failure with
      | some e => ⟨s, [begun], run.records, some (.store e)⟩
      | none => (s.publishFindings snapshot found).after [begun] run.records

/-- Validates a document while other requests attempt the operations `meanwhile`. -/
def validateDocument (s : Server) (uri : String) (meanwhile : List StoreOp) : Turn :=
  s.validateWhile uri (s.store.attemptRun meanwhile)

/-! ## Messages -/

/-- Carries out one change of a document. -/
def applyChange (s : Server) (uri : String) (version : Option Int) (c : ContentChange) :
    Except StoreError Store :=
  match c.range with
  | none => s.store.replaceText uri c.text version
  | some r => s.store.changeRange uri (some r) c.text version (.known s.units)

/-- Carries out the changes of a document in turn, and validates it. A change of a document that
cannot be served ends the changes, and the document is validated as it then is. -/
def changeDocument (s : Server) (uri : String) (version : Option Int) :
    List ContentChange → Turn
  | [] => s.validateDocument uri []
  | c :: cs =>
    match s.applyChange uri version c with
    | .ok store => changeDocument { s with store := store } uri version cs
    | .error (.position cause) => ⟨s, [], [], some (.store (.position cause))⟩
    | .error e =>
      (s.validateDocument uri []).after [.show_ .error e.message]
        [⟨.error, "cannot apply change: " ++ e.message⟩]

/-- Deals with a message. -/
def handle (s : Server) : Message → Turn
  | .initialized => ⟨s, [.show_ .info "Initialized smali-lsp"], [], none⟩
  | .opened uri text version =>
    let r := s.store.openDocument uri text version
    (validateDocument { s with store := r.1 } uri []).after [] r.2
  | .changed uri changes version => s.changeDocument uri version changes
  | .closed uri =>
    let r := s.store.closeDocument uri
    ⟨{ s with store := r.1 }, [.publish uri none []], r.2, none⟩
  | .saved uri => ⟨s, [], [⟨.info, "saved " ++ uri⟩], none⟩

end Server

/-! ## Completion

Directives with their full stop, the words of declarations, and the mnemonics of instructions. -/

section Completion
open Vocabulary

/-- How an editor shows a word. -/
inductive CompletionKind where
  | keyword
  | operator
  deriving DecidableEq, Repr

def CompletionKind.name : CompletionKind → String
  | .keyword => "Keyword"
  | .operator => "Operator"

structure CompletionItem where
  label : String
  kind : CompletionKind
  deriving DecidableEq, Repr

/-- Every word that is offered. -/
def completionItems : List CompletionItem :=
  (directives ++ methodDirectives ++ fieldDirectives).map (fun w => ⟨"." ++ w, .keyword⟩) ++
    (visibilities ++ modifiers).map (fun w => ⟨w, .keyword⟩) ++
    instructions.map (fun w => ⟨w, .operator⟩)

end Completion

end SmaliLint
