import SmaliLint.Proofs.Document.History
import SmaliLint.Server

/-!
# Is what is published up to date?

A document is validated as it was when validation began, and the result is published if the number of
changes of the document is still the same. That number starts again from zero when a document is closed
and opened anew, so it does not tell a document from a later one of the same URI.

* `Server.diagnosticsOf s d` : what is to be published for a document;
* `Server.Current s uri version ds` : a publication is that of the document that is open now;
* `Store.Reopens s uri n ops` : the operations, those of them that do not fail, close the document, open it again
  and change it `n` times;
* `Server.StaleWindow s uri ops` : they do so as often as it had been changed before, and something else would now
  have to be published;
* `publications_current_iff` : these are all the runs in which something out of date is published.
-/

namespace SmaliLint

namespace Server

/-- The diagnostics of a document that are serious enough, with columns in the client's units. -/
def diagnosticsOf (s : Server) (d : Document) : Except UnknownRules (List Diagnostic) :=
  (validate d.text s.rules).map fun found =>
    (found.filter (·.severity.reaches s.least)).map (·.remeasure s.units d.text)

/-- The document of `uri` is open, and the version and the diagnostics are its own. -/
def Current (s : Server) (uri : String) (version : Option Int) (ds : List Diagnostic) : Prop :=
  ∃ d, s.store.get? uri = some d ∧ version = d.version ∧ s.diagnosticsOf d = .ok ds

end Server

/-- The operations close the document of `uri`, and after the last time they do so they open it again and
change it `n` times. -/
def Store.Reopens (s : Store) (uri : String) (n : Nat) (ops : List StoreOp) : Prop :=
  ∃ before after, ops = before ++ .closeDocument uri :: after ∧ .closeDocument uri ∉ after ∧
    (∃ text version, .openDocument uri text version ∈ after) ∧
    ((s.attemptAll (before ++ [.closeDocument uri])).changesOf uri after).length = n

/-- The document that was validated has been closed, and another one has taken its place that was changed
as often and that asks for another publication. -/
def Server.StaleWindow (s : Server) (uri : String) (ops : List StoreOp) : Prop :=
  ∃ old new ds, s.store.get? uri = some old ∧ s.diagnosticsOf old = .ok ds ∧
    (s.store.attemptAll ops).get? uri = some new ∧ s.store.Reopens uri old.revision ops ∧
    ¬ (new.version = old.version ∧ s.diagnosticsOf new = .ok ds)

/-! ## Publications of a validation -/

namespace Server

theorem mem_sent_publishFindings {s : Server} {snapshot : Snapshot} {found : List Diagnostic} {uri : String}
    {version : Option Int} {ds : List Diagnostic} :
    .publish uri version ds ∈ (s.publishFindings snapshot found).sent ↔
      s.store.isCurrent snapshot = true ∧ uri = snapshot.uri ∧ version = snapshot.version ∧
        ds = (found.filter (·.severity.reaches s.least)).map (·.remeasure s.units snapshot.text) := by
  unfold publishFindings
  by_cases hc : s.store.isCurrent snapshot = true <;> simp [hc]

theorem validateDocument_of_closed {s : Server} {uri : String} (h : s.store.get? uri = none) (ops : List StoreOp) :
    s.validateDocument uri ops =
      ⟨s, [.log ("[validator] Validating " ++ Uri.filename uri),
          .show_ .error "Unable to get current document for validation"],
        [⟨.warning, "validation skipped: " ++ (StoreError.notOpen uri).message⟩], none⟩ := by
  simp only [validateDocument, validateWhile, Store.get_of_closed h]

theorem validateDocument_of_unknown {s : Server} {uri : String} {d : Document} {e : UnknownRules}
    (hd : s.store.get? uri = some d) (hval : validate d.text s.rules = .error e) (ops : List StoreOp) :
    s.validateDocument uri ops =
      ⟨s, [.log ("[validator] Validating " ++ Uri.filename uri)], [], some (.unknownRules e)⟩ := by
  simp only [validateDocument, validateWhile, Store.get_eq_ok.2 hd, hval]

/-- A validation comes down to the question whether to publish. -/
theorem validateDocument_of_found {s : Server} {uri : String} {old : Document} {found : List Diagnostic}
    (hold : s.store.get? uri = some old) (hval : validate old.text s.rules = .ok found) (ops : List StoreOp) :
    s.validateDocument uri ops =
      (publishFindings { s with store := s.store.attemptAll ops } old found).after
        [.log ("[validator] Validating " ++ Uri.filename uri)] (s.store.attemptRecords ops) := by
  simp only [validateDocument, validateWhile, Store.attemptRun, Store.get_eq_ok.2 hold, hval]

/-- **When something is published.** The document was open, and a document of the same URI and the same revision is
open at the end; what is published is what the first one asked for. -/
theorem mem_sent_validateDocument {s : Server} {uri : String} {ops : List StoreOp} {version : Option Int}
    {ds : List Diagnostic} :
    .publish uri version ds ∈ (s.validateDocument uri ops).sent ↔
      ∃ old new, s.store.get? uri = some old ∧ s.diagnosticsOf old = .ok ds ∧ version = old.version ∧
        (s.store.attemptAll ops).get? uri = some new ∧ new.revision = old.revision := by
  cases hget : s.store.get? uri with
  | none => simp [validateDocument_of_closed hget]
  | some old =>
    have huri := Store.uri_of_get? hget
    cases hval : validate old.text s.rules with
    | error e => simp [validateDocument_of_unknown hget hval, diagnosticsOf, hval, Except.map]
    | ok found =>
      have hds : s.diagnosticsOf old = .ok ds ↔
          ds = (found.filter (·.severity.reaches s.least)).map (·.remeasure s.units old.text) := by
        simp [diagnosticsOf, hval, Except.map, eq_comm]
      rw [validateDocument_of_found hget hval]
      simp only [Turn.after, List.singleton_append, List.mem_cons, reduceCtorEq, false_or,
        mem_sent_publishFindings, Store.isCurrent_iff, huri]
      constructor
      · rintro ⟨⟨new, hnew, hrev⟩, -, hversion, heq⟩
        exact ⟨old, new, rfl, hds.2 heq, hversion, hnew, hrev⟩
      · rintro ⟨old', new, hold, hok, hversion, hnew, hrev⟩
        obtain rfl := Option.some.inj hold
        exact ⟨⟨new, hnew, hrev⟩, trivial, hversion, hds.1 hok⟩

/-- A validation that published something leaves the store as the operations left it. -/
theorem server_of_mem_sent {s : Server} {uri : String} {ops : List StoreOp} {version : Option Int}
    {ds : List Diagnostic} (h : .publish uri version ds ∈ (s.validateDocument uri ops).sent) :
    (s.validateDocument uri ops).server = { s with store := s.store.attemptAll ops } := by
  obtain ⟨old, new, hold, hds, -⟩ := mem_sent_validateDocument.1 h
  cases hval : validate old.text s.rules with
  | error e => simp [diagnosticsOf, hval, Except.map] at hds
  | ok found =>
    rw [validateDocument_of_found hold hval]
    simp only [Turn.after, publishFindings]
    split <;> rfl

end Server

/-! ## Windows -/

theorem exists_last_close {uri : String} {ops : List StoreOp} (h : .closeDocument uri ∈ ops) :
    ∃ before after, ops = before ++ .closeDocument uri :: after ∧ .closeDocument uri ∉ after := by
  induction ops with
  | nil => cases h
  | cons op ops ih =>
    by_cases hlater : .closeDocument uri ∈ ops
    · obtain ⟨before, after, rfl, hafter⟩ := ih hlater
      exact ⟨op :: before, after, rfl, hafter⟩
    · obtain heq | hmem := List.mem_cons.1 h
      · exact ⟨[], ops, by rw [heq, List.nil_append], hlater⟩
      · exact absurd hmem hlater

/-- After its last close, a document that is open was opened again, and its revision counts its changes since. -/
theorem Store.attemptAll_of_reopened {s : Store} {uri : String} {before after : List StoreOp} {new : Document}
    (hafter : .closeDocument uri ∉ after)
    (hnew : (s.attemptAll (before ++ .closeDocument uri :: after)).get? uri = some new) :
    new.revision = ((s.attemptAll (before ++ [.closeDocument uri])).changesOf uri after).length ∧
      ∃ text version, .openDocument uri text version ∈ after := by
  rw [List.append_cons, attemptAll_append] at hnew
  refine attemptAll_of_closed ?_ hafter hnew
  rw [attemptAll_append]
  exact get?_attempt_close _ uri

/-- A document whose revision is the same after some operations is the same, unless it was closed and
opened again. -/
theorem Store.same_or_reopened {s : Store} {uri : String} {ops : List StoreOp} {old new : Document}
    (hold : s.get? uri = some old) (hnew : (s.attemptAll ops).get? uri = some new)
    (hrev : new.revision = old.revision) : new = old ∨ s.Reopens uri old.revision ops := by
  by_cases hclose : .closeDocument uri ∈ ops
  · obtain ⟨before, after, rfl, hafter⟩ := exists_last_close hclose
    obtain ⟨hcount, hopened⟩ := attemptAll_of_reopened hafter hnew
    exact .inr ⟨before, after, rfl, hafter, hopened, by rw [← hcount, hrev]⟩
  · obtain ⟨e, he, hcount, -, hsame⟩ := attemptAll_of_open hold hclose
    obtain rfl : new = e := Option.some.inj (hnew.symm.trans he)
    have hnone : (s.changesOf uri ops).length = 0 := by omega
    exact .inl (hsame (List.length_eq_zero_iff.1 hnone))

/-- **What is published is up to date, except in a stale window.** Whatever requests change or fail to change between
the snapshot of a document and the publication: a document is then open, and version and diagnostics are its own. The
one exception is a document that has been closed, opened again and changed as often as before. -/
theorem publications_current_iff (s : Server) (uri : String) (ops : List StoreOp) :
    (∀ version ds, .publish uri version ds ∈ (s.validateDocument uri ops).sent →
        (s.validateDocument uri ops).server.Current uri version ds) ↔
      ¬ s.StaleWindow uri ops := by
  constructor
  · rintro hcurrent ⟨old, new, ds, hold, hds, hnew, ⟨before, after, rfl, hafter, -, hcount⟩, hother⟩
    have hrev : new.revision = old.revision := (Store.attemptAll_of_reopened hafter hnew).1.trans hcount
    have hsent := Server.mem_sent_validateDocument.2 ⟨old, new, hold, hds, rfl, hnew, hrev⟩
    obtain ⟨d, hd, hversion, hds'⟩ := hcurrent _ _ hsent
    rw [Server.server_of_mem_sent hsent] at hd hds'
    obtain rfl : new = d := Option.some.inj (hnew.symm.trans hd)
    exact hother ⟨hversion.symm, hds'⟩
  · intro hfresh version ds hsent
    obtain ⟨old, new, hold, hds, hversion, hnew, hrev⟩ := Server.mem_sent_validateDocument.1 hsent
    rw [Server.server_of_mem_sent hsent]
    obtain rfl | hreopen := Store.same_or_reopened hold hnew hrev
    · exact ⟨new, hnew, hversion, hds⟩
    · have hsame : new.version = old.version ∧ s.diagnosticsOf new = .ok ds := by
        refine Classical.byContradiction fun hother => hfresh ?_
        exact ⟨old, new, ds, hold, hds, hnew, hreopen, hother⟩
      exact ⟨new, hnew, hversion.trans hsame.1.symm, hsame.2⟩

/-! ## A stale window -/

/-- A document that was never changed can be closed and opened again with any text: the diagnostics of the
old text are published all the same. -/
theorem Server.publish_after_reopening {s : Server} {uri : String} {old : Document} {ds : List Diagnostic}
    (hold : s.store.get? uri = some old) (hrev : old.revision = 0) (hds : s.diagnosticsOf old = .ok ds)
    (text : Text) (version : Option Int) :
    .publish uri old.version ds ∈
        (s.validateDocument uri [.closeDocument uri, .openDocument uri text version]).sent ∧
      (s.validateDocument uri [.closeDocument uri, .openDocument uri text version]).server.store.get? uri =
        some ⟨uri, text, version, 0⟩ := by
  have hnew : (s.store.attemptAll [.closeDocument uri, .openDocument uri text version]).get? uri =
      some ⟨uri, text, version, 0⟩ := by
    rw [Store.get?_attemptAll]
    simp [StoreOp.uri, StoreOp.act]
  have hsent := mem_sent_validateDocument.2 ⟨old, _, hold, hds, rfl, hnew, hrev.symm⟩
  refine ⟨hsent, ?_⟩
  rw [server_of_mem_sent hsent]
  exact hnew

/-- An empty text holds nothing to report. -/
theorem validate_nil : validate [] none = .ok [] := by
  have htokens : tokenize [] = [] := by rw [tokenize, lexemes, place]
  unfold validate trace
  rw [htokens]
  rfl

/-- A text of one stray character is told that it has no class. -/
theorem validate_stray : ∃ d ds, validate ['x'] none = .ok (d :: ds) ∧ d.severity = .error := by
  have hfirst : firstToken ['x'] = (.error, 1) := by decide +kernel
  have htokens : ∃ span, tokenize ['x'] = [⟨.error, ['x'], span⟩] := by
    rw [tokenize, lexemes, hfirst]
    simp [lexemes, place]
  obtain ⟨span, htokens⟩ := htokens
  unfold validate trace
  rw [htokens]
  exact ⟨_, _, rfl, rfl⟩

/-- A server with one document, which is empty and was never changed. -/
def Server.withEmptyDocument (uri : String) : Server := ⟨⟨[⟨uri, [], some 1, 0⟩]⟩, none, .hint, .utf16⟩

/-- The empty list of an empty document is published for a document that has something to report. -/
theorem reopened_document_published_stale :
    .publish "file:///a.smali" (some 1) [] ∈
        ((Server.withEmptyDocument "file:///a.smali").validateDocument "file:///a.smali"
          [.closeDocument "file:///a.smali", .openDocument "file:///a.smali" ['x'] (some 1)]).sent ∧
      ¬ ((Server.withEmptyDocument "file:///a.smali").validateDocument "file:///a.smali"
          [.closeDocument "file:///a.smali",
            .openDocument "file:///a.smali" ['x'] (some 1)]).server.Current "file:///a.smali" (some 1) [] := by
  have hold : (Server.withEmptyDocument "file:///a.smali").store.get? "file:///a.smali" =
      some ⟨"file:///a.smali", [], some 1, 0⟩ := by decide
  have hds : (Server.withEmptyDocument "file:///a.smali").diagnosticsOf ⟨"file:///a.smali", [], some 1, 0⟩ =
      .ok [] := by
    rw [Server.diagnosticsOf, show (Server.withEmptyDocument "file:///a.smali").rules = none from rfl, validate_nil]
    rfl
  obtain ⟨hsent, hnew⟩ := Server.publish_after_reopening hold rfl hds ['x'] (some 1)
  refine ⟨hsent, ?_⟩
  rintro ⟨new, hget, -, hnone⟩
  obtain rfl := Option.some.inj (hnew.symm.trans hget)
  obtain ⟨d, ds, hstray, hd⟩ := validate_stray
  rw [Server.server_of_mem_sent hsent, Server.diagnosticsOf,
    show (Server.withEmptyDocument "file:///a.smali").rules = none from rfl] at hnone
  simp [hstray, Except.map, Server.withEmptyDocument, Severity.reaches, hd, Severity.rank] at hnone

end SmaliLint
