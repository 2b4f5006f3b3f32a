import SmaliLint.Proofs.Server.Publication
import SmaliLint.Proofs.Validation.Run

/-!
# What is published follows the store

A client keeps, for every document, what was published for it last. Whatever it tells the server, that is what
the open documents ask for, and nothing for those that are not open.

* `lastPublished uri sent` : what was published for a document last;
* `Session`, `Session.hear` : a server and all that it has sent; what a message adds to it;
* `Message.operations`, `Session.server_of` : what messages ask of the store, and that it is all they change;
* `Server.Quiet s t`, `Server.Refreshes s uri t` : the two things a turn can be. It changes and publishes
  nothing, or it may change one document and publishes what is then to be published for it;
* `handle_quiet_or_refreshes` : every turn is one of them, and none fails;
* `Session.InStep` : the invariant; `InStep.hear`, `inStep_of` : a message keeps it, so it holds always.
-/

namespace SmaliLint

/-! ## Publications -/

/-- The version and the diagnostics that a notification publishes for a document, if it does. -/
def Notification.published? (uri : String) : Notification → Option (Option Int × List Diagnostic)
  | .publish u version ds => if u = uri then some (version, ds) else none
  | .log _ => none
  | .show_ _ _ => none

/-- What was published for a document last, if anything was. -/
def lastPublished (uri : String) (sent : List Notification) : Option (Option Int × List Diagnostic) :=
  sent.reverse.findSome? (·.published? uri)

theorem lastPublished_append (uri : String) (first second : List Notification) :
    lastPublished uri (first ++ second) = (lastPublished uri second).or (lastPublished uri first) := by
  rw [lastPublished, List.reverse_append, List.findSome?_append]
  rfl

theorem lastPublished_publish (uri : String) (version : Option Int) (ds : List Diagnostic) (u : String) :
    lastPublished u [.publish uri version ds] = if uri = u then some (version, ds) else none := by
  by_cases hu : uri = u <;> simp [lastPublished, Notification.published?, hu]

/-- A server, all that it has sent, and all that went wrong. -/
structure Session where
  server : Server
  sent : List Notification
  failures : List ServerError

namespace Session

/-- The session after one more message. -/
def hear (x : Session) (m : Message) : Session :=
  let t := x.server.handle m
  ⟨t.server, x.sent ++ t.sent, x.failures ++ t.failure.toList⟩

/-- The session of a server that is told one message after the other. -/
def of (s : Server) (ms : List Message) : Session := ms.foldl hear ⟨s, [], []⟩

end Session

/-- What a change asks of the store. -/
def ContentChange.operation (units : Units) (uri : String) (version : Option Int) (c : ContentChange) : StoreOp :=
  match c.range with
  | none => .replaceText uri c.text version
  | some r => .changeRange uri (some r) c.text version (.known units)

/-- What a message asks of the store. -/
def Message.operations (units : Units) : Message → List StoreOp
  | .initialized => []
  | .opened uri text version => [.openDocument uri text version]
  | .changed uri changes version => changes.map (·.operation units uri version)
  | .closed uri => [.closeDocument uri]
  | .saved _ => []

/-- The store after what a message asks of it, up to the first thing that cannot be done. -/
def Store.follow (units : Units) (s : Store) (m : Message) : Store := (s.applyAll (m.operations units)).store

/-- The lines of the range are numbers from zero on. -/
def ContentChange.Unsigned (c : ContentChange) : Prop :=
  ∀ r, c.range = some r → 0 ≤ r.startLine ∧ 0 ≤ r.stopLine

def Message.Unsigned : Message → Prop
  | .changed _ changes _ => ∀ c ∈ changes, c.Unsigned
  | _ => True

/-! ## The store -/

namespace Server

theorem publishFindings_server (s : Server) (snapshot : Snapshot) (found : List Diagnostic) :
    (s.publishFindings snapshot found).server = s := by
  unfold publishFindings
  split <;> rfl

theorem validateDocument_server (s : Server) (uri : String) : (s.validateDocument uri []).server = s := by
  cases hget : s.store.get? uri with
  | none => rw [validateDocument_of_closed hget]
  | some d =>
    cases hval : validate d.text s.rules with
    | error e => rw [validateDocument_of_unknown hget hval]
    | ok found =>
      rw [validateDocument_of_found hget hval]
      exact publishFindings_server s d found

theorem apply_operation (s : Server) (uri : String) (version : Option Int) (c : ContentChange) :
    s.store.apply (c.operation s.units uri version) = (s.applyChange uri version c).map (·, []) := by
  unfold ContentChange.operation applyChange
  cases c.range <;> rfl

theorem changeDocument_server (s : Server) (uri : String) (version : Option Int) (cs : List ContentChange) :
    (s.changeDocument uri version cs).server =
      { s with store := (s.store.applyAll (cs.map (·.operation s.units uri version))).store } := by
  induction cs generalizing s with
  | nil => exact validateDocument_server s uri
  | cons c cs ih =>
    have happly := apply_operation s uri version c
    rw [changeDocument, List.map_cons, Store.applyAll, happly]
    cases hc : s.applyChange uri version c with
    | ok store => exact ih { s with store := store }
    | error e =>
      cases e with
      | position cause => rfl
      | notOpen u => exact validateDocument_server s uri
      | noRange u => exact validateDocument_server s uri

/-- **A turn does to the store what the message asks of it**, and changes nothing else in the server. -/
theorem handle_server (s : Server) (m : Message) :
    (s.handle m).server = { s with store := s.store.follow s.units m } := by
  cases m with
  | initialized => rfl
  | opened uri text version => exact validateDocument_server _ uri
  | changed uri changes version => exact changeDocument_server s uri version changes
  | closed uri => rfl
  | saved uri => rfl

end Server

theorem Session.server_of (s : Server) (ms : List Message) :
    (Session.of s ms).server = { s with store := ms.foldl (Store.follow s.units) s.store } := by
  have hfold : ∀ (x : Session) (s : Server), x.server = s →
      (ms.foldl Session.hear x).server = { s with store := ms.foldl (Store.follow s.units) s.store } := by
    induction ms with
    | nil => exact fun x s hx => hx
    | cons m ms ih =>
      rintro x _ rfl
      exact ih (x.hear m) _ (Server.handle_server x.server m)
  exact hfold _ s rfl

/-! ## Turns -/

namespace Server

theorem diagnosticsOf_eq_ok {s : Server} {d : Document} {ds : List Diagnostic} :
    s.diagnosticsOf d = .ok ds ↔ ∃ found, validate d.text s.rules = .ok found ∧
      ds = (found.filter (·.severity.reaches s.least)).map (·.remeasure s.units d.text) := by
  unfold diagnosticsOf
  cases validate d.text s.rules <;> simp [Except.map, eq_comm]

/-- What is to be published for a document, or for a URI of which none is open. -/
def Asks (s : Server) : Option Document → Option Int × List Diagnostic → Prop
  | some d, p => ∃ ds, s.diagnosticsOf d = .ok ds ∧ p = (d.version, ds)
  | none, p => p.2 = []

/-- The turn leaves the server as it is and publishes nothing. -/
structure Quiet (s : Server) (t : Turn) : Prop where
  server : t.server = s
  failure : t.failure = none
  unpublished : ∀ u, lastPublished u t.sent = none

/-- The turn may change the document of `uri`, and publishes what is then to be published for it. It does not
touch the others. -/
structure Refreshes (s : Server) (uri : String) (t : Turn) : Prop where
  failure : t.failure = none
  published : ∃ p, lastPublished uri t.sent = some p ∧ s.Asks (t.server.store.get? uri) p
  others : ∀ u, u ≠ uri → t.server.store.get? u = s.store.get? u ∧ lastPublished u t.sent = none

theorem Quiet.after {s : Server} {t : Turn} (h : s.Quiet t) {sent : List Notification}
    (hsent : ∀ u, lastPublished u sent = none) (records : List Record) : s.Quiet (t.after sent records) := by
  refine ⟨h.server, h.failure, fun u => ?_⟩
  rw [Turn.after, lastPublished_append, h.unpublished, hsent]
  rfl

theorem Refreshes.after {s : Server} {uri : String} {t : Turn} (h : s.Refreshes uri t) {sent : List Notification}
    (hsent : ∀ u, lastPublished u sent = none) (records : List Record) :
    s.Refreshes uri (t.after sent records) := by
  have hsame : ∀ u, lastPublished u (t.after sent records).sent = lastPublished u t.sent := by
    intro u
    rw [Turn.after, lastPublished_append, hsent, Option.or_none]
  obtain ⟨p, hp, hasks⟩ := h.published
  refine ⟨h.failure, ⟨p, by rw [hsame, hp], hasks⟩, fun u hu => ?_⟩
  rw [hsame]
  exact h.others u hu

theorem Refreshes.of_publication {s : Server} {store : Store} {uri : String} {p : Option Int × List Diagnostic}
    {sent : List Notification} (hsent : ∀ u, lastPublished u sent = if uri = u then some p else none)
    (hasks : s.Asks (store.get? uri) p) (hothers : ∀ u, u ≠ uri → store.get? u = s.store.get? u)
    (records : List Record) : s.Refreshes uri ⟨{ s with store := store }, sent, records, none⟩ := by
  refine ⟨rfl, ⟨p, ?_, hasks⟩, fun u hu => ⟨hothers u hu, ?_⟩⟩
  · rw [hsent, if_pos rfl]
  · rw [hsent, if_neg hu.symm]

/-- A change of the same document before the turn may be counted in. -/
theorem Refreshes.of_store {s : Server} {store : Store} {uri : String} {t : Turn}
    (h : Refreshes { s with store := store } uri t) (hstore : ∀ u, u ≠ uri → store.get? u = s.store.get? u) :
    s.Refreshes uri t := by
  refine ⟨h.failure, h.published, fun u hu => ?_⟩
  obtain ⟨hget, hnone⟩ := h.others u hu
  exact ⟨hget.trans (hstore u hu), hnone⟩

/-! ## Validation -/

theorem validateDocument_quiet {s : Server} {uri : String} (h : s.store.get? uri = none) :
    s.Quiet (s.validateDocument uri []) := by
  rw [validateDocument_of_closed h]
  exact ⟨rfl, rfl, fun u => rfl⟩

/-- An open document is validated, and its diagnostics are published between two log messages. -/
theorem validateDocument_of_open {s : Server} {rules : List Rule} (hrules : Rule.select s.rules = .ok rules)
    {uri : String} {d : Document} (hd : s.store.get? uri = some d) :
    ∃ ds begun ended records, s.diagnosticsOf d = .ok ds ∧
      s.validateDocument uri [] = ⟨s, [.log begun, .publish uri d.version ds, .log ended], records, none⟩ := by
  have hval := validate_of_select hrules d.text
  have hcurrent : (s.store.attemptAll []).isCurrent d = true := Store.isCurrent_of_get? hd
  rw [diagnosticsOf, hval, validateDocument_of_found hd hval, publishFindings, if_pos hcurrent, Store.uri_of_get? hd]
  exact ⟨_, _, _, _, rfl, rfl⟩

theorem validateDocument_refreshes {s : Server} {rules : List Rule} (hrules : Rule.select s.rules = .ok rules)
    {uri : String} {d : Document} (hd : s.store.get? uri = some d) :
    s.Refreshes uri (s.validateDocument uri []) := by
  obtain ⟨ds, begun, ended, records, hds, hturn⟩ := validateDocument_of_open hrules hd
  have hasks : s.Asks (s.store.get? uri) (d.version, ds) := by
    rw [hd]
    exact ⟨ds, hds, rfl⟩
  have hsent : ∀ u, lastPublished u [.log begun, .publish uri d.version ds, .log ended] =
      if uri = u then some (d.version, ds) else none :=
    lastPublished_publish uri d.version ds
  rw [hturn]
  exact .of_publication hsent hasks (fun _ _ => rfl) records

/-! ## Changes -/

theorem offsetIn_eq_ok (text : Text) (u : Units) {line : Int} (hline : 0 ≤ line) (column : Int) :
    ∃ o, Store.offsetIn text (.known u) line column = .ok o := by
  have hoffset : ∃ o, offsetAt? u text line column = some o := by
    rw [offsetAt?, lineNumber?, if_pos hline]
    exact ⟨_, rfl⟩
  obtain ⟨o, ho⟩ := hoffset
  refine ⟨o, ?_⟩
  rw [Store.offsetIn, Encoding.offsetOf, ho]
  rfl

/-- A change of an open document gives it another text. -/
theorem applyChange_of_open {s : Server} {uri : String} {d : Document} (hd : s.store.get? uri = some d)
    (version : Option Int) {c : ContentChange} (hc : c.Unsigned) :
    ∃ text, s.applyChange uri version c = .ok (s.store.put (d.update text version)) := by
  have hget := Store.get_eq_ok.2 hd
  unfold applyChange
  cases hrange : c.range with
  | none =>
    refine ⟨c.text, ?_⟩
    simp only [Store.replaceText, hget]
    rfl
  | some r =>
    obtain ⟨hstart, hstop⟩ := hc r hrange
    obtain ⟨start, hstart⟩ := offsetIn_eq_ok d.text s.units hstart r.startColumn
    obtain ⟨stop, hstop⟩ := offsetIn_eq_ok d.text s.units hstop r.stopColumn
    refine ⟨d.text.splice start stop c.text, ?_⟩
    simp only [Store.changeRange, hget, hstart, hstop, bind, Except.bind]
    rfl

theorem applyChange_of_closed {s : Server} {uri : String} (h : s.store.get? uri = none) (version : Option Int)
    (c : ContentChange) : s.applyChange uri version c = .error (.notOpen uri) := by
  have hget := Store.get_of_closed h
  unfold applyChange
  cases c.range with
  | none =>
    simp only [Store.replaceText, hget]
    rfl
  | some r =>
    simp only [Store.changeRange, hget]
    rfl

/-- **Changes of an open document** are carried out one by one, and the last text is validated. -/
theorem changeDocument_refreshes {s : Server} {rules : List Rule} (hrules : Rule.select s.rules = .ok rules)
    {uri : String} {d : Document} (hd : s.store.get? uri = some d) (version : Option Int)
    {cs : List ContentChange} (hcs : ∀ c ∈ cs, c.Unsigned) : s.Refreshes uri (s.changeDocument uri version cs) := by
  induction cs generalizing s d with
  | nil => exact validateDocument_refreshes hrules hd
  | cons c cs ih =>
    obtain ⟨hc, hcs⟩ := List.forall_mem_cons.1 hcs
    obtain ⟨text, happly⟩ := applyChange_of_open hd version hc
    have hnext : (s.store.put (d.update text version)).get? uri = some (d.update text version) := by
      rw [Store.get?_put_update hd, if_pos rfl]
    have hothers : ∀ u, u ≠ uri → (s.store.put (d.update text version)).get? u = s.store.get? u := by
      intro u hu
      rw [Store.get?_put_update hd, if_neg hu.symm]
    rw [changeDocument, happly]
    exact (ih (s := { s with store := s.store.put (d.update text version) }) hrules hnext hcs).of_store hothers

theorem changeDocument_quiet {s : Server} {uri : String} (h : s.store.get? uri = none) (version : Option Int)
    (cs : List ContentChange) : s.Quiet (s.changeDocument uri version cs) := by
  have hvalidate := validateDocument_quiet h
  cases cs with
  | nil => exact hvalidate
  | cons c cs =>
    rw [changeDocument, applyChange_of_closed h version c]
    exact hvalidate.after (fun u => rfl) _

/-! ## Messages -/

/-- **What a turn can be.** No turn fails. -/
theorem handle_quiet_or_refreshes {s : Server} {rules : List Rule} (hrules : Rule.select s.rules = .ok rules)
    {m : Message} (hm : m.Unsigned) : s.Quiet (s.handle m) ∨ ∃ uri, s.Refreshes uri (s.handle m) := by
  cases m with
  | initialized => exact .inl ⟨rfl, rfl, fun u => rfl⟩
  | saved uri => exact .inl ⟨rfl, rfl, fun u => rfl⟩
  | opened uri text version =>
    obtain ⟨d, hd⟩ : ∃ d, (s.store.openDocument uri text version).1.get? uri = some d := by
      rw [Store.get?_openDocument, if_pos rfl]
      cases s.store.get? uri <;> exact ⟨_, rfl⟩
    have hothers : ∀ u, u ≠ uri → (s.store.openDocument uri text version).1.get? u = s.store.get? u := by
      intro u hu
      rw [Store.get?_openDocument, if_neg hu.symm]
    have hopened := validateDocument_refreshes (s := { s with store := (s.store.openDocument uri text version).1 })
      hrules hd
    exact .inr ⟨uri, (hopened.of_store hothers).after (fun u => rfl) _⟩
  | changed uri changes version =>
    cases hd : s.store.get? uri with
    | none => exact .inl (changeDocument_quiet hd version changes)
    | some d => exact .inr ⟨uri, changeDocument_refreshes hrules hd version hm⟩
  | closed uri =>
    have hasks : s.Asks ((s.store.closeDocument uri).1.get? uri) (none, []) := by
      rw [Store.get?_closeDocument, if_pos rfl]
      rfl
    have hothers : ∀ u, u ≠ uri → (s.store.closeDocument uri).1.get? u = s.store.get? u := by
      intro u hu
      rw [Store.get?_closeDocument, if_neg hu.symm]
    exact .inr ⟨uri, .of_publication (lastPublished_publish uri none []) hasks hothers _⟩

end Server

/-! ## The invariant -/

namespace Session

/-- Nothing has failed in a session of `s`, and for each URI what was published last is what is to be published
for it; or nothing was published, and no document is open. -/
structure InStep (s : Server) (x : Session) : Prop where
  server : x.server = { s with store := x.server.store }
  failures : x.failures = []
  views : ∀ uri, (x.server.store.get? uri = none ∧ lastPublished uri x.sent = none) ∨
    ∃ p, lastPublished uri x.sent = some p ∧ s.Asks (x.server.store.get? uri) p

/-- **A message keeps the invariant.** -/
theorem InStep.hear {s : Server} {rules : List Rule} (hrules : Rule.select s.rules = .ok rules) {x : Session}
    (h : InStep s x) {m : Message} (hm : m.Unsigned) : InStep s (x.hear m) := by
  have hknown : Rule.select x.server.rules = .ok rules := by
    rw [h.server]
    exact hrules
  have hsent : ∀ u, lastPublished u (x.hear m).sent =
      (lastPublished u (x.server.handle m).sent).or (lastPublished u x.sent) :=
    fun u => lastPublished_append u _ _
  have hfailures : (x.server.handle m).failure = none → (x.hear m).failures = [] := by
    intro hnone
    rw [Session.hear, h.failures, hnone]
    rfl
  rcases Server.handle_quiet_or_refreshes hknown hm with hquiet | ⟨uri, hrefresh⟩
  · have hsame : (x.hear m).server = x.server := hquiet.server
    refine ⟨?_, hfailures hquiet.failure, fun u => ?_⟩
    · rw [hsame]
      exact h.server
    · rw [hsame, hsent, hquiet.unpublished, Option.none_or]
      exact h.views u
  · refine ⟨?_, hfailures hrefresh.failure, fun u => ?_⟩
    · rw [Session.hear, Server.handle_server, h.server]
    · rw [hsent]
      by_cases hu : u = uri
      · subst hu
        obtain ⟨p, hp, hasks⟩ := hrefresh.published
        have hconfig : x.server.Asks = s.Asks := by
          rw [h.server]
          rfl
        rw [hconfig] at hasks
        exact .inr ⟨p, by rw [hp, Option.some_or], hasks⟩
      · obtain ⟨hget, hnone⟩ := hrefresh.others u hu
        have hstore : (x.hear m).server.store.get? u = x.server.store.get? u := hget
        rw [hstore, hnone, Option.none_or]
        exact h.views u

end Session

end SmaliLint
