import Mathlib.Data.List.Induction
import SmaliLint.Proofs.Document.Lookup

/-!
# Documents after any run of operations

Operations come in any order and on any documents, and some of them fail. What has become of a document is told by the
operations that name it.

* `StoreOp.act op d` : what an operation makes of the document it names. `Store.get?_attempt` : it does that, and
  nothing to the others; `Store.get?_attemptAll` : so a store is a family of documents that run by themselves;
* `Store.attemptRun_eq_applyAll` : operations that fail have no effect on a run;
* `Call`, `Store.calls` : the operations of a run, each with the store that it met; `Store.changesOf` : those that
  changed a document;
* `Store.attemptAll_of_open` : these have been counted, and the last version given has been kept;
* `Store.Opening` : the operation that has opened a document.
-/

namespace SmaliLint

/-! ## One operation -/

namespace StoreOp

/-- The document that the operation names. -/
def uri : StoreOp → String
  | look uri => uri
  | openDocument uri _ _ => uri
  | closeDocument uri => uri
  | replaceText uri _ _ => uri
  | changeRange uri _ _ _ _ => uri

/-- The version that comes with the operation, if one does. -/
def version : StoreOp → Option Int
  | openDocument _ _ version => version
  | replaceText _ _ version => version
  | changeRange _ _ _ version _ => version
  | look _ => none
  | closeDocument _ => none

/-- Whether the operation changes the text of `uri`. -/
def edits (uri : String) : StoreOp → Bool
  | replaceText u _ _ => u == uri
  | changeRange u _ _ _ _ => u == uri
  | _ => false

/-- What the operation makes of a text, or why it cannot be carried out. -/
def edited (op : StoreOp) (old : Text) : Except StoreError Text :=
  match op with
  | replaceText _ text _ => .ok text
  | changeRange uri none _ _ _ => .error (.noRange uri)
  | changeRange _ (some r) text _ encoding => do
    let start ← Store.offsetIn old encoding r.startLine r.startColumn
    let stop ← Store.offsetIn old encoding r.stopLine r.stopColumn
    return old.splice start stop text
  | _ => .ok old

/-- The document with the text that the operation makes of its own. -/
def change (op : StoreOp) (d : Document) : Document :=
  match op.edited d.text with
  | .ok text => d.update text op.version
  | .error _ => d

/-- What the operation makes of the document it names, which may be closed. -/
def act : StoreOp → Option Document → Option Document
  | look _, d => d
  | openDocument uri text version, d => d <|> some ⟨uri, text, version, 0⟩
  | closeDocument _, _ => none
  | replaceText uri text version, d => d.map (replaceText uri text version).change
  | changeRange uri range text version encoding, d => d.map (changeRange uri range text version encoding).change

theorem uri_of_edits {op : StoreOp} {uri : String} (h : op.edits uri = true) : op.uri = uri := by
  cases op <;> simp_all [edits, StoreOp.uri]

end StoreOp

namespace Store

/-- Whether the operation can be carried out. -/
def admits (s : Store) (op : StoreOp) : Bool := (s.apply op).isOk

theorem apply_edit {s : Store} {uri : String} {d : Document} (hd : s.get? uri = some d) {op : StoreOp}
    (hop : op.edits uri = true) :
    s.apply op = (op.edited d.text).map fun text => (s.put (d.update text op.version), []) := by
  have hget := get_eq_ok.2 hd
  cases op with
  | look | openDocument | closeDocument => cases hop
  | replaceText u text version =>
    obtain rfl : u = uri := StoreOp.uri_of_edits hop
    simp only [apply, replaceText, hget]
    rfl
  | changeRange u range text version encoding =>
    obtain rfl : u = uri := StoreOp.uri_of_edits hop
    simp only [apply, changeRange, hget]
    rcases range with - | r
    · rfl
    · show Except.map _ (offsetIn d.text encoding r.startLine r.startColumn >>= _) = Except.map _ (_ >>= _)
      rcases offsetIn d.text encoding r.startLine r.startColumn with e | start
      · rfl
      · show Except.map _ (offsetIn d.text encoding r.stopLine r.stopColumn >>= _) = Except.map _ (_ >>= _)
        rcases offsetIn d.text encoding r.stopLine r.stopColumn with e | stop <;> rfl

theorem apply_edit_of_closed {s : Store} {uri : String} (hd : s.get? uri = none) {op : StoreOp}
    (hop : op.edits uri = true) : s.apply op = .error (.notOpen uri) := by
  have hget := get_of_closed hd
  cases op with
  | look | openDocument | closeDocument => cases hop
  | replaceText u text version =>
    obtain rfl : u = uri := StoreOp.uri_of_edits hop
    simp only [apply, replaceText, hget]
    rfl
  | changeRange u range text version encoding =>
    obtain rfl : u = uri := StoreOp.uri_of_edits hop
    simp only [apply, changeRange, hget]
    rfl

theorem admits_edit {s : Store} {uri : String} {d : Document} (hd : s.get? uri = some d) {op : StoreOp}
    (hop : op.edits uri = true) : s.admits op = (op.edited d.text).isOk := by
  unfold admits
  rw [apply_edit hd hop]
  rcases op.edited d.text with e | text <;> rfl

theorem get?_attempt_edit (s : Store) (op : StoreOp) (hop : op.edits op.uri = true) (uri : String) :
    (s.attempt op).get? uri = if op.uri = uri then (s.get? uri).map op.change else s.get? uri := by
  unfold attempt
  cases hd : s.get? op.uri with
  | none =>
    rw [apply_edit_of_closed hd hop]
    by_cases hu : op.uri = uri
    · rw [if_pos hu, ← hu, hd]
      rfl
    · rw [if_neg hu]
  | some d =>
    rw [apply_edit hd hop]
    unfold StoreOp.change
    rcases hedited : op.edited d.text with e | text
    · show s.get? uri = _
      by_cases hu : op.uri = uri
      · rw [if_pos hu, ← hu, hd, Option.map_some, hedited]
      · rw [if_neg hu]
    · show (s.put (d.update text op.version)).get? uri = _
      rw [get?_put_update hd]
      by_cases hu : op.uri = uri
      · rw [if_pos hu, if_pos hu, ← hu, hd, Option.map_some, hedited]
      · rw [if_neg hu, if_neg hu]

/-- **What an attempt does.** It acts on the document that it names, and on no other. -/
theorem get?_attempt (s : Store) (op : StoreOp) (uri : String) :
    (s.attempt op).get? uri = if op.uri = uri then op.act (s.get? uri) else s.get? uri := by
  cases op with
  | look u =>
    have hsame : s.attempt (.look u) = s := by
      unfold attempt
      simp only [apply]
      rcases s.get u with e | d <;> rfl
    rw [hsame]
    exact (ite_self _).symm
  | openDocument u text version =>
    show (s.openDocument u text version).1.get? uri = if u = uri then _ else _
    rw [get?_openDocument]
    by_cases hu : u = uri
    · rw [if_pos hu, if_pos hu, hu]
      rfl
    · rw [if_neg hu, if_neg hu]
  | closeDocument u => exact get?_closeDocument s u uri
  | replaceText u text version =>
    exact get?_attempt_edit s (.replaceText u text version) (beq_self_eq_true u) uri
  | changeRange u range text version encoding =>
    exact get?_attempt_edit s (.changeRange u range text version encoding) (beq_self_eq_true u) uri

theorem get?_attempt_named (s : Store) (op : StoreOp) : (s.attempt op).get? op.uri = op.act (s.get? op.uri) := by
  rw [get?_attempt, if_pos rfl]

theorem get?_attempt_open {s : Store} {uri : String} (hd : s.get? uri = none) (text : Text) (version : Option Int) :
    (s.attempt (.openDocument uri text version)).get? uri = some ⟨uri, text, version, 0⟩ := by
  apply (s.get?_attempt_named (.openDocument uri text version)).trans
  show StoreOp.act _ (s.get? uri) = _
  rw [hd]
  rfl

theorem get?_attempt_close (s : Store) (uri : String) : (s.attempt (.closeDocument uri)).get? uri = none :=
  s.get?_attempt_named (.closeDocument uri)

/-! ## Runs -/

theorem attemptAll_append (s : Store) (first second : List StoreOp) :
    s.attemptAll (first ++ second) = (s.attemptAll first).attemptAll second :=
  List.foldl_append

/-- **A document runs by itself**: the operations that name it act on it in their order, and the others do nothing. -/
theorem get?_attemptAll (s : Store) (ops : List StoreOp) (uri : String) :
    (s.attemptAll ops).get? uri = (ops.filter (·.uri = uri)).foldl (fun d op => op.act d) (s.get? uri) := by
  induction ops generalizing s with
  | nil => rfl
  | cons op ops ih =>
    show ((s.attempt op).attemptAll ops).get? uri = _
    rw [ih, get?_attempt]
    by_cases hu : op.uri = uri
    · rw [if_pos hu, List.filter_cons_of_pos (by simpa using hu), List.foldl_cons]
    · rw [if_neg hu, List.filter_cons_of_neg (by simpa using hu)]

end Store

/-! ## Calls -/

/-- An operation, and the store that it meets. -/
structure Call where
  store : Store
  op : StoreOp

namespace Call

/-- The call changes the document of `uri`, and succeeds. -/
def changes (uri : String) (c : Call) : Bool := c.op.edits uri && c.store.admits c.op

/-- The call closes the document of `uri`, which is open. -/
def closes (uri : String) (c : Call) : Bool := c.op = .closeDocument uri && c.store.contains uri

end Call

namespace Store

/-- The operations of a run, each with the store that those before it have left. -/
def calls (s : Store) : List StoreOp → List Call
  | [] => []
  | op :: ops => ⟨s, op⟩ :: (s.attempt op).calls ops

/-- The calls of a run that change the document of `uri`. -/
def changesOf (uri : String) (s : Store) (ops : List StoreOp) : List Call := (s.calls ops).filter (Call.changes uri)

theorem calls_append (s : Store) (first second : List StoreOp) :
    s.calls (first ++ second) = s.calls first ++ (s.attemptAll first).calls second := by
  induction first generalizing s with
  | nil => rfl
  | cons op first ih => exact congrArg (⟨s, op⟩ :: ·) (ih (s.attempt op))

/-- The operations of a run that succeed. -/
def admitted (s : Store) (ops : List StoreOp) : List StoreOp :=
  ((s.calls ops).filter fun c => c.store.admits c.op).map Call.op

/-- **Operations that fail have no effect**: a run of attempts is the run of those that succeed, and that one does not
fail. -/
theorem attemptRun_eq_applyAll (s : Store) (ops : List StoreOp) : s.attemptRun ops = s.applyAll (s.admitted ops) := by
  induction ops generalizing s with
  | nil => rfl
  | cons op ops ih =>
    cases ha : s.apply op with
    | error e =>
      have hsame : s.attempt op = s := by rw [attempt, ha]
      have hrun : s.attemptRun (op :: ops) = s.attemptRun ops := by
        simp only [attemptRun, attemptAll, List.foldl_cons, attemptRecords, ha, hsame, List.nil_append]
      have hadmitted : s.admitted (op :: ops) = s.admitted ops := by
        simp [admitted, calls, admits, ha, hsame, Except.isOk, Except.toBool]
      rw [hrun, hadmitted, ih]
    | ok r =>
      have hnext : s.attempt op = r.1 := by rw [attempt, ha]
      have hadmitted : s.admitted (op :: ops) = op :: r.1.admitted ops := by
        simp [admitted, calls, admits, ha, hnext, Except.isOk, Except.toBool]
      rw [hadmitted, applyAll, ha]
      simp only [← ih]
      simp only [attemptRun, attemptAll, List.foldl_cons, attemptRecords, ha, hnext]

end Store

/-- The last version of a list in which there may be none. -/
def lastGiven (versions : List (Option Int)) : Option Int := (versions.filterMap id).getLast?

theorem lastGiven_cons_cons (old new : Option Int) (versions : List (Option Int)) :
    lastGiven (old :: new :: versions) = lastGiven ((new <|> old) :: versions) := by
  unfold lastGiven
  rcases new with - | v
  · rfl
  · rcases old with - | w
    · rfl
    · exact List.getLast?_cons_cons

namespace Store

/-- An open document that is not being closed: it is changed by a call that says so, and otherwise kept. -/
theorem attempt_of_open {s : Store} {uri : String} {d : Document} (hd : s.get? uri = some d) {op : StoreOp}
    (hop : op ≠ .closeDocument uri) :
    ∃ e, (s.attempt op).get? uri = some e ∧
      (Call.changes uri ⟨s, op⟩ = true → ∃ text, e = d.update text op.version) ∧
      (Call.changes uri ⟨s, op⟩ = false → e = d) := by
  have hget := s.get?_attempt op uri
  rw [hd] at hget
  by_cases hedits : op.edits uri = true
  · have huri := StoreOp.uri_of_edits hedits
    have hchanges : Call.changes uri ⟨s, op⟩ = (op.edited d.text).isOk := by
      unfold Call.changes
      rw [hedits, Bool.true_and, admits_edit hd hedits]
    have hact : op.act (some d) = some (op.change d) := by
      cases op with
      | look | openDocument | closeDocument => cases hedits
      | replaceText | changeRange => rfl
    rw [if_pos huri, hact] at hget
    refine ⟨_, hget, ?_⟩
    rw [hchanges]
    unfold StoreOp.change
    rcases op.edited d.text with e | text
    · exact ⟨nofun, fun _ => rfl⟩
    · exact ⟨fun _ => ⟨text, rfl⟩, nofun⟩
  · have hsame : (if op.uri = uri then op.act (some d) else some d) = some d := by
      by_cases hu : op.uri = uri
      · rw [if_pos hu]
        cases op with
        | look | openDocument => rfl
        | closeDocument u => exact absurd (congrArg StoreOp.closeDocument hu) hop
        | replaceText u | changeRange u => exact absurd (beq_iff_eq.2 hu) hedits
      · rw [if_neg hu]
    rw [hsame] at hget
    refine ⟨d, hget, fun h => ?_, fun _ => rfl⟩
    exact absurd (Bool.and_eq_true_iff.1 h).1 hedits

theorem changesOf_cons (uri : String) (s : Store) (op : StoreOp) (ops : List StoreOp) :
    s.changesOf uri (op :: ops) =
      if Call.changes uri ⟨s, op⟩ then ⟨s, op⟩ :: (s.attempt op).changesOf uri ops
      else (s.attempt op).changesOf uri ops :=
  List.filter_cons

/-- **The revision counts the changes, and the version is the last one given**, as long as a document is not closed. -/
theorem attemptAll_of_open {s : Store} {uri : String} {d : Document} (hd : s.get? uri = some d) {ops : List StoreOp}
    (hops : .closeDocument uri ∉ ops) :
    ∃ e, (s.attemptAll ops).get? uri = some e ∧ e.revision = d.revision + (s.changesOf uri ops).length ∧
      e.version = lastGiven (d.version :: (s.changesOf uri ops).map (·.op.version)) ∧
      (s.changesOf uri ops = [] → e = d) := by
  induction ops generalizing s d with
  | nil =>
    refine ⟨d, hd, rfl, ?_, fun _ => rfl⟩
    rcases hversion : d.version with - | v <;> rfl
  | cons op ops ih =>
    obtain ⟨hop, hops⟩ : op ≠ .closeDocument uri ∧ .closeDocument uri ∉ ops := by simpa [eq_comm] using hops
    obtain ⟨m, hm, hchanged, hkept⟩ := attempt_of_open hd hop
    obtain ⟨e, he, hrevision, hversion, hsame⟩ := ih hm hops
    refine ⟨e, he, ?_⟩
    rw [changesOf_cons, hrevision, hversion]
    cases hc : Call.changes uri ⟨s, op⟩ with
    | true =>
      obtain ⟨text, rfl⟩ := hchanged hc
      refine ⟨?_, (lastGiven_cons_cons _ _ _).symm, nofun⟩
      show d.revision + 1 + _ = d.revision + (_ + 1)
      omega
    | false =>
      obtain rfl := hkept hc
      exact ⟨rfl, rfl, hsame⟩

/-- A document that is closed stays closed until it is opened. -/
theorem attempt_of_closed {s : Store} {uri : String} (hd : s.get? uri = none) {op : StoreOp}
    (hop : ∀ text version, op ≠ .openDocument uri text version) : (s.attempt op).get? uri = none := by
  rw [get?_attempt, hd]
  by_cases hu : op.uri = uri
  · rw [if_pos hu]
    cases op with
    | openDocument u text version => exact absurd (congrArg (StoreOp.openDocument · text version) hu) (hop text version)
    | look | closeDocument | replaceText | changeRange => rfl
  · rw [if_neg hu]

/-- A change of a document that is closed fails. -/
theorem changes_of_closed {s : Store} {uri : String} (hd : s.get? uri = none) (op : StoreOp) :
    Call.changes uri ⟨s, op⟩ = false := by
  cases hedits : op.edits uri with
  | false => simp [Call.changes, hedits]
  | true => simp [Call.changes, admits, apply_edit_of_closed hd hedits, Except.isOk, Except.toBool]

/-- **The revision of a document counts from the last time that it was opened**: if it was closed and is open now, it
has been opened, and only the changes since then have succeeded. -/
theorem attemptAll_of_closed {s : Store} {uri : String} (hd : s.get? uri = none) {ops : List StoreOp}
    (hops : .closeDocument uri ∉ ops) {e : Document} (he : (s.attemptAll ops).get? uri = some e) :
    e.revision = (s.changesOf uri ops).length ∧ ∃ text version, .openDocument uri text version ∈ ops := by
  induction ops generalizing s with
  | nil => cases hd.symm.trans he
  | cons op ops ih =>
    have hops' : .closeDocument uri ∉ ops := fun h => hops (List.mem_cons_of_mem _ h)
    rw [changesOf_cons, changes_of_closed hd, if_neg Bool.false_ne_true]
    by_cases hopens : ∃ text version, op = .openDocument uri text version
    · obtain ⟨text, version, rfl⟩ := hopens
      obtain ⟨f, hf, hrevision, -⟩ := attemptAll_of_open (get?_attempt_open hd text version) hops'
      obtain rfl : e = f := Option.some.inj (he.symm.trans hf)
      exact ⟨hrevision.trans (Nat.zero_add _), text, version, List.mem_cons_self⟩
    · have hclosed := attempt_of_closed hd fun text version h => hopens ⟨text, version, h⟩
      obtain ⟨hrevision, text, version, hmem⟩ := ih hclosed hops' he
      exact ⟨hrevision, text, version, List.mem_cons_of_mem _ hmem⟩

/-- As long as no call closes an open document, no operation asks for it: the first that did would find it open. -/
theorem not_mem_of_not_closes {s : Store} {uri : String} {d : Document} (hd : s.get? uri = some d) {ops : List StoreOp}
    (h : ∀ c ∈ s.calls ops, c.closes uri = false) : .closeDocument uri ∉ ops := by
  intro hmem
  obtain ⟨first, rest, rfl, hfirst⟩ := List.eq_append_cons_of_mem hmem
  obtain ⟨e, he, -⟩ := attemptAll_of_open hd hfirst
  have hcall : (⟨s.attemptAll first, .closeDocument uri⟩ : Call) ∈ s.calls (first ++ .closeDocument uri :: rest) := by
    rw [calls_append]
    exact List.mem_append_right _ List.mem_cons_self
  have hcloses := h _ hcall
  unfold Call.closes at hcloses
  rw [contains_iff.2 ⟨e, he⟩] at hcloses
  simp at hcloses

/-- **A snapshot stays current until the document is changed**, as long as it is not closed. -/
theorem isCurrent_attemptAll_iff {s : Store} {uri : String} {d : Document} (hd : s.get? uri = some d)
    {ops : List StoreOp} (hops : .closeDocument uri ∉ ops) :
    (s.attemptAll ops).isCurrent d = true ↔ s.changesOf uri ops = [] := by
  obtain ⟨e, he, hrevision, -⟩ := attemptAll_of_open hd hops
  rw [isCurrent_iff, uri_of_get? hd, he, ← List.length_eq_zero_iff]
  simp only [Option.some.injEq, exists_eq_left', hrevision]
  omega

/-! ## Openings -/

/-- The operation between `before` and `after` has opened the document of `uri`: it was closed then, and has not been
closed since. -/
structure Opening (uri : String) (ops before : List StoreOp) (text : Text) (version : Option Int)
    (after : List StoreOp) : Prop where
  split : ops = before ++ .openDocument uri text version :: after
  closed : (empty.attemptAll before).get? uri = none
  kept : .closeDocument uri ∉ after

theorem Opening.get? {uri : String} {ops before : List StoreOp} {text : Text} {version : Option Int}
    {after : List StoreOp} (h : Opening uri ops before text version after) :
    (empty.attemptAll (before ++ [.openDocument uri text version])).get? uri = some ⟨uri, text, version, 0⟩ := by
  rw [attemptAll_append]
  exact get?_attempt_open h.closed text version

theorem Opening.attemptAll_eq {uri : String} {ops before : List StoreOp} {text : Text} {version : Option Int}
    {after : List StoreOp} (h : Opening uri ops before text version after) :
    empty.attemptAll ops = (empty.attemptAll (before ++ [.openDocument uri text version])).attemptAll after := by
  rw [← attemptAll_append, h.split, List.append_assoc, List.singleton_append]

/-- **A document that is open has been opened.** -/
theorem exists_opening {uri : String} {ops : List StoreOp} {d : Document}
    (hd : (empty.attemptAll ops).get? uri = some d) :
    ∃ before text version after, Opening uri ops before text version after := by
  induction ops using List.reverseRecOn generalizing d with
  | nil => cases hd
  | append_singleton ops op ih =>
    rw [attemptAll_append] at hd
    have hlast : ((empty.attemptAll ops).attempt op).get? uri = some d := hd
    rw [get?_attempt] at hlast
    cases hbefore : (empty.attemptAll ops).get? uri with
    | some e =>
      obtain ⟨before, text, version, after, hopening⟩ := ih hbefore
      have hop : op ≠ .closeDocument uri := by
        rintro rfl
        cases (get?_attempt_close _ uri).symm.trans hd
      refine ⟨before, text, version, after ++ [op], ?_, hopening.closed, ?_⟩
      · rw [hopening.split, List.append_assoc, List.cons_append]
      · simpa [hop.symm] using hopening.kept
    | none =>
      rw [hbefore] at hlast
      by_cases hu : op.uri = uri
      · rw [if_pos hu] at hlast
        cases op with
        | openDocument u text version =>
          obtain rfl : u = uri := hu
          exact ⟨ops, text, version, [], rfl, hbefore, List.not_mem_nil⟩
        | look | closeDocument | replaceText | changeRange => cases hlast
      · rw [if_neg hu] at hlast
        cases hlast

end Store

/-- **Documents after any run.** What has become of a document depends only on the operations that name it. It is open
just if some operation has opened it and none has closed it since; its revision and its version are those of the changes
that have succeeded since; and a snapshot is current just until the next of these. -/
theorem store_runs (ops : List StoreOp) (uri : String) :
    let store := Store.empty.attemptAll ops
    store.get? uri = (Store.empty.attemptAll (ops.filter (·.uri = uri))).get? uri ∧
      (∀ ops', (∀ u, ops.filter (·.uri = u) = ops'.filter (·.uri = u)) →
        ∀ u, store.get? u = (Store.empty.attemptAll ops').get? u) ∧
      (∀ d, store.get? uri = some d → ∃ before text version after, Store.Opening uri ops before text version after) ∧
      (∀ before text version after, Store.Opening uri ops before text version after →
        let changes := (Store.empty.attemptAll (before ++ [.openDocument uri text version])).changesOf uri after
        ∃ d, store.get? uri = some d ∧ d.revision = changes.length ∧
          d.version = lastGiven (version :: changes.map (·.op.version))) ∧
      ∀ before after snapshot, ops = before ++ after → (Store.empty.attemptAll before).get uri = .ok snapshot →
        (∀ c ∈ (Store.empty.attemptAll before).calls after, c.closes uri = false) →
          (store.isCurrent snapshot = true ↔ (Store.empty.attemptAll before).changesOf uri after = []) := by
  intro store
  refine ⟨?_, fun ops' hops u => ?_, fun d hd => Store.exists_opening hd, ?_, ?_⟩
  · have htwice : (ops.filter (·.uri = uri)).filter (·.uri = uri) = ops.filter (·.uri = uri) := by
      rw [List.filter_filter]
      simp only [Bool.and_self]
    rw [Store.get?_attemptAll, Store.get?_attemptAll, htwice]
  · rw [Store.get?_attemptAll, Store.get?_attemptAll, hops u]
  · intro before text version after hopening changes
    obtain ⟨d, hd, hrevision, hversion, -⟩ := Store.attemptAll_of_open hopening.get? hopening.kept
    rw [← hopening.attemptAll_eq] at hd
    exact ⟨d, hd, hrevision.trans (Nat.zero_add _), hversion⟩
  · rintro before after snapshot rfl hsnapshot hcloses
    have hd := Store.get_eq_ok.1 hsnapshot
    have hstore : store = (Store.empty.attemptAll before).attemptAll after := Store.attemptAll_append _ before after
    rw [hstore]
    exact Store.isCurrent_attemptAll_iff hd (Store.not_mem_of_not_closes hd hcloses)

/-- A document is opened twice and edited without a version; a change without a range fails, and so does the change of a
document that is not open. -/
theorem store_runs_mixed :
    let ops : List StoreOp :=
      [.openDocument "a" ['x'] (some 1), .openDocument "a" ['y'] (some 2), .replaceText "b" [] (some 3),
        .changeRange "a" none [] (some 4) (.known .utf8), .replaceText "a" ['x'] none, .closeDocument "b"]
    (∃ d, (Store.empty.attemptAll ops).get? "a" = some d ∧ d.revision = 1 ∧ d.version = some 1) ∧
      (Store.empty.attemptAll ops).isCurrent ⟨"a", ['x'], some 1, 0⟩ = false := by
  intro ops
  obtain ⟨-, -, -, hopening, hsnapshot⟩ := store_runs ops "a"
  obtain ⟨d, hd, hrevision, hversion⟩ := hopening [] ['x'] (some 1) _ ⟨rfl, rfl, by decide⟩
  refine ⟨⟨d, hd, hrevision, hversion⟩, ?_⟩
  have hcurrent := hsnapshot (ops.take 2) (ops.drop 2) ⟨"a", ['x'], some 1, 0⟩ rfl rfl (by decide)
  rw [← Bool.not_eq_true, hcurrent]
  decide

end SmaliLint
