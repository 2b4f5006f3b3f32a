import SmaliLint.Proofs.Position.Offset
import SmaliLint.Proofs.Server.Session

/-!
# Changes of ranges against changes of whole texts

A client may send what it has changed, as ranges, or the text it has arrived at. The server ends up with the same
document either way, and sends the same.

* `EditRange.between u s start stop` : the range of a text between two offsets, in the units `u`;
* `Edit u s c t`, `Edits u s cs t` : one change, or one and more, lead from the text `s` to `t`; each range is told
  in the text that it is applied to;
* `changeRange_between` : such a range is cut out exactly;
* `changeDocument_edits` : so the document is validated with the text that the client has;
* `validateDocument_congr` : what is sent for a document depends on its text and version only.
-/

namespace SmaliLint

/-- The range between two offsets of a text. -/
def EditRange.between (u : Units) (s : Text) (start stop : Nat) : EditRange :=
  let first := Position.ofOffset u s start
  let last := Position.ofOffset u s stop
  ⟨first.line, first.column, last.line, last.column⟩

/-- The change turns one text into another: it replaces what stands between `p` and `q`, or everything. -/
inductive Edit (u : Units) : Text → ContentChange → Text → Prop where
  | range (p x q y : Text) :
      Edit u (p ++ x ++ q) ⟨some (.between u (p ++ x ++ q) p.length (p.length + x.length)), y⟩ (p ++ y ++ q)
  | whole (s y : Text) : Edit u s ⟨none, y⟩ y

/-- One change or more, each of the text that those before it have left. -/
inductive Edits (u : Units) : Text → List ContentChange → Text → Prop where
  | last {s t : Text} {c : ContentChange} : Edit u s c t → Edits u s [c] t
  | next {s m t : Text} {c : ContentChange} {cs : List ContentChange} :
      Edit u s c m → Edits u m cs t → Edits u s (c :: cs) t

/-! ## One change -/

theorem Text.splice_append (p x q y : Text) :
    (p ++ x ++ q).splice p.length (p.length + x.length) y = p ++ y ++ q := by
  have hmax : max p.length (p.length + x.length) = (p ++ x).length := by
    rw [List.length_append]
    omega
  unfold Text.splice
  rw [hmax, List.drop_left, List.append_assoc p x q, List.take_left]

theorem Store.offsetIn_ofOffset (u : Units) (s : Text) {n : Nat} (hn : n ≤ s.length) :
    Store.offsetIn s (.known u) (Position.ofOffset u s n).line (Position.ofOffset u s n).column = .ok n := by
  have hclamp : s.clampOffset n = n := by
    unfold Text.clampOffset
    omega
  unfold offsetIn Encoding.offsetOf
  dsimp only
  rw [offsetAt?_ofOffset, hclamp]
  rfl

/-- **A range is cut out exactly**, whatever the units its columns count. -/
theorem Store.changeRange_between {s : Store} {uri : String} {d : Document} (hd : s.get? uri = some d) {p x q : Text}
    (htext : d.text = p ++ x ++ q) (y : Text) (version : Option Int) (u : Units) :
    s.changeRange uri (some (.between u (p ++ x ++ q) p.length (p.length + x.length))) y version (.known u) =
      .ok (s.put (d.update (p ++ y ++ q) version)) := by
  have hlen : (p ++ x ++ q).length = p.length + x.length + q.length := by rw [List.length_append, List.length_append]
  have hstart := offsetIn_ofOffset u (p ++ x ++ q) (n := p.length) (by omega)
  have hstop := offsetIn_ofOffset u (p ++ x ++ q) (n := p.length + x.length) (by omega)
  unfold changeRange
  rw [get_eq_ok.2 hd]
  simp only [bind, Except.bind, EditRange.between, htext, hstart, hstop, Text.splice_append]
  rfl

theorem Server.applyChange_edit {s : Server} {uri : String} {d : Document} (hd : s.store.get? uri = some d)
    (version : Option Int) {c : ContentChange} {t : Text} (h : Edit s.units d.text c t) :
    s.applyChange uri version c = .ok (s.store.put (d.update t version)) := by
  generalize htext : d.text = text at h
  cases h with
  | range p x q y => exact Store.changeRange_between hd htext y version s.units
  | whole _ y =>
    show s.store.replaceText uri _ version = _
    unfold Store.replaceText
    rw [Store.get_eq_ok.2 hd]
    rfl

/-! ## All changes of a message -/

namespace Server

/-- **The changes are carried out, and the document is validated as the client has it.** -/
theorem changeDocument_edits {s : Server} {uri : String} {d : Document} (hd : s.store.get? uri = some d)
    (version : Option Int) {cs : List ContentChange} {t : Text} (h : Edits s.units d.text cs t) :
    ∃ store : Store, s.changeDocument uri version cs = validateDocument { s with store := store } uri [] ∧
      store.get? uri = some ⟨uri, t, version <|> d.version, d.revision + cs.length⟩ ∧
      ∀ u, u ≠ uri → store.get? u = s.store.get? u := by
  have huri := Store.uri_of_get? hd
  obtain ⟨units, hunits⟩ : ∃ units, s.units = units := ⟨_, rfl⟩
  obtain ⟨text, htext⟩ : ∃ text, d.text = text := ⟨_, rfl⟩
  rw [hunits, htext] at h
  induction h generalizing s d with
  | @last _ t c hc =>
    have happly := applyChange_edit hd version (hunits ▸ htext ▸ hc)
    refine ⟨s.store.put (d.update t version), ?_, ?_, fun u hu => ?_⟩
    · rw [changeDocument, happly]
      rfl
    · rw [Store.get?_put_update hd, if_pos rfl, ← huri]
      rfl
    · rw [Store.get?_put_update hd, if_neg hu.symm]
  | @next _ m t c cs hc _ ih =>
    have happly := applyChange_edit hd version (hunits ▸ htext ▸ hc)
    have hnext : (s.store.put (d.update m version)).get? uri = some (d.update m version) := by
      rw [Store.get?_put_update hd, if_pos rfl]
    obtain ⟨store, hturn, hget, hothers⟩ :=
      ih (s := { s with store := s.store.put (d.update m version) }) hnext huri hunits rfl
    have hversion : (version <|> (version <|> d.version)) = (version <|> d.version) := by cases version <;> rfl
    have hrevision : d.revision + 1 + cs.length = d.revision + (c :: cs).length := by
      rw [List.length_cons]
      omega
    refine ⟨store, ?_, ?_, fun u hu => ?_⟩
    · rw [changeDocument, happly]
      exact hturn
    · rw [hget, ← hversion, ← hrevision]
      rfl
    · rw [hothers u hu, Store.get?_put_update hd, if_neg hu.symm]

/-- What is sent for an open document depends on its text and its version. -/
theorem validateDocument_congr (s : Server) {store store' : Store} {uri : String} {d e : Document}
    (hd : store.get? uri = some d) (he : store'.get? uri = some e) (htext : d.text = e.text)
    (hversion : d.version = e.version) :
    (validateDocument { s with store := store } uri []).sent = (validateDocument { s with store := store' } uri []).sent ∧
      (validateDocument { s with store := store } uri []).records =
        (validateDocument { s with store := store' } uri []).records ∧
      (validateDocument { s with store := store } uri []).failure =
        (validateDocument { s with store := store' } uri []).failure := by
  have huri : d.uri = e.uri := (Store.uri_of_get? hd).trans (Store.uri_of_get? he).symm
  have hcurrent : (store.attemptAll []).isCurrent d = true := Store.isCurrent_of_get? hd
  have hcurrent' : (store'.attemptAll []).isCurrent e = true := Store.isCurrent_of_get? he
  cases hval : validate e.text s.rules with
  | error cause =>
    rw [validateDocument_of_unknown (s := { s with store := store }) hd (htext ▸ hval),
      validateDocument_of_unknown (s := { s with store := store' }) he hval]
    exact ⟨rfl, rfl, rfl⟩
  | ok found =>
    rw [validateDocument_of_found (s := { s with store := store }) hd (htext ▸ hval),
      validateDocument_of_found (s := { s with store := store' }) he hval]
    simp only [publishFindings, hcurrent, hcurrent', if_true, Turn.after, huri, hversion, htext, Store.attemptRecords,
      and_self]

end Server

/-- **Changes of ranges are as good as the whole text.** A change of the range between two offsets, told in any units,
puts the new text in its place. Any such changes in one message, each told in the text that those before it have left,
do and send what the final text as a whole would. -/
theorem incremental_sync_eq_full_sync :
    (∀ (s : Store) (uri : String) (d : Document) (p x q y : Text) (version : Option Int) (u : Units),
      s.get? uri = some d → d.text = p ++ x ++ q →
        ∃ t e, s.changeRange uri (some (.between u (p ++ x ++ q) p.length (p.length + x.length))) y version
            (.known u) = .ok t ∧
          t.get? uri = some e ∧ e.text = p ++ y ++ q ∧ ∀ v, v ≠ uri → t.get? v = s.get? v) ∧
      ∀ (s : Server) (uri : String) (d : Document) (cs : List ContentChange) (final : Text) (version : Option Int),
        s.store.get? uri = some d → Edits s.units d.text cs final →
          let step := s.handle (.changed uri cs version)
          let full := s.handle (.changed uri [⟨none, final⟩] version)
          (∃ e f, step.server.store.get? uri = some e ∧ full.server.store.get? uri = some f ∧
            e.text = final ∧ f.text = final ∧ e.version = (version <|> d.version) ∧ f.version = e.version) ∧
          (∀ u, u ≠ uri → step.server.store.get? u = full.server.store.get? u) ∧
          step.sent = full.sent ∧ step.records = full.records ∧ step.failure = full.failure := by
  constructor
  · intro s uri d p x q y version u hd htext
    refine ⟨_, d.update (p ++ y ++ q) version, Store.changeRange_between hd htext y version u, ?_, rfl, fun v hv => ?_⟩
    · rw [Store.get?_put_update hd, if_pos rfl]
    · rw [Store.get?_put_update hd, if_neg hv.symm]
  · intro s uri d cs final version hd hcs step full
    obtain ⟨store, hstep, hget, hothers⟩ := Server.changeDocument_edits hd version hcs
    obtain ⟨store', hfull, hget', hothers'⟩ := Server.changeDocument_edits hd version (.last (.whole d.text final))
    have hstep : step = Server.validateDocument { s with store := store } uri [] := hstep
    have hfull : full = Server.validateDocument { s with store := store' } uri [] := hfull
    have hserver : step.server.store = store := by rw [hstep, Server.validateDocument_server]
    have hserver' : full.server.store = store' := by rw [hfull, Server.validateDocument_server]
    rw [hserver, hserver']
    refine ⟨⟨_, _, hget, hget', rfl, rfl, rfl, rfl⟩, fun u hu => ?_, ?_⟩
    · exact (hothers u hu).trans (hothers' u hu).symm
    · rw [hstep, hfull]
      exact Server.validateDocument_congr s hget hget' rfl rfl

/-- A character of two units is replaced, and a line feed is put at the end of what that leaves. -/
theorem incremental_sync_eq_full_sync_wide :
    let document : Document := ⟨"file:///a.smali", "a😀b".toList, some 1, 0⟩
    let server : Server := ⟨⟨[document]⟩, none, .hint, .utf16⟩
    EditRange.between .utf16 "a😀b".toList 1 2 = ⟨0, 1, 0, 3⟩ ∧
      EditRange.between .utf16 "axb".toList 3 3 = ⟨0, 3, 0, 3⟩ ∧
      (∃ t e, server.store.changeRange "file:///a.smali" (some ⟨0, 1, 0, 3⟩) ['x'] (some 2) (.known .utf16) = .ok t ∧
        t.get? "file:///a.smali" = some e ∧ e.text = "axb".toList) ∧
      (server.handle (.changed "file:///a.smali" [⟨some ⟨0, 1, 0, 3⟩, ['x']⟩, ⟨some ⟨0, 3, 0, 3⟩, ['\n']⟩]
          (some 2))).sent =
        (server.handle (.changed "file:///a.smali" [⟨none, "axb\n".toList⟩] (some 2))).sent := by
  intro document server
  have hfirst : EditRange.between .utf16 "a😀b".toList 1 2 = ⟨0, 1, 0, 3⟩ := by decide
  have hsecond : EditRange.between .utf16 "axb".toList 3 3 = ⟨0, 3, 0, 3⟩ := by decide
  have hopen : server.store.get? "file:///a.smali" = some document := by decide
  have hlast : Edit .utf16 "axb".toList ⟨some ⟨0, 3, 0, 3⟩, ['\n']⟩ "axb\n".toList := .range "axb".toList [] [] ['\n']
  have hedits : Edits .utf16 "a😀b".toList [⟨some ⟨0, 1, 0, 3⟩, ['x']⟩, ⟨some ⟨0, 3, 0, 3⟩, ['\n']⟩] "axb\n".toList :=
    .next (.range ['a'] ['😀'] ['b'] ['x']) (.last hlast)
  obtain ⟨hcut, hsync⟩ := incremental_sync_eq_full_sync
  obtain ⟨t, e, ht, he, htext, -⟩ := hcut server.store "file:///a.smali" document ['a'] ['😀'] ['b'] ['x'] (some 2)
    .utf16 hopen rfl
  obtain ⟨-, -, hsent, -⟩ := hsync server "file:///a.smali" document _ _ (some 2) hopen hedits
  exact ⟨hfirst, hsecond, ⟨t, e, ht, he, htext⟩, hsent⟩

end SmaliLint
