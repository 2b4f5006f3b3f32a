import SmaliLint.Document

/-!
# Documents looked up in a store

* `get?_put`, `get?_openDocument`, `get?_closeDocument` : looking a document up after a change;
* `get_eq_ok`, `get_of_closed` : looking up a document that must be open;
* `isCurrent_iff` : when a snapshot is current;
* `changeRange_eq_ok` : what a change of a range that succeeds has found and written.
-/

namespace SmaliLint

namespace Store

/-! ## After a change -/

theorem uri_of_get? {s : Store} {uri : String} {d : Document} (h : s.get? uri = some d) : d.uri = uri := by
  simpa using List.find?_some h

theorem get?_put (s : Store) (d : Document) (uri : String) :
    (s.put d).get? uri = if d.uri = uri then (s.get? uri).map fun _ => d else s.get? uri := by
  have hkeep : ((fun e : Document => e.uri == uri) ∘ fun e => if e.uri = d.uri then d else e) =
      fun e => e.uri == uri := by
    funext e
    by_cases he : e.uri = d.uri <;> simp [he]
  rw [get?, put, List.find?_map, hkeep, ← get?]
  cases hg : s.get? uri with
  | none => simp
  | some e =>
    by_cases hu : d.uri = uri
    · simp [uri_of_get? hg, hu]
    · simp [uri_of_get? hg, hu, Ne.symm hu]

theorem get?_put_update {s : Store} {uri : String} {d : Document} (hd : s.get? uri = some d) (text : Text)
    (version : Option Int) (u : String) :
    (s.put (d.update text version)).get? u = if uri = u then some (d.update text version) else s.get? u := by
  have huri : (d.update text version).uri = uri := (uri_of_get? hd : d.uri = uri)
  rw [get?_put, huri]
  by_cases hu : uri = u
  · subst hu
    rw [if_pos rfl, if_pos rfl, hd]
    rfl
  · rw [if_neg hu, if_neg hu]

theorem contains_iff {s : Store} {uri : String} : s.contains uri = true ↔ ∃ d, s.get? uri = some d := by
  rw [contains, Option.isSome_iff_exists]

theorem get?_openDocument (s : Store) (u : String) (text : Text) (version : Option Int) (uri : String) :
    (s.openDocument u text version).1.get? uri =
      if u = uri then s.get? uri <|> some ⟨uri, text, version, 0⟩ else s.get? uri := by
  unfold openDocument
  by_cases hc : s.contains u = true
  · rw [if_pos hc]
    by_cases hu : u = uri
    · subst hu
      obtain ⟨d, hd⟩ := contains_iff.1 hc
      simp [hd]
    · rw [if_neg hu]
  · rw [if_neg hc, get?, List.find?_append, ← get?]
    by_cases hu : u = uri
    · subst hu
      cases s.get? u <;> simp
    · cases s.get? uri <;> simp [hu]

theorem get?_closeDocument (s : Store) (u uri : String) :
    (s.closeDocument u).1.get? uri = if u = uri then none else s.get? uri := by
  unfold closeDocument
  by_cases hc : s.contains u = true
  · rw [if_pos hc, get?, List.find?_filter]
    by_cases hu : u = uri
    · subst hu
      simp
    · rw [if_neg hu, get?]
      congr 1
      funext e
      by_cases he : e.uri = uri <;> simp [he, Ne.symm hu]
  · rw [if_neg hc]
    by_cases hu : u = uri
    · subst hu
      rw [if_pos rfl]
      simpa [contains] using hc
    · rw [if_neg hu]

/-! ## Documents that must be open -/

theorem get_eq_ok {s : Store} {uri : String} {d : Document} : s.get uri = .ok d ↔ s.get? uri = some d := by
  unfold get
  cases s.get? uri <;> simp

theorem get_of_closed {s : Store} {uri : String} (h : s.get? uri = none) : s.get uri = .error (.notOpen uri) := by
  unfold get
  rw [h]

theorem changeRange_eq_ok {s t : Store} {u : String} {range : Option EditRange} {text : Text}
    {version : Option Int} {encoding : Encoding} (h : s.changeRange u range text version encoding = .ok t) :
    ∃ d r start stop, s.get? u = some d ∧ range = some r ∧
      offsetIn d.text encoding r.startLine r.startColumn = .ok start ∧
      offsetIn d.text encoding r.stopLine r.stopColumn = .ok stop ∧
      t = s.put (d.update (d.text.splice start stop text) version) := by
  unfold changeRange at h
  cases hg : s.get u with
  | error e => simp [hg, bind, Except.bind] at h
  | ok d =>
    cases range with
    | none => simp [hg, bind, Except.bind] at h
    | some r =>
      cases hstart : offsetIn d.text encoding r.startLine r.startColumn with
      | error e => simp [hg, hstart, bind, Except.bind] at h
      | ok start =>
        cases hstop : offsetIn d.text encoding r.stopLine r.stopColumn with
        | error e => simp [hg, hstart, hstop, bind, Except.bind] at h
        | ok stop =>
          simp only [hg, hstart, hstop, bind, Except.bind, pure, Except.pure, Except.ok.injEq] at h
          exact ⟨d, r, start, stop, get_eq_ok.1 hg, rfl, hstart, hstop, h.symm⟩

/-! ## Snapshots -/

theorem isCurrent_iff {s : Store} {d : Document} :
    s.isCurrent d = true ↔ ∃ e, s.get? d.uri = some e ∧ e.revision = d.revision := by
  unfold isCurrent
  cases s.get? d.uri <;> simp

theorem isCurrent_of_get? {s : Store} {uri : String} {d : Document} (hd : s.get? uri = some d) :
    s.isCurrent d = true :=
  isCurrent_iff.2 ⟨d, (uri_of_get? hd).symm ▸ hd, rfl⟩

end Store

end SmaliLint
