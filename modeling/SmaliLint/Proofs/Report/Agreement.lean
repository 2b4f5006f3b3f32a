import SmaliLint.Proofs.Server.PublishedRange
import SmaliLint.Proofs.Validation.InertLines
import SmaliLint.Report

/-!
# What is reported and what is published

A file may be checked by a command, which reports what it finds, or opened in an editor, for which the server publishes
what it finds. The command reads the file with line feeds for all line ends and sorts what it reports; the server has the
text as the editor sent it and publishes in the order of the findings. Both tell the same.

* `Diagnostic.shown` : what a reader sees of a diagnostic, its range, severity and message;
* `Text.ReturnsPaired.unifyLineEnds_eq` : how a file is read;
* `Text.SameLines.shown_eq` : line ends do not change what is seen;
* `selectFindings_perm` : the command reports what is serious enough, in another order;
* `Server.published_of_opened` : the server publishes what is serious enough.
-/

namespace SmaliLint

/-- What is seen of a diagnostic: the lines and columns of its range, how serious it is, and what it says. -/
def Diagnostic.shown (d : Diagnostic) : EditRange × Severity × String := (d.span.range, d.severity, d.message)

/-! ## Reading -/

/-- Where carriage returns stand before line feeds only, the lone ones that reading also replaces do not occur. -/
theorem Text.ReturnsPaired.unifyLineEnds_eq {s : Text} (h : s.ReturnsPaired) : s.unifyLineEnds = s.toLineFeeds := by
  fun_induction toLineFeeds s with
  | case1 => rfl
  | case2 s ih => rw [unifyLineEnds, ih h.tail.tail]
  | case3 c s hpair ih =>
    have hc : c ≠ '\r' := by
      rintro rfl
      have hfeed : s[0]? = some '\n' := h 0 rfl
      obtain ⟨rest, rfl⟩ : ∃ rest, s = '\n' :: rest := by
        rcases s with - | ⟨d, rest⟩
        · cases hfeed
        · exact ⟨rest, by simpa using hfeed⟩
      exact hpair rest rfl rfl
    rw [unifyLineEnds, ih h.tail]
    · exact hpair
    · exact hc

theorem Disk.readText_of_paired {disk : Disk} {path : Path} {bytes : List UInt8} {content : Text}
    (hread : disk.read path = .ok bytes) (hdecode : Utf8.decode bytes = .ok content) (hpaired : content.ReturnsPaired) :
    disk.readText path = .ok content.toLineFeeds := by
  unfold readText
  rw [hread, ← hpaired.unifyLineEnds_eq]
  simp only [bind, Except.bind, hdecode]
  rfl

/-! ## Findings -/

theorem Text.SameLines.shown_eq {s n : Text} (h : SameLines s n) (rules : List Rule) :
    (findings (trace rules s)).map Diagnostic.shown = (findings (trace rules n)).map Diagnostic.shown := by
  have hshown := congrArg (List.map Diagnostic.shown) (h.findings_eq rules)
  rwa [List.map_map, List.map_map] at hshown

/-- Whether a diagnostic is serious enough can be seen. -/
theorem map_shown_filter (least : Severity) (ds : List Diagnostic) :
    (ds.filter (·.severity.reaches least)).map Diagnostic.shown =
      (ds.map Diagnostic.shown).filter (·.2.1.reaches least) := by
  rw [List.filter_map]
  rfl

theorem selectFindings_perm (least : Severity) (ds : List Diagnostic) :
    (selectFindings least ds).Perm (ds.filter (·.severity.reaches least)) :=
  List.mergeSort_perm _ _

/-! ## The server -/

/-- **A document that is opened is published once**, with the findings that are serious enough. -/
theorem Server.published_of_opened {s : Server} {rules : List Rule} (hrules : Rule.select s.rules = .ok rules)
    {uri : String} (hclosed : s.store.get? uri = none) (text : Text) (version : Option Int) :
    (s.handle (.opened uri text version)).failure = none ∧
      (s.handle (.opened uri text version)).sent.filterMap (·.published? uri) =
        [(version, ((findings (trace rules text)).filter (·.severity.reaches s.least)).map (·.remeasure s.units text))] := by
  have hopen : (s.store.openDocument uri text version).1.get? uri = some ⟨uri, text, version, 0⟩ := by
    rw [Store.get?_openDocument, if_pos rfl, hclosed]
    rfl
  obtain ⟨ds, begun, ended, records, hds, hturn⟩ :=
    validateDocument_of_open (s := { s with store := (s.store.openDocument uri text version).1 }) hrules hopen
  obtain ⟨found, hfound, rfl⟩ := diagnosticsOf_eq_ok.1 hds
  obtain rfl : findings (trace rules text) = found :=
    Except.ok.inj ((validate_of_select hrules text).symm.trans hfound)
  show (Turn.after _ _ _).failure = none ∧ (Turn.after _ _ _).sent.filterMap _ = _
  rw [hturn]
  refine ⟨rfl, ?_⟩
  simp [Turn.after, Notification.published?]

/-- **The command reports what the server publishes.** Of a file in which carriage returns stand before line feeds only,
the report has, in another order, the ranges, severities and messages that the server publishes, once, for a client that
counts code points and opens a document with the text as the file holds it. -/
theorem reported_perm_published (content : Text) (hpaired : content.ReturnsPaired) (rules : Option (List Rule))
    (least : Severity) (store : Store) (uri : String) (hclosed : store.get? uri = none) (version : Option Int) :
    let names := rules.map (·.map Rule.name)
    let turn := Server.handle ⟨store, names, least, .utf32⟩ (.opened uri content version)
    (∀ (disk : Disk) (path : Path) (bytes : List UInt8), disk.read path = .ok bytes → Utf8.decode bytes = .ok content →
      disk.readText path = .ok content.toLineFeeds) ∧
    ∃ reported published, checkSource content.toLineFeeds names least = .ok reported ∧
      turn.failure = none ∧ turn.sent.filterMap (·.published? uri) = [(version, published)] ∧
      (reported.map Diagnostic.shown).Perm (published.map Diagnostic.shown) := by
  intro names turn
  obtain ⟨selected, hselect⟩ := Rule.select_known rules
  have hreported : checkSource content.toLineFeeds names least =
      .ok (selectFindings least (findings (trace selected content.toLineFeeds))) := by
    unfold checkSource
    rw [validate_of_select hselect]
    rfl
  obtain ⟨hfailure, hpublished⟩ := Server.published_of_opened (s := ⟨store, names, least, .utf32⟩) hselect hclosed
    content version
  refine ⟨fun disk path bytes hread hdecode => Disk.readText_of_paired hread hdecode hpaired, _, _, hreported, hfailure,
    hpublished, ?_⟩
  have hunits : ∀ ds : List Diagnostic, ds.map (·.remeasure .utf32 content) = ds := fun ds => List.map_id ds
  rw [hunits, map_shown_filter, hpaired.sameLines.shown_eq, ← map_shown_filter]
  exact (selectFindings_perm least _).map _

/-- A stray character before a carriage return and a line feed, in a file and in an editor. -/
theorem reported_perm_published_stray :
    let disk : Disk := ⟨fun _ => .ok [0x78, 0x0d, 0x0a], fun _ => .ok ()⟩
    let turn := Server.handle (.start none .error .utf32) (.opened "file:///a.smali" "x\r\n".toList (some 1))
    disk.readText ⟨.here, ["a.smali"]⟩ = .ok "x\n".toList ∧
      ∃ reported published, checkSource "x\n".toList none .error = .ok reported ∧ reported ≠ [] ∧
        turn.sent.filterMap (·.published? "file:///a.smali") = [(some 1, published)] ∧
        (reported.map Diagnostic.shown).Perm (published.map Diagnostic.shown) := by
  intro disk turn
  have hfew : ∀ o < 3, "x\r\n".toList[o]? = some '\r' → "x\r\n".toList[o + 1]? = some '\n' := by decide
  have hpaired : Text.ReturnsPaired "x\r\n".toList := fun o ho => hfew o (List.getElem?_eq_some_iff.1 ho).1 ho
  have hdecode : Utf8.decode [0x78, 0x0d, 0x0a] = .ok "x\r\n".toList := by
    simp [Utf8.decode, Utf8.decodeFrom, Utf8.next, Except.map]
  obtain ⟨hread, reported, published, hreported, -, hpublished, hperm⟩ :=
    reported_perm_published "x\r\n".toList hpaired none .error .empty "file:///a.smali" rfl (some 1)
  refine ⟨hread disk _ _ rfl hdecode, reported, published, hreported, ?_, hpublished, hperm⟩
  obtain ⟨d, ds, hstray, hd⟩ := validate_stray
  have hfound : validate "x\n".toList none = .ok (d :: ds) := by
    rw [← hstray, validate_of_select rfl, validate_of_select rfl, trace, trace, findings_run_eq_readLines,
      findings_run_eq_readLines]
    exact congrArg _ (congrArg _ (logicalLines_append_lineFeed (s := ['x']) (by decide)))
  have hselected : selectFindings .error (d :: ds) = reported := by
    have hchecked : (validate "x\n".toList none).map (selectFindings .error) = .ok reported := hreported
    rw [hfound] at hchecked
    exact Except.ok.inj hchecked
  have hmem : d ∈ reported := by
    rw [← hselected, (selectFindings_perm .error _).mem_iff, List.mem_filter]
    exact ⟨List.mem_cons_self, by rw [hd]; rfl⟩
  exact List.ne_nil_of_mem hmem

end SmaliLint
