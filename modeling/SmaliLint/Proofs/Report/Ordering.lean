import Mathlib.Data.Prod.Lex
import SmaliLint.Proofs.Report.Agreement

/-!
# The order of what is reported

Diagnostics are found in an order that is far from that of the text: hints point back, and what is missing is told at the
first line. A report has them by their offsets, and those with the same offsets in the order in which they were found.
There is only one such order, so it does not matter whether diagnostics that are not serious enough are left out before
or after sorting.

* `Diagnostic.offsets` : what diagnostics are sorted by, ordered by the start first;
* `sort_pairwise`, `filter_offsets_sort` : sorted diagnostics are in order, and those with the same offsets stay in theirs;
* `eq_of_offsets` : two lists of which both are so are equal;
* `filter_sort` : hence leaving out and sorting commute.
-/

namespace SmaliLint

namespace Diagnostic

/-- The two offsets, ordered by the start and then by the end. -/
def offsets (d : Diagnostic) : Int ×ₗ Int := toLex (d.span.start.offset, d.span.stop.offset)

theorem precedes_iff {a b : Diagnostic} : a.precedes b = true ↔ a.offsets ≤ b.offsets := by
  unfold precedes offsets
  rw [Prod.Lex.toLex_le_toLex]
  simp only [Bool.or_eq_true, Bool.and_eq_true, decide_eq_true_eq, beq_iff_eq]

theorem precedes_trans (a b c : Diagnostic) (hab : a.precedes b = true) (hbc : b.precedes c = true) :
    a.precedes c = true :=
  precedes_iff.2 (le_trans (precedes_iff.1 hab) (precedes_iff.1 hbc))

theorem precedes_total (a b : Diagnostic) : (a.precedes b || b.precedes a) = true := by
  rw [Bool.or_eq_true, precedes_iff, precedes_iff]
  exact le_total a.offsets b.offsets

theorem sort_pairwise (ds : List Diagnostic) : (sort ds).Pairwise fun a b => a.offsets ≤ b.offsets := by
  have hsorted := List.pairwise_mergeSort precedes_trans precedes_total ds
  exact hsorted.imp fun hab => precedes_iff.1 hab

/-- **Diagnostics with the same offsets keep their order.** -/
theorem filter_offsets_sort (o : Int ×ₗ Int) (ds : List Diagnostic) :
    (sort ds).filter (·.offsets = o) = ds.filter (·.offsets = o) := by
  have hsame : (ds.filter (·.offsets = o)).Pairwise fun a b => a.precedes b = true := by
    refine List.pairwise_of_forall_mem_list fun a ha b hb => precedes_iff.2 (le_of_eq ?_)
    have ha : a.offsets = o := by simpa using (List.mem_filter.1 ha).2
    have hb : b.offsets = o := by simpa using (List.mem_filter.1 hb).2
    rw [ha, hb]
  have hsub : (ds.filter (·.offsets = o)).Sublist (sort ds) :=
    List.sublist_mergeSort precedes_trans precedes_total hsame List.filter_sublist
  have hclass : (ds.filter (·.offsets = o)).Sublist ((sort ds).filter (·.offsets = o)) := by
    have hfilter := hsub.filter (·.offsets = o)
    rwa [List.filter_filter, List.filter_congr fun _ _ => Bool.and_self _] at hfilter
  have hperm : ((sort ds).filter (·.offsets = o)).Perm (ds.filter (·.offsets = o)) :=
    (List.mergeSort_perm ds precedes).filter _
  exact (hclass.eq_of_length hperm.length_eq.symm).symm

theorem mem_iff_of_offsets {ds es : List Diagnostic}
    (h : ∀ o, ds.filter (·.offsets = o) = es.filter (·.offsets = o)) (d : Diagnostic) : d ∈ ds ↔ d ∈ es := by
  have hclass := congrArg (d ∈ ·) (h d.offsets)
  simpa using hclass

/-- Diagnostics in order are told by those with the same offsets. -/
theorem eq_of_offsets {ds es : List Diagnostic} (hds : ds.Pairwise fun a b => a.offsets ≤ b.offsets)
    (hes : es.Pairwise fun a b => a.offsets ≤ b.offsets)
    (h : ∀ o, ds.filter (·.offsets = o) = es.filter (·.offsets = o)) : ds = es := by
  induction ds generalizing es with
  | nil =>
    cases es with
    | nil => rfl
    | cons e es => exact absurd ((mem_iff_of_offsets h e).2 List.mem_cons_self) List.not_mem_nil
  | cons d ds ih =>
    cases es with
    | nil => exact absurd ((mem_iff_of_offsets h d).1 List.mem_cons_self) List.not_mem_nil
    | cons e es =>
      obtain ⟨hd, hmoreds⟩ := List.pairwise_cons.1 hds
      obtain ⟨he, hmorees⟩ := List.pairwise_cons.1 hes
      have hle : d.offsets ≤ e.offsets := by
        rcases List.mem_cons.1 ((mem_iff_of_offsets h e).2 List.mem_cons_self) with rfl | hmem
        · exact le_refl _
        · exact hd e hmem
      have hge : e.offsets ≤ d.offsets := by
        rcases List.mem_cons.1 ((mem_iff_of_offsets h d).1 List.mem_cons_self) with rfl | hmem
        · exact le_refl _
        · exact he d hmem
      have hoffsets : e.offsets = d.offsets := le_antisymm hge hle
      obtain rfl : d = e := by
        have hfirst := h d.offsets
        rw [List.filter_cons_of_pos (by simp), List.filter_cons_of_pos (by simp [hoffsets])] at hfirst
        exact (List.cons.inj hfirst).1
      rw [ih hmoreds hmorees fun o => ?_]
      have hclass := h o
      rw [List.filter_cons, List.filter_cons] at hclass
      split at hclass
      · exact (List.cons.inj hclass).2
      · exact hclass

/-- **Leaving out and sorting commute.** -/
theorem filter_sort (p : Diagnostic → Bool) (ds : List Diagnostic) : (sort ds).filter p = sort (ds.filter p) := by
  have hcomm : ∀ (o : Int ×ₗ Int) (es : List Diagnostic),
      (es.filter p).filter (·.offsets = o) = (es.filter (·.offsets = o)).filter p := by
    intro o es
    rw [List.filter_filter, List.filter_filter]
    exact List.filter_congr fun _ _ => Bool.and_comm _ _
  refine eq_of_offsets ((sort_pairwise ds).filter p) (sort_pairwise _) fun o => ?_
  calc ((sort ds).filter p).filter (·.offsets = o)
    _ = ((sort ds).filter (·.offsets = o)).filter p := hcomm o _
    _ = (ds.filter (·.offsets = o)).filter p := by rw [filter_offsets_sort]
    _ = (ds.filter p).filter (·.offsets = o) := (hcomm o ds).symm
    _ = (sort (ds.filter p)).filter (·.offsets = o) := (filter_offsets_sort o _).symm

end Diagnostic

/-! ## Reports -/

theorem checkSource_of_select {names : Option (List String)} {rules : List Rule} (h : Rule.select names = .ok rules)
    (source : Text) (least : Severity) :
    checkSource source names least = .ok (selectFindings least (findings (trace rules source))) := by
  unfold checkSource
  rw [validate_of_select h]
  rfl

/-- With a threshold that asks for more, less is left. -/
theorem selectFindings_filter {s t : Severity} (hst : s.rank ≤ t.rank) (ds : List Diagnostic) :
    selectFindings s ds = (selectFindings t ds).filter (·.severity.rank ≤ s.rank) := by
  unfold selectFindings
  rw [Diagnostic.filter_sort, List.filter_filter]
  congr 1
  refine List.filter_congr fun d _ => ?_
  unfold Severity.reaches
  rw [← Bool.decide_and, decide_eq_decide]
  omega

/-- **Reports are in the order of the text.** A report is a permutation of the diagnostics that are serious enough,
ordered by their offsets, those with the same offsets as they were found. A stricter report is a report without what is
not serious enough for it. -/
theorem report_in_text_order (source : Text) (rules : Option (List Rule)) (s t : Severity) (hst : s.rank ≤ t.rank) :
    let names := rules.map (·.map Rule.name)
    ∃ found strict lenient, validate source names = .ok found ∧
      checkSource source names s = .ok strict ∧ checkSource source names t = .ok lenient ∧
      lenient.Perm (found.filter (·.severity.rank ≤ t.rank)) ∧
      lenient.Pairwise (fun a b => a.offsets ≤ b.offsets) ∧
      (∀ o, lenient.filter (·.offsets = o) = (found.filter (·.severity.rank ≤ t.rank)).filter (·.offsets = o)) ∧
      strict = lenient.filter (·.severity.rank ≤ s.rank) := by
  intro names
  obtain ⟨selected, hselect⟩ := Rule.select_known rules
  refine ⟨_, _, _, validate_of_select hselect source, checkSource_of_select hselect source s,
    checkSource_of_select hselect source t, selectFindings_perm t _, Diagnostic.sort_pairwise _, fun o => ?_,
    selectFindings_filter hst _⟩
  exact Diagnostic.filter_offsets_sort o _

/-- Two class lines: the hint at the first one was found after the error there and before the error at the second one, and
what is missing was found last. -/
theorem report_in_text_order_repeated :
    let source := ".class\n.class".toList
    Severity.error.rank ≤ Severity.hint.rank ∧
      ∃ a b c d, validate source (some ["header"]) = .ok [a, b, c, d] ∧
        [a, b, c, d].map (fun x => (x.severity, x.offsets)) =
          [(.error, toLex (0, 6)), (.hint, toLex (0, 6)), (.error, toLex (7, 13)), (.error, toLex (0, 6))] ∧
        checkSource source (some ["header"]) .hint = .ok [a, b, d, c] ∧
        checkSource source (some ["header"]) .error = .ok [a, d, c] := by
  intro source
  have hst : Severity.error.rank ≤ Severity.hint.rank := by decide
  obtain ⟨found, strict, lenient, hfound, hstrict, hlenient, -, hordered, hstable, hfilter⟩ :=
    report_in_text_order source (some [.header]) .error .hint hst
  have hkeys : (findings (trace [.header] source)).map (fun x => (x.severity, x.offsets)) =
      [(.error, toLex (0, 6)), (.hint, toLex (0, 6)), (.error, toLex (7, 13)), (.error, toLex (0, 6))] := by
    decide +kernel
  obtain rfl := Except.ok.inj ((validate_names source [.header]).symm.trans hfound)
  obtain ⟨a, b, c, d, heq⟩ : ∃ a b c d, findings (trace [.header] source) = [a, b, c, d] :=
    List.length_eq_four.1 (by simpa using congrArg List.length hkeys)
  rw [heq] at hkeys hfound hstable
  have hkey := hkeys
  simp only [List.map_cons, List.map_nil, List.cons.injEq, Prod.mk.injEq, and_true] at hkey
  obtain ⟨⟨hsa, hoa⟩, ⟨hsb, hob⟩, ⟨hsc, hoc⟩, hsd, hod⟩ := hkey
  obtain rfl : lenient = [a, b, d, c] := by
    refine Diagnostic.eq_of_offsets hordered (by simp [hoa, hob, hoc, hod, Prod.Lex.toLex_le_toLex]) fun o => ?_
    rw [hstable o]
    by_cases ho : toLex ((0 : Int), (6 : Int)) = o
    · simp [hsa, hsb, hsc, hsd, hoa, hob, hoc, hod, ← ho, Severity.rank]
    · simp [List.filter_cons, hsa, hsb, hsc, hsd, hoa, hob, hoc, hod, ho, Severity.rank]
  obtain rfl : strict = [a, d, c] := by simp [hfilter, hsa, hsb, hsc, hsd, Severity.rank]
  exact ⟨hst, a, b, c, d, hfound, hkeys, hlenient, hstrict⟩

end SmaliLint
