import Mathlib.Data.List.Basic
import SmaliLint.Diagnostic.Excerpt
import SmaliLint.Proofs.Validation.OneLine

/-!
# Carets stand under what is diagnosed

An excerpt shows the line of a diagnostic behind a margin that is as wide as the number of the line asks for, and below it
carets behind a margin of the same width. The line is shown without the carriage return at its end, which no diagnostic
covers unless it is the last character of the text.

* `Text.lines_join`, `Text.not_mem_lines`, `Text.length_lines` : lines that are put together and taken apart;
* `Text.getElem?_lines` : the line that an offset lies in; `Span.OnLine.shownLine_eq` : what is shown of it;
* `Span.OnLine.caretCount_eq` : there are as many carets as characters that are covered;
* `getElem?_carets` : the columns of the carets;
* `Span.Underlined` : a row shows the line of a span, and the row below has carets under what the span covers;
* `lines_excerpt` : the rows of an excerpt are its lines.
-/

namespace SmaliLint

/-! ## Lines of texts -/

namespace Text

theorem not_mem_lines {s p : Text} (hp : p ∈ s.lines) : '\n' ∉ p := by
  induction s generalizing p with
  | nil =>
    obtain rfl : p = [] := by simpa [lines, pieces] using hp
    exact List.not_mem_nil
  | cons c s ih =>
    by_cases hc : c = '\n'
    · have hlines : lines (c :: s) = [] :: lines s := by simp [lines, pieces, hc]
      rw [hlines] at hp
      rcases List.mem_cons.1 hp with rfl | hp
      · exact List.not_mem_nil
      · exact ih hp
    · have hlines : lines (c :: s) = (c :: (pieces '\n' s).1) :: (pieces '\n' s).2 := by simp [lines, pieces, hc]
      rw [hlines] at hp
      rcases List.mem_cons.1 hp with rfl | hp
      · exact List.not_mem_cons_of_ne_of_not_mem (Ne.symm hc) (ih List.mem_cons_self)
      · exact ih (List.mem_cons_of_mem _ hp)

theorem length_lines (s : Text) : s.lines.length = s.count '\n' + 1 := by
  induction s with
  | nil => rfl
  | cons c s ih =>
    have ih : (pieces '\n' s).2.length = s.count '\n' := Nat.succ.inj ih
    by_cases hc : c = '\n'
    · simp [lines, pieces, hc, ih]
    · simp [lines, pieces, hc, ih, List.count_cons_of_ne]

theorem lines_join {rows : List Text} (hne : rows ≠ []) (hrows : ∀ r ∈ rows, '\n' ∉ r) :
    lines (join ['\n'] rows) = rows := by
  fun_induction join ['\n'] rows with
  | case1 => exact absurd rfl hne
  | case2 r => exact lines_of_no_newline (hrows r List.mem_cons_self)
  | case3 r t rest ih =>
    obtain ⟨hr, hrest⟩ := List.forall_mem_cons.1 hrows
    rw [List.append_assoc, List.singleton_append, lines_append_newline hr, ih (List.cons_ne_nil _ _) hrest]

/-- The line in which `before` ends: its last line, and what follows up to the next line feed. -/
theorem getElem?_lines (before : Text) {line more : Text} (hline : '\n' ∉ line) (hmore : more.Breaks) :
    (lines (before ++ (line ++ more)))[before.count '\n']? = some (before.lastLine ++ line) := by
  induction hn : before.count '\n' generalizing before with
  | zero =>
    have hnone : '\n' ∉ before := List.count_eq_zero.1 hn
    have hfirst : '\n' ∉ before ++ line := by simp [hnone, hline]
    rw [lastLine_of_no_newline hnone, ← List.append_assoc]
    rcases hmore with rfl | ⟨rest, rfl⟩
    · rw [List.append_nil, lines_of_no_newline hfirst]
      rfl
    · rw [lines_append_newline hfirst]
      rfl
  | succ n ih =>
    have hmem : '\n' ∈ before := List.count_pos_iff.1 (by omega)
    obtain ⟨first, tail, rfl, hfirst⟩ := List.eq_append_cons_of_mem hmem
    have hcount : tail.count '\n' = n := by
      rw [List.count_append, List.count_eq_zero.2 hfirst, List.count_cons_self] at hn
      omega
    rw [List.append_assoc, List.cons_append, lines_append_newline hfirst, lastLine_append_newline,
      List.getElem?_cons_succ]
    exact ih tail hcount

theorem dropSuffix_append {c : Char} {s t : Text} (h : t = [] → s.getLast? ≠ some c) :
    dropSuffix c (s ++ t) = s ++ dropSuffix c t := by
  by_cases ht : t = []
  · subst ht
    rw [List.append_nil, dropSuffix, if_neg (h rfl)]
    exact (List.append_nil s).symm
  · unfold dropSuffix
    rw [List.getLast?_append_of_ne_nil s ht, List.dropLast_append_of_ne_nil ht]
    split
    · rfl
    · rfl

theorem exists_dropSuffix (c : Char) (s : Text) :
    ∃ ending, s = dropSuffix c s ++ ending ∧ (ending = [] ∨ ending = [c]) := by
  unfold dropSuffix
  split
  case isTrue h =>
    obtain ⟨front, rfl⟩ := List.getLast?_eq_some_iff.1 h
    exact ⟨[c], by rw [List.dropLast_concat], .inr rfl⟩
  case isFalse => exact ⟨[], (List.append_nil s).symm, .inl rfl⟩

theorem newline_not_mem_spaces (n : Nat) : '\n' ∉ spaces n := by
  intro h
  have hspace := List.eq_of_mem_replicate h
  revert hspace
  decide

theorem newline_not_mem_ofNat (n : Nat) : '\n' ∉ ofNat n := by
  intro h
  have hdigit := Nat.isDigit_of_mem_toDigits (by omega) (by omega) h
  revert hdigit
  decide

theorem newline_not_mem_ofInt (n : Int) : '\n' ∉ ofInt n := by
  cases n with
  | ofNat n => exact newline_not_mem_ofNat n
  | negSucc n => exact List.not_mem_cons_of_ne_of_not_mem (by decide) (newline_not_mem_ofNat (n + 1))

end Text

/-! ## What is shown of a line -/

/-- **A line is shown with all that a span on it covers**, if the text does not end in a carriage return. -/
theorem Span.OnLine.shownLine_eq {s before covered after : Text} {span : Span} (h : span.OnLine s before covered after)
    (hs : s.getLast? ≠ some '\r') :
    ∃ rest ending, s.shownLine span.start.line = before.lastLine ++ covered ++ rest ∧
      s.lines[span.start.line.toNat]? = some (before.lastLine ++ covered ++ rest ++ ending) ∧
      (ending = [] ∨ ending = ['\r']) := by
  obtain ⟨line, more, rfl, hline, hmore⟩ := after.first_line
  have hnumber : span.start.line = before.count '\n' := by rw [h.start_eq]
  have hget : s.lines[before.count '\n']? = some (before.lastLine ++ covered ++ line) := by
    have hcovered : '\n' ∉ covered ++ line := by simp [h.no_lineFeed, hline]
    rw [h.text, List.append_assoc, ← List.append_assoc covered, Text.getElem?_lines before hcovered hmore,
      List.append_assoc]
  have hend : line = [] → (before.lastLine ++ covered).getLast? ≠ some '\r' := by
    rintro rfl
    rw [List.getLast?_append_of_ne_nil _ h.nonempty]
    rcases hmore with rfl | ⟨rest, rfl⟩
    · rwa [h.text, List.append_nil, List.append_nil, List.getLast?_append_of_ne_nil _ h.nonempty] at hs
    · exact h.no_return rest rfl
  obtain ⟨ending, hline, hending⟩ := Text.exists_dropSuffix '\r' line
  refine ⟨Text.dropSuffix '\r' line, ending, ?_, ?_, hending⟩
  · unfold Text.shownLine
    rw [hnumber, if_neg (by omega), Int.toNat_natCast, List.getD_eq_getElem?_getD, hget, Option.getD_some,
      Text.dropSuffix_append hend]
  · rw [hnumber, Int.toNat_natCast, hget, List.append_assoc _ _ ending, ← hline]

theorem Span.OnLine.caretCount_eq {s before covered after : Text} {d : Diagnostic}
    (h : d.span.OnLine s before covered after) (shown : Text) : d.caretCount shown = covered.length := by
  have hpos : 0 < covered.length := List.length_pos_iff.2 h.nonempty
  unfold Diagnostic.caretCount
  dsimp only
  rw [h.start_eq, h.stop_eq, if_pos rfl]
  dsimp only
  omega

/-- Carets behind a margin without any stand in the columns from its end on. -/
theorem getElem?_carets {front : Text} (hfront : '^' ∉ front) (n i : Nat) :
    (front ++ List.replicate n '^')[i]? = some '^' ↔ front.length ≤ i ∧ i < front.length + n := by
  rcases Nat.lt_or_ge i front.length with hi | hi
  · rw [List.getElem?_append_left hi]
    constructor
    · exact fun hcaret => absurd (List.mem_of_getElem? hcaret) hfront
    · omega
  · rw [List.getElem?_append_right hi, List.getElem?_replicate]
    split
    · exact ⟨fun _ => by omega, fun _ => rfl⟩
    · exact ⟨nofun, fun _ => by omega⟩

/-! ## Excerpts -/

/-- The row `shown` shows, behind a margin, the line of the text on which the span starts; what the span covers begins in
the column of its start, and the row `below` has carets in the columns of what is covered and in no others. -/
structure Span.Underlined (source : Text) (span : Span) (shown below margin before covered after ending : Text) :
    Prop where
  line : source.lines[span.start.line.toNat]? = some (before ++ covered ++ after ++ ending)
  line_end : ending = [] ∨ ending = ['\r']
  column : span.start.column = before.length
  slice : covered = (source.take span.stop.offset.toNat).drop span.start.offset.toNat
  row : shown = margin ++ before ++ covered ++ after
  carets : ∀ i : Nat, below[i]? = some '^' ↔
    (margin ++ before).length ≤ i ∧ i < (margin ++ before ++ covered).length

namespace Diagnostic

theorem newline_not_mem_label (severity : Severity) : '\n' ∉ severity.label.toList := by
  cases severity <;> decide

theorem newline_not_mem_shownLine (s : Text) (line : Int) : '\n' ∉ s.shownLine line := by
  unfold Text.shownLine
  split
  · exact List.not_mem_nil
  · obtain ⟨ending, hline, -⟩ := Text.exists_dropSuffix '\r' (s.lines.getD line.toNat [])
    intro hmem
    have hmem : '\n' ∈ s.lines.getD line.toNat [] := hline ▸ List.mem_append_left _ hmem
    rw [List.getD_eq_getElem?_getD] at hmem
    cases hget : s.lines[line.toNat]? with
    | none => simp [hget] at hmem
    | some p =>
      rw [hget, Option.getD_some] at hmem
      exact Text.not_mem_lines (List.mem_of_getElem? hget) hmem

/-- **The rows of an excerpt are its lines**, if there is no line feed in the name of the file. -/
theorem lines_excerpt (d : Diagnostic) (source : Text) {filename : String} (hname : '\n' ∉ filename.toList) :
    (d.excerpt source filename).lines = d.rows source filename := by
  have hspaces := Text.newline_not_mem_spaces
  have hnumber := Text.newline_not_mem_ofInt
  have hlabel := newline_not_mem_label d.severity
  have hshown := newline_not_mem_shownLine source d.span.start.line
  have hmessage : ∀ p ∈ Text.lines d.message.toList, '\n' ∉ p := fun p hp => Text.not_mem_lines hp
  obtain ⟨hheadline, hnotes⟩ := List.forall_mem_cons.1 hmessage
  refine Text.lines_join (by simp [rows]) ?_
  unfold rows
  refine List.forall_mem_append.2 ⟨?_, ?_⟩
  · simp [hspaces, hnumber, hlabel, hshown, hheadline, hname, List.mem_replicate]
  · intro row hrow
    obtain ⟨note, hnote, rfl⟩ := List.mem_map.1 hrow
    simp [hspaces, hnotes note hnote]

/-- The two rows with the line and the carets have margins of the same width. -/
theorem underlined_rows {d : Diagnostic} {source before covered after : Text}
    (h : d.span.OnLine source before covered after) (hsource : source.getLast? ≠ some '\r') :
    let number := Text.ofInt (d.span.start.line + 1)
    let shown := source.shownLine d.span.start.line
    ∃ margin line rest ending,
      d.span.Underlined source (number ++ " | ".toList ++ shown)
        (Text.spaces (number.length + 1) ++ "| ".toList ++ Text.spaces d.span.start.column.toNat ++
          List.replicate (d.caretCount shown) '^')
        margin line covered rest ending := by
  intro number shown
  obtain ⟨rest, ending, hshown, hline, hending⟩ := h.shownLine_eq hsource
  have hcolumn : d.span.start.column = before.lastLine.length := by rw [h.start_eq]
  have hslice : covered = (source.take d.span.stop.offset.toNat).drop d.span.start.offset.toNat := by
    rw [h.start_offset, h.stop_offset, Int.toNat_natCast, Int.toNat_natCast, h.take_drop]
  refine ⟨number ++ " | ".toList, before.lastLine, rest, ending, hline, hending, hcolumn, hslice, ?_, fun i => ?_⟩
  · show number ++ " | ".toList ++ source.shownLine d.span.start.line = _
    rw [hshown]
    simp only [List.append_assoc]
  · rw [h.caretCount_eq, getElem?_carets (by simp [Text.spaces, List.mem_replicate]), hcolumn]
    simp [Text.spaces]
    omega

end Diagnostic

/-- **Carets stand under what is diagnosed.** The second line of an excerpt ends in the name of the file and the place,
counted from one; the fourth shows the line of the text; and in the fifth, carets stand in just those columns where the
fourth shows what is between the two offsets. The lines of the message but the first are notes. -/
theorem carets_under_diagnostic (source : Text) (hsource : source.getLast? ≠ some '\r') (filename : String)
    (hname : '\n' ∉ filename.toList) (rules : Option (List Rule)) :
    ∃ ds, validate source (rules.map (·.map Rule.name)) = .ok ds ∧
      ∀ d ∈ ds, ∃ headline place bar shown below notes,
        (d.excerpt source filename).lines = headline :: place :: bar :: shown :: below :: notes ∧
        notes.length = d.message.toList.count '\n' ∧
        (∃ gutter, notes = (Text.lines d.message.toList).tail.map (gutter ++ "= note: ".toList ++ ·)) ∧
        filename.toList ++ ':' :: Text.ofInt (d.span.start.line + 1) ++ ':' :: Text.ofInt (d.span.start.column + 1)
          <:+ place ∧
        ∃ margin before covered after ending,
          d.span.Underlined source shown below margin before covered after ending := by
  obtain ⟨selected, hselect⟩ := Rule.select_known rules
  refine ⟨_, validate_of_select hselect source, fun d hd => ?_⟩
  obtain ⟨-, -, -, -, -, before, covered, after, honLine⟩ := exists_onLine hd
  obtain ⟨margin, line, rest, ending, hunderlined⟩ := Diagnostic.underlined_rows honLine hsource
  have hcount := Text.length_lines d.message.toList
  refine ⟨_, _, _, _, _, _, d.lines_excerpt source hname, ?_, ⟨_, rfl⟩, ?_, margin, line, covered, rest, ending,
    hunderlined⟩
  · show ((Text.lines d.message.toList).tail.map _).length = _
    rw [List.length_map]
    exact Nat.succ.inj hcount
  · refine ⟨Text.spaces ((Text.ofInt (d.span.start.line + 1)).length + 1) ++ "--> ".toList, ?_⟩
    simp only [List.append_assoc]

/-- A directive behind a tab, on a line whose number has two digits and which ends in a carriage return and a line feed. -/
theorem carets_under_diagnostic_indented :
    let source := "\n\n\n\n\n\n\n\n\n\t.super\r\n".toList
    let shown := "10 | \t.super".toList
    let below := "   |  ^^^^^^".toList
    source.getLast? ≠ some '\r' ∧ '\n' ∉ "a.smali".toList ∧
      ∃ d ds, validate source (some ["header"]) = .ok (d :: ds) ∧
        ((d.excerpt source "a.smali").lines.drop 3).take 2 = [shown, below] ∧
        ∃ margin before after ending, d.span.Underlined source shown below margin before ".super".toList after ending := by
  intro source shown below
  have hsource : source.getLast? ≠ some '\r' := by decide
  have hname : '\n' ∉ "a.smali".toList := by decide
  have hfirst : (findings (trace [.header] source)).head?.map (fun d =>
      (((d.excerpt source "a.smali").lines.drop 3).take 2,
        (source.take d.span.stop.offset.toNat).drop d.span.start.offset.toNat)) =
      some ([shown, below], ".super".toList) := by decide +kernel
  obtain ⟨d, hd, hfacts⟩ := Option.map_eq_some_iff.1 hfirst
  obtain ⟨hrows, hslice⟩ := Prod.mk.inj hfacts
  obtain ⟨ds, hfound⟩ := List.head?_eq_some_iff.1 hd
  obtain ⟨es, hes, hexcerpts⟩ := carets_under_diagnostic source hsource "a.smali" hname (some [.header])
  obtain rfl : d :: ds = es := by
    rw [← hfound]
    exact Except.ok.inj ((validate_names source [.header]).symm.trans hes)
  obtain ⟨headline, place, bar, row, carets, notes, hlines, -, -, -, margin, before, covered, after, ending, hunder⟩ :=
    hexcerpts d List.mem_cons_self
  obtain rfl : covered = ".super".toList := hunder.slice.trans hslice
  obtain ⟨rfl, rfl⟩ : row = shown ∧ carets = below := by
    rw [hlines] at hrows
    simpa using hrows
  exact ⟨hsource, hname, d, ds, hes, hrows, margin, before, after, ending, hunder⟩

end SmaliLint
