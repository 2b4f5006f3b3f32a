import SmaliLint.Proofs.Lexer.Words
import SmaliLint.Proofs.Server.IncrementalSync
import SmaliLint.Proofs.Validation.Spans

/-!
# Published ranges point at what was diagnosed

A diagnostic is published with the columns of its range in the units of the client. The client may send that range back
to change what was diagnosed, so the way to the client's units and the way back have to meet.

* `Span.range` : a span as an editor has it, without offsets;
* `Span.Covers.remeasure_range` : in any units, the range of what a span covers;
* `published_ranges_exact` : such a range leads back to the offsets of the diagnostic.
-/

namespace SmaliLint

/-- The lines and columns of a span. -/
def Span.range (span : Span) : EditRange := ⟨span.start.line, span.start.column, span.stop.line, span.stop.column⟩

namespace Span.Covers

variable {s before covered after : Text} {span : Span} (h : span.Covers s before covered after)
include h

/-- **The range in any units** is that of the offsets. In code points nothing is measured again, which does no harm, since
the ends of the span are stamped in code points. -/
theorem remeasure_range (u : Units) :
    (span.remeasure u s).range = .between u s before.length (before.length + covered.length) := by
  have hmeasured : span.remeasure u s =
      ⟨.ofOffset u s before.length, .ofOffset u s ↑(before.length + covered.length)⟩ := by
    cases u with
    | utf32 =>
      show Span.mk span.start span.stop = _
      rw [h.start, h.stop]
      rfl
    | utf8 =>
      show Span.mk (.ofOffset .utf8 s span.start.offset) (.ofOffset .utf8 s span.stop.offset) = _
      rw [h.start_offset, h.stop_offset]
    | utf16 =>
      show Span.mk (.ofOffset .utf16 s span.start.offset) (.ofOffset .utf16 s span.stop.offset) = _
      rw [h.start_offset, h.stop_offset]
  rw [hmeasured]
  rfl

end Span.Covers

theorem Encoding.offsetOf_ofOffset (u : Units) (s : Text) {n : Nat} (hn : n ≤ s.length) :
    (Encoding.known u).offsetOf s (Position.ofOffset u s n).line (Position.ofOffset u s n).column = .ok n := by
  have hin := Store.offsetIn_ofOffset u s hn
  unfold Store.offsetIn at hin
  cases hoffset : (Encoding.known u).offsetOf s (Position.ofOffset u s n).line (Position.ofOffset u s n).column with
  | error cause =>
    rw [hoffset] at hin
    cases hin
  | ok m =>
    rw [hoffset] at hin
    cases hin
    rfl

/-- **Published ranges point at what was diagnosed.** In any units, the two ends of the range of a diagnostic lead back
to its two offsets; so a change of this range of an open document puts the new text in the place of what stands between
them, and leaves all else as it is. -/
theorem published_ranges_exact (text : Text) (rules : List Rule) (u : Units) :
    ∃ ds, validate text (some (rules.map Rule.name)) = .ok ds ∧
      ∀ d ∈ ds,
        let range := (d.remeasure u text).span.range
        ∃ start stop : Nat, d.span.start.offset = start ∧ d.span.stop.offset = stop ∧ start ≤ stop ∧
          stop ≤ text.length ∧
          (Encoding.known u).offsetOf text range.startLine range.startColumn = .ok start ∧
          (Encoding.known u).offsetOf text range.stopLine range.stopColumn = .ok stop ∧
          ∀ (s : Store) (uri : String) (document : Document) (new : Text) (version : Option Int),
            s.get? uri = some document → document.text = text →
              ∃ t e, s.changeRange uri (some range) new version (.known u) = .ok t ∧ t.get? uri = some e ∧
                e.text = text.take start ++ new ++ text.drop stop ∧ ∀ v, v ≠ uri → t.get? v = s.get? v := by
  refine ⟨_, validate_names text rules, fun d hd => ?_⟩
  obtain ⟨before, covered, after, hcovers⟩ := exists_covers hd
  have hrange : (d.remeasure u text).span.range = _ := hcovers.remeasure_range u
  have hle := hcovers.length_le
  have htake : text.take before.length = before := by rw [hcovers.text, List.append_assoc, List.take_left]
  have hdrop : text.drop (before.length + covered.length) = after := by
    rw [hcovers.text, ← List.length_append, List.drop_left]
  dsimp only
  rw [hrange]
  refine ⟨_, _, hcovers.start_offset, hcovers.stop_offset, by omega, hle, ?_, ?_, ?_⟩
  · exact Encoding.offsetOf_ofOffset u text (by omega)
  · exact Encoding.offsetOf_ofOffset u text hle
  · intro s uri document new version hopen htext
    have hchange := Store.changeRange_between hopen (htext.trans hcovers.text) new version u
    rw [← hcovers.text] at hchange
    refine ⟨_, document.update (before ++ new ++ after) version, hchange, ?_, ?_, fun v hv => ?_⟩
    · rw [Store.get?_put_update hopen, if_pos rfl]
    · rw [htake, hdrop]
      rfl
    · rw [Store.get?_put_update hopen, if_neg hv.symm]

/-- A tab, and a stray character of two units. -/
theorem tokenize_stray_wide :
    tokenize "\t😀".toList =
      [⟨.space, ['\t'], (LineIndex.ofText "\t😀".toList).span 0 1⟩,
        ⟨.error, ['😀'], (LineIndex.ofText "\t😀".toList).span 1 2⟩] := by
  have hblank : firstToken ('\t' :: ['😀']) = (.space, 1) := by decide +kernel
  have hstray : firstToken ['😀'] = (.error, 1) := by decide +kernel
  have hlast : lexemes ['😀'] = [⟨.error, ['😀']⟩] := by
    rw [lexemes, hstray]
    show _ :: lexemes [] = _
    rw [lexemes_nil]
    rfl
  have hlexemes : lexemes ('\t' :: ['😀']) = [⟨.space, ['\t']⟩, ⟨.error, ['😀']⟩] := by
    rw [lexemes, hblank]
    show _ :: lexemes ['😀'] = _
    rw [hlast]
    rfl
  show place _ 0 (lexemes ('\t' :: ['😀'])) = _
  rw [hlexemes]
  rfl

/-- The stray character is told that there is no class, and can be replaced by means of the range published for it. -/
theorem published_ranges_exact_wide :
    let store : Store := ⟨[⟨"file:///a.smali", "\t😀".toList, some 1, 0⟩]⟩
    ∃ d ds, validate "\t😀".toList (some ["header"]) = .ok (d :: ds) ∧
      (d.remeasure .utf16 "\t😀".toList).span.range = ⟨0, 1, 0, 3⟩ ∧
      ∃ t e, store.changeRange "file:///a.smali" (some ⟨0, 1, 0, 3⟩) ['x'] none (.known .utf16) = .ok t ∧
        t.get? "file:///a.smali" = some e ∧ e.text = "\tx".toList := by
  intro store
  obtain ⟨d, ds, hfound, hspan⟩ : ∃ d ds, findings (trace [.header] "\t😀".toList) = d :: ds ∧
      d.span = ⟨.ofOffset .utf32 "\t😀".toList 1, .ofOffset .utf32 "\t😀".toList 2⟩ := by
    rw [trace, tokenize_stray_wide, LineIndex.span, LineIndex.span]
    simp only [LineIndex.position_eq]
    exact ⟨_, _, rfl, rfl⟩
  obtain ⟨es, hes, hexact⟩ := published_ranges_exact "\t😀".toList [.header] .utf16
  obtain rfl : d :: ds = es := by
    rw [← hfound]
    exact Except.ok.inj ((validate_names _ _).symm.trans hes)
  have hrange : (d.remeasure .utf16 "\t😀".toList).span.range = ⟨0, 1, 0, 3⟩ := by
    show (d.span.remeasure .utf16 "\t😀".toList).range = _
    rw [hspan]
    decide
  obtain ⟨start, stop, hstart, hstop, -, -, -, -, hchange⟩ := hexact d List.mem_cons_self
  rw [hspan] at hstart hstop
  obtain rfl : 1 = start := Int.ofNat.inj hstart
  obtain rfl : 2 = stop := Int.ofNat.inj hstop
  obtain ⟨t, e, ht, he, htext, -⟩ := hchange store "file:///a.smali" _ ['x'] none rfl rfl
  exact ⟨d, ds, hes, hrange, t, e, hrange ▸ ht, he, htext⟩

end SmaliLint
