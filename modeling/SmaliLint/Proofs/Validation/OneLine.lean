import SmaliLint.Proofs.Lexer.LineLocal
import SmaliLint.Proofs.Position.Galois
import SmaliLint.Proofs.Validation.Spans

/-!
# Diagnostics lie on one line

A diagnostic runs from a token of a logical line to the same token or a later one of that line. The tokens in between
stand next to each other in the text, and none of them is a newline; so what is covered holds no line feed, and the
carriage return that may stand before one belongs to the newline behind it.

* `Token.StandsIn.getLast?_ne_return` : a token in front of a line feed does not end in a carriage return;
* `exists_stretch_of_line` : a part of a line lies in a stretch of the text without newlines;
* `Span.OnLine s before covered after` : the span covers something, which takes nothing of a line end;
* `Span.OnLine.start_eq`, `Span.OnLine.stop_eq` : the two ends of such a span;
* `exists_onLine` : all that is found is on one line.
-/

namespace SmaliLint
open Vocabulary (tokenRules matches_line_end matches_newline)

/-! ## Before a line end -/

/-- No token but the newline takes the carriage return of a line end. -/
theorem Token.StandsIn.getLast?_ne_return {s before rest : Text} {t : Token} (h : t.StandsIn s before ('\n' :: rest))
    (hk : t.kind ≠ .newline) : t.content.getLast? ≠ some '\r' := by
  intro hlast
  have hfirst := h.first
  by_cases herror : t.kind = .error
  · rw [herror] at hfirst
    obtain ⟨hone, hnone⟩ := firstToken_eq_error hfirst
    obtain ⟨c, hc⟩ := List.length_eq_one_iff.1 hone
    obtain rfl : c = '\r' := by simpa [hc] using hlast
    have hnewline : tokenRules.head (by decide) ∈ tokenRules := List.head_mem _
    refine hnone _ hnewline ['\r', '\n'] ?_ ((matches_newline hnewline rfl).2 (.inr rfl))
    rw [hc]
    exact List.prefix_append ['\r', '\n'] rest
  · obtain ⟨_, r, _, hrules, hkind, hmatch, -, -⟩ := firstToken_eq_kind hfirst herror
    have hr : r ∈ tokenRules := hrules ▸ List.mem_append_right _ List.mem_cons_self
    rw [List.take_left] at hmatch
    rcases matches_line_end hr hmatch with ⟨hnewline, -⟩ | ⟨-, -, hne⟩
    · exact hk (hkind.symm.trans hnewline)
    · exact hne hlast

theorem newline_not_mem_texts {s : Text} {us : List Token} (hmem : ∀ t ∈ us, t ∈ tokenize s)
    (hkind : ∀ t ∈ us, t.kind ≠ .newline) : '\n' ∉ Token.texts us := by
  intro hn
  obtain ⟨t, ht, hn⟩ := List.mem_flatMap.1 hn
  obtain ⟨before, after, hstands⟩ := exists_standsIn (hmem t ht)
  rcases hstands.line_end with ⟨hnewline, -⟩ | ⟨-, hnone⟩
  · exact hkind t ht hnewline
  · exact hnone hn

/-! ## Parts of lines -/

theorem mem_logicalLines_iff {ts : List Token} {l : Line} : l ∈ logicalLines ts ↔ .line l ∈ signals ts := by
  rw [← filterMap_line?_signals, List.mem_filterMap]
  constructor
  · rintro ⟨s, hs, hl⟩
    cases s with
    | line k =>
      obtain rfl : k = l := Option.some.inj hl
      exact hs
    | token t => cases hl
    | finish => cases hl
  · exact fun h => ⟨_, h, rfl⟩

/-- Some tokens of a line, in their order: the first and the last one as they stand in the line. -/
theorem exists_ends {part l : Line} (h : part.toList.Sublist l.toList) :
    ∃ i j : Nat, i ≤ j ∧ l.toList[i]? = some part.head ∧ l.toList[j]? = some part.last := by
  obtain ⟨ts, us, vs, hall, hfirst, hlast⟩ := exists_stretch h
  obtain ⟨rest, rfl⟩ := List.head?_eq_some_iff.1 hfirst
  refine ⟨ts.length, ts.length + rest.length, Nat.le_add_right _ _, ?_, ?_⟩
  · rw [hall, List.append_assoc, List.getElem?_append_right (Nat.le_refl _), Nat.sub_self]
    rfl
  · rw [List.getLast?_eq_getElem?] at hlast
    rw [hall, List.append_assoc, List.getElem?_append_right (Nat.le_add_right _ _), Nat.add_sub_cancel_left,
      List.getElem?_append_left (by simp)]
    simpa using hlast

/-- A part of a line lies in a stretch of the text in which no newline stands. -/
theorem exists_stretch_of_line {ts : List Token} {l part : Line} (hl : l ∈ logicalLines ts)
    (hpart : part.toList.Sublist l.toList) :
    ∃ us vs ws, ts = us ++ vs ++ ws ∧ vs.head? = some part.head ∧ vs.getLast? = some part.last ∧
      ∀ t ∈ vs, t.kind ≠ .newline := by
  obtain ⟨piece, ⟨front, back, rfl⟩, hnone, htrim⟩ := exists_piece hl
  rw [← htrim] at hpart
  obtain ⟨us, vs, ws, rfl, hfirst, hlast⟩ := exists_stretch (hpart.trans (trim_sublist piece))
  refine ⟨front ++ us, vs, ws ++ back, by simp only [List.append_assoc], hfirst, hlast, fun t ht => hnone t ?_⟩
  exact List.mem_append_left _ (List.mem_append_right _ ht)

/-! ## Spans on one line -/

/-- The span covers something that holds no line feed and, in front of one, does not end in a carriage return. -/
structure Span.OnLine (s before covered after : Text) (span : Span) : Prop extends
    span.Covers s before covered after where
  nonempty : covered ≠ []
  no_lineFeed : '\n' ∉ covered
  no_return : ∀ rest, after = '\n' :: rest → covered.getLast? ≠ some '\r'

namespace Span.OnLine

variable {s before covered after : Text} {span : Span} (h : span.OnLine s before covered after)
include h

theorem start_eq : span.start = ⟨before.count '\n', before.lastLine.length, before.length⟩ := by
  rw [h.start, h.text, List.append_assoc, Position.ofOffset_length, Units.measure_utf32]

theorem stop_eq :
    span.stop = ⟨before.count '\n', ↑(before.lastLine.length + covered.length),
      ↑(before.length + covered.length)⟩ := by
  have hposition := Position.ofOffset_length .utf32 (before ++ covered) after
  rw [Units.measure_utf32, Text.lastLine_append h.no_lineFeed, List.count_append, List.count_eq_zero.2 h.no_lineFeed,
    Nat.add_zero, List.length_append, List.length_append] at hposition
  rw [h.stop, h.text, ← hposition]
  rfl

theorem take_drop : (s.take (before.length + covered.length)).drop before.length = covered := by
  rw [h.text, ← List.length_append, List.take_left, List.drop_left]

end Span.OnLine

/-- From the first token of a stretch without newlines to its last one. -/
theorem onLine_stretch {s : Text} {us vs ws : List Token} {a b : Token} (h : tokenize s = us ++ vs ++ ws)
    (ha : vs.head? = some a) (hb : vs.getLast? = some b) (hkind : ∀ t ∈ vs, t.kind ≠ .newline) :
    Span.OnLine s (Token.texts us) (Token.texts vs) (Token.texts ws) ⟨a.span.start, b.span.stop⟩ := by
  have hmem : ∀ t ∈ vs, t ∈ tokenize s := by
    intro t ht
    rw [h]
    exact List.mem_append_left _ (List.mem_append_right _ ht)
  have hcovers := covers_stretch h ha hb
  obtain ⟨init, rfl⟩ := List.getLast?_eq_some_iff.1 hb
  have hstands : b.StandsIn s (Token.texts (us ++ init)) (Token.texts ws) :=
    tokenize_split (h.trans (by simp only [List.append_assoc, List.singleton_append]))
  have htexts : Token.texts (init ++ [b]) = Token.texts init ++ b.content := by simp [Token.texts]
  refine ⟨hcovers, ?_, newline_not_mem_texts hmem hkind, fun rest hrest => ?_⟩
  · rw [htexts]
    exact fun hnil => hstands.nonempty (List.append_eq_nil_iff.1 hnil).2
  · rw [hrest] at hstands
    rw [htexts]
    refine Pattern.getLast?_append_ne (fun hnil => absurd hnil hstands.nonempty) ?_
    exact hstands.getLast?_ne_return (hkind b (by simp))

/-- **All that is found is on one line**, from one token of it to another. -/
theorem exists_onLine {rules : List Rule} {s : Text} {d : Diagnostic} (hd : d ∈ findings (trace rules s)) :
    ∃ l part : Line, l ∈ logicalLines (tokenize s) ∧ part.toList.Sublist l.toList ∧ d.span = part.span ∧
      ∃ before covered after, d.span.OnLine s before covered after := by
  obtain ⟨part, ⟨l, hl, hpart⟩, hspan⟩ := placed_findings rules s d hd
  obtain ⟨us, vs, ws, hall, hfirst, hlast, hkind⟩ := exists_stretch_of_line hl hpart
  refine ⟨l, part, hl, hpart, hspan, Token.texts us, Token.texts vs, Token.texts ws, ?_⟩
  rw [hspan]
  exact onLine_stretch hall hfirst hlast hkind

/-- **Diagnostics lie on one line.** Each runs from the start of one token to the end of the same or a later one of one
line that the checks are shown. So it starts and stops on the same line, at the positions of its offsets in the text,
and covers at least one character and no line feed. -/
theorem diagnostics_on_one_line (source : Text) (rules : Option (List Rule)) :
    ∃ ds, validate source (rules.map (·.map Rule.name)) = .ok ds ∧
      ∀ d ∈ ds,
        (∃ (l : Line) (i j : Nat) (a b : Token), .line l ∈ signals (tokenize source) ∧ i ≤ j ∧
          l.toList[i]? = some a ∧ l.toList[j]? = some b ∧ d.span = ⟨a.span.start, b.span.stop⟩) ∧
        d.span.start.line = d.span.stop.line ∧
        ∃ start stop : Nat, d.span.start.offset = start ∧ d.span.stop.offset = stop ∧
          start < stop ∧ stop ≤ source.length ∧ '\n' ∉ (source.take stop).drop start ∧
          d.span.start = .ofOffset .utf32 source start ∧ d.span.stop = .ofOffset .utf32 source stop := by
  obtain ⟨selected, hselect⟩ := Rule.select_known rules
  refine ⟨_, validate_of_select hselect source, fun d hd => ?_⟩
  obtain ⟨l, part, hl, hpart, hspan, before, covered, after, honLine⟩ := exists_onLine hd
  obtain ⟨i, j, hij, hfirst, hlast⟩ := exists_ends hpart
  have hpos : 0 < covered.length := List.length_pos_iff.2 honLine.nonempty
  refine ⟨⟨l, i, j, part.head, part.last, mem_logicalLines_iff.1 hl, hij, hfirst, hlast, hspan⟩, ?_,
    before.length, before.length + covered.length, honLine.start_offset, honLine.stop_offset, by omega,
    honLine.length_le, ?_, honLine.start, honLine.stop⟩
  · rw [honLine.start_eq, honLine.stop_eq]
  · rw [honLine.take_drop]
    exact honLine.no_lineFeed

/-- A return is told of the type on the line before, which ends in a carriage return and a line feed. -/
theorem diagnostics_on_one_line_return :
    let source := ".method f()V\r\n\treturn".toList
    ∃ d ds, validate source (some ["method"]) = .ok (d :: ds) ∧ d.span = ⟨⟨0, 11, 11⟩, ⟨0, 12, 12⟩⟩ ∧
      ∃ (l : Line) (i j : Nat) (a b : Token), .line l ∈ signals (tokenize source) ∧ i ≤ j ∧
        l.toList[i]? = some a ∧ l.toList[j]? = some b ∧ d.span = ⟨a.span.start, b.span.stop⟩ := by
  intro source
  have hfirst : (findings (trace [.method] source)).head?.map (·.span) = some ⟨⟨0, 11, 11⟩, ⟨0, 12, 12⟩⟩ := by
    decide +kernel
  obtain ⟨d, hd, hspan⟩ := Option.map_eq_some_iff.1 hfirst
  obtain ⟨ds, hfound⟩ := List.head?_eq_some_iff.1 hd
  obtain ⟨es, hes, hlines⟩ := diagnostics_on_one_line source (some [.method])
  obtain rfl : d :: ds = es := by
    rw [← hfound]
    exact Except.ok.inj ((validate_names source [.method]).symm.trans hes)
  exact ⟨d, ds, hes, hspan, (hlines d List.mem_cons_self).1⟩

end SmaliLint
