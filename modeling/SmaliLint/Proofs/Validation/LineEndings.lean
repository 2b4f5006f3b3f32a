import SmaliLint.Diagnostic.Excerpt
import SmaliLint.Proofs.Lexer.LineLocal
import SmaliLint.Proofs.Validation.Relocation
import SmaliLint.Proofs.Validation.Run

/-!
# Line ends do not matter

A line may end in a line feed or in a carriage return and a line feed. Two texts that differ in this only have
the same tokens apart from the newlines, at the same lines and columns, and so the same diagnostics, which also
look the same.

* `Text.ReturnsPaired s`, `Text.toLineFeeds s` : carriage returns stand before line feeds only; and the text
  without them;
* `Text.SameLines s n` : the same lines, each with an end of its own in either text;
* `lexemes_append_lineEnd` : no token but the newline takes anything of a line end;
* `SameLines.logicalLines_eq`, `SameLines.findings_eq` : the lines and the findings, up to offsets;
* `SameLines.shownLine_eq` : what an excerpt shows.
-/

namespace SmaliLint
open Vocabulary (TokenRule tokenRules matches_line_end)

/-! ## Texts with the same lines -/

namespace Text

/-- Every carriage return stands right before a line feed. -/
def ReturnsPaired (s : Text) : Prop := ∀ o : Nat, s[o]? = some '\r' → s[o + 1]? = some '\n'

/-- The text with a line feed in the place of each carriage return and line feed. -/
def toLineFeeds : Text → Text
  | [] => []
  | '\r' :: '\n' :: s => '\n' :: toLineFeeds s
  | c :: s => c :: toLineFeeds s

/-- A line feed, or a carriage return and a line feed. -/
def IsLineEnd (e : Text) : Prop := e = ['\n'] ∨ e = ['\r', '\n']

/-- A text that holds nothing of a line end. -/
def Plain (s : Text) : Prop := '\r' ∉ s ∧ '\n' ∉ s

/-- The two texts have the same lines, and each line of either has its own end. -/
inductive SameLines : Text → Text → Prop
  | last {line : Text} : Plain line → SameLines line line
  | next {line e e' s n : Text} : Plain line → IsLineEnd e → IsLineEnd e' → SameLines s n →
      SameLines (line ++ e ++ s) (line ++ e' ++ n)

theorem Plain.drop {s : Text} (h : Plain s) (n : Nat) : Plain (s.drop n) :=
  ⟨fun hc => h.1 (List.mem_of_mem_drop hc), fun hc => h.2 (List.mem_of_mem_drop hc)⟩

theorem SameLines.cons {c : Char} (hr : c ≠ '\r') (hn : c ≠ '\n') {s n : Text} (h : SameLines s n) :
    SameLines (c :: s) (c :: n) := by
  have hplain : ∀ {line : Text}, Plain line → Plain (c :: line) := by
    rintro line ⟨hlr, hln⟩
    exact ⟨List.not_mem_cons_of_ne_of_not_mem hr.symm hlr, List.not_mem_cons_of_ne_of_not_mem hn.symm hln⟩
  cases h with
  | last hline => exact .last (hplain hline)
  | next hline he he' hrest => exact .next (hplain hline) he he' hrest

theorem ReturnsPaired.tail {c : Char} {s : Text} (h : ReturnsPaired (c :: s)) : ReturnsPaired s :=
  fun o ho => h (o + 1) ho

theorem ReturnsPaired.sameLines {s : Text} (h : s.ReturnsPaired) : SameLines s s.toLineFeeds := by
  have hempty : Plain [] := ⟨List.not_mem_nil, List.not_mem_nil⟩
  fun_induction toLineFeeds s with
  | case1 => exact .last hempty
  | case2 s ih => exact .next hempty (.inr rfl) (.inl rfl) (ih h.tail.tail)
  | case3 c s hpair ih =>
    have hrest := ih h.tail
    by_cases hr : c = '\r'
    · have hfeed : s[0]? = some '\n' := h 0 (by simp [hr])
      cases s with
      | nil => cases hfeed
      | cons d s =>
        obtain rfl : d = '\n' := by simpa using hfeed
        exact absurd rfl (hpair s hr)
    · by_cases hn : c = '\n'
      · subst hn
        exact .next hempty (.inl rfl) (.inl rfl) hrest
      · exact hrest.cons hr hn

end Text

open Text (Plain IsLineEnd SameLines)

/-! ## Tokens before a line end -/

theorem Text.IsLineEnd.count {e : Text} (he : IsLineEnd e) : e.count '\n' = 1 := by
  rcases he with rfl | rfl <;> decide

theorem Text.ended_append {e : Text} (he : IsLineEnd e) (line : Text) : Text.Ended (line ++ e) := by
  rcases he with rfl | rfl
  · exact Text.ended_append_newline line
  · have h := Text.ended_append_newline (line ++ ['\r'])
    rwa [List.append_assoc] at h

/-- No text of the vocabulary that begins before a line end takes any of it. -/
theorem firstToken_append_lineEnd {line e : Text} (hline : Plain line) (hne : line ≠ []) (he : IsLineEnd e) :
    firstToken (line ++ e) = firstToken line := by
  refine firstToken_congr fun r hr w hw => prefix_append_iff fun x hx hprefix heq => ?_
  rcases matches_line_end hr hw with ⟨-, hnewline⟩ | ⟨-, hfeed, hlast⟩
  · -- A newline begins with a character that the line does not hold.
    obtain ⟨c, l, rfl⟩ := List.exists_cons_of_ne_nil hne
    rw [heq] at hnewline
    have hc : c = '\n' ∨ c = '\r' := hnewline.imp (fun h => (List.cons.inj h).1) fun h => (List.cons.inj h).1
    rcases hc with rfl | rfl
    · exact hline.2 List.mem_cons_self
    · exact hline.1 List.mem_cons_self
  · -- Any other text would have to end within the line end.
    obtain ⟨y, c, rfl⟩ := (List.eq_nil_or_concat x).resolve_left hx
    have hmem : c ∈ e := hprefix.subset (by simp)
    have hc : c = '\n' ∨ c = '\r' := by rcases he with rfl | rfl <;> simp_all
    rcases hc with rfl | rfl
    · exact hfeed (by simp [heq])
    · exact hlast (by simp [heq])

theorem lexemes_lineEnd {e : Text} (he : IsLineEnd e) : lexemes e = [⟨.newline, e⟩] := by
  have hfeed : firstToken ['\n'] = (.newline, 1) := by decide +kernel
  have hreturn : firstToken ['\r', '\n'] = (.newline, 2) := by decide +kernel
  rcases he with rfl | rfl
  · rw [lexemes, hfeed]
    simp [lexemes]
  · rw [lexemes, hreturn]
    simp [lexemes]

/-- **A line end is a token of its own**, and does not change those of the line. -/
theorem lexemes_append_lineEnd {line e : Text} (hline : Plain line) (he : IsLineEnd e) :
    lexemes (line ++ e) = lexemes line ++ [⟨.newline, e⟩] := by
  rw [lexemes_append_of fun n hne => firstToken_append_lineEnd (hline.drop n) hne he, lexemes_lineEnd he]

theorem tokenize_append_lineEnd {line e : Text} (hline : Plain line) (he : IsLineEnd e) :
    ∃ t : Token, tokenize (line ++ e) = tokenize line ++ [t] ∧ t.kind = .newline := by
  have hlen : 0 + (Lexeme.texts (lexemes line)).length ≤ line.length := by
    rw [texts_lexemes]
    omega
  rw [tokenize, lexemes_append_lineEnd hline he, place_append, place_append_left line e hlen]
  exact ⟨_, rfl, rfl⟩

/-! ## Lines up to offsets -/

/-- The line and the column only. -/
def Position.withoutOffset (p : Position) : Position := { p with offset := 0 }

theorem Line.relocate_relocate (f g : Position → Position) (l : Line) :
    (l.relocate f).relocate g = l.relocate (g ∘ f) := by
  rw [Line.relocate, Line.tail_relocate, List.map_map]
  rfl

/-- The lines of a text that begins with `line`: what that leaves, and those of the rest, further down. -/
theorem logicalLines_next {line e : Text} (hline : Plain line) (he : IsLineEnd e) (s : Text) :
    logicalLines (tokenize (line ++ e ++ s)) =
      logicalLines (tokenize line) ++
        (logicalLines (tokenize s)).map (Line.relocate (.shift 1 (line ++ e).length)) := by
  obtain ⟨t, htokens, ht⟩ := tokenize_append_lineEnd hline he
  have hcount : (line ++ e).count '\n' = 1 := by
    rw [List.count_append, List.count_eq_zero.2 hline.2, he.count]
  rw [tokenize_append (Text.ended_append he line), htokens, hcount, List.append_assoc, List.singleton_append,
    logicalLines_append_newline ht, logicalLines_relocate]

/-- **Texts with the same lines have the same logical lines**, but for the offsets. -/
theorem Text.SameLines.logicalLines_eq {s n : Text} (h : SameLines s n) :
    (logicalLines (tokenize s)).map (Line.relocate Position.withoutOffset) =
      (logicalLines (tokenize n)).map (Line.relocate Position.withoutOffset) := by
  have hshift : ∀ (chars : Nat) (ls : List Line),
      (ls.map (Line.relocate (.shift 1 chars))).map (Line.relocate Position.withoutOffset) =
        (ls.map (Line.relocate Position.withoutOffset)).map (Line.relocate (.shift 1 0)) := by
    intro chars ls
    simp only [List.map_map, Function.comp_def, Line.relocate_relocate]
    rfl
  induction h with
  | last _ => rfl
  | next hline he he' _ ih =>
    rw [logicalLines_next hline he, logicalLines_next hline he', List.map_append, List.map_append, hshift, hshift,
      ih]

/-- **Texts with the same lines have the same findings**, but for the offsets. -/
theorem Text.SameLines.findings_eq {s n : Text} (h : SameLines s n) (rules : List Rule) :
    (findings (trace rules s)).map (Diagnostic.relocate Position.withoutOffset) =
      (findings (trace rules n)).map (Diagnostic.relocate Position.withoutOffset) := by
  rw [trace, trace, findings_run_eq_readLines, findings_run_eq_readLines, ← readLines_relocate,
    ← readLines_relocate, h.logicalLines_eq]

/-! ## Excerpts -/

theorem Text.dropSuffix_of_not_mem {c : Char} {s : Text} (h : c ∉ s) : Text.dropSuffix c s = s :=
  if_neg fun hlast => h (List.mem_of_getLast? hlast)

/-- A line is shown without what ends it. -/
theorem shownLines_next {line e : Text} (hline : Plain line) (he : IsLineEnd e) (s : Text) :
    (Text.lines (line ++ e ++ s)).map (Text.dropSuffix '\r') = line :: s.lines.map (Text.dropSuffix '\r') := by
  rcases he with rfl | rfl
  · rw [List.append_assoc, List.singleton_append, Text.lines_append_newline hline.2, List.map_cons,
      Text.dropSuffix_of_not_mem hline.1]
  · have hfeed : '\n' ∉ line ++ ['\r'] := by simp [hline.2]
    have htext : line ++ ['\r', '\n'] ++ s = (line ++ ['\r']) ++ '\n' :: s := by simp
    rw [htext, Text.lines_append_newline hfeed, List.map_cons]
    simp [Text.dropSuffix]

theorem Text.SameLines.shownLines_eq {s n : Text} (h : SameLines s n) :
    s.lines.map (Text.dropSuffix '\r') = n.lines.map (Text.dropSuffix '\r') := by
  induction h with
  | last _ => rfl
  | next hline he he' _ ih => rw [shownLines_next hline he, shownLines_next hline he', ih]

theorem Text.SameLines.shownLine_eq {s n : Text} (h : SameLines s n) (line : Int) :
    s.shownLine line = n.shownLine line := by
  have hshown : ∀ s : Text, Text.dropSuffix '\r' (s.lines.getD line.toNat []) =
      (s.lines.map (Text.dropSuffix '\r')).getD line.toNat [] := by
    intro s
    rw [List.getD_eq_getElem?_getD, List.getD_eq_getElem?_getD, List.getElem?_map]
    cases s.lines[line.toNat]? <;> rfl
  rw [Text.shownLine, Text.shownLine, hshown, hshown, h.shownLines_eq]

/-- A diagnostic looks the same in texts with the same lines, wherever its offsets are. -/
theorem Text.SameLines.excerpt_eq {s n : Text} (h : SameLines s n) {d e : Diagnostic}
    (hde : d.relocate Position.withoutOffset = e.relocate Position.withoutOffset) (filename : String) :
    d.excerpt s filename = e.excerpt n filename ∧ d.boundedExcerpt s filename = e.boundedExcerpt n filename := by
  have hsource : d.excerpt s filename = d.excerpt n filename := by
    rw [Diagnostic.excerpt, Diagnostic.rows, h.shownLine_eq]
    rfl
  constructor
  · calc d.excerpt s filename
      _ = (d.relocate Position.withoutOffset).excerpt n filename := hsource
      _ = (e.relocate Position.withoutOffset).excerpt n filename := by rw [hde]
      _ = e.excerpt n filename := rfl
  · calc d.boundedExcerpt s filename
      _ = d.boundedExcerpt n filename := by
        rw [Diagnostic.boundedExcerpt, Diagnostic.boundedExcerpt, h.shownLine_eq, hsource]
      _ = (d.relocate Position.withoutOffset).boundedExcerpt n filename := rfl
      _ = (e.relocate Position.withoutOffset).boundedExcerpt n filename := by rw [hde]
      _ = e.boundedExcerpt n filename := rfl

/-! ## Diagnostics -/

/-- **Line ends do not matter.** If carriage returns stand before line feeds only, the text has as many
diagnostics under any rules as it has without them. Those at the same index have the same severity and message,
start and stop at the same lines and columns, and have the same excerpt under any name. -/
theorem validate_line_endings (s : Text) (hs : s.ReturnsPaired) (rules : List Rule) :
    ∃ ds es, validate s (some (rules.map Rule.name)) = .ok ds ∧
      validate s.toLineFeeds (some (rules.map Rule.name)) = .ok es ∧
      ds.length = es.length ∧
      ∀ (i : Nat) (d e : Diagnostic), ds[i]? = some d → es[i]? = some e →
        d.severity = e.severity ∧ d.message = e.message ∧
          d.span.start.line = e.span.start.line ∧ d.span.start.column = e.span.start.column ∧
          d.span.stop.line = e.span.stop.line ∧ d.span.stop.column = e.span.stop.column ∧
          ∀ filename, d.excerpt s filename = e.excerpt s.toLineFeeds filename ∧
            d.boundedExcerpt s filename = e.boundedExcerpt s.toLineFeeds filename := by
  have hlines := hs.sameLines
  have hfound := hlines.findings_eq rules
  refine ⟨_, _, validate_names s rules, validate_names s.toLineFeeds rules, ?_, fun i d e hd he => ?_⟩
  · simpa using congrArg List.length hfound
  · have hde : d.relocate Position.withoutOffset = e.relocate Position.withoutOffset := by
      have hi := congrArg (·[i]?) hfound
      simpa [hd, he] using hi
    refine ⟨congrArg (·.severity) hde, congrArg (·.message) hde, ?_, ?_, ?_, ?_, hlines.excerpt_eq hde⟩
    · exact congrArg (·.span.start.line) hde
    · exact congrArg (·.span.start.column) hde
    · exact congrArg (·.span.stop.line) hde
    · exact congrArg (·.span.stop.column) hde

/-- A comment and an unfinished string before carriage returns. -/
theorem validate_line_endings_mixed :
    Text.ReturnsPaired "#\r\n\"\\\r\n\n".toList ∧
      Text.toLineFeeds "#\r\n\"\\\r\n\n".toList = "#\n\"\\\n\n".toList ∧
      ∃ ds es, validate "#\r\n\"\\\r\n\n".toList (some ["header", "method"]) = .ok ds ∧
        validate "#\n\"\\\n\n".toList (some ["header", "method"]) = .ok es ∧ ds.length = es.length := by
  have hfew : ∀ o < 8, "#\r\n\"\\\r\n\n".toList[o]? = some '\r' →
      "#\r\n\"\\\r\n\n".toList[o + 1]? = some '\n' := by decide
  have hpaired : Text.ReturnsPaired "#\r\n\"\\\r\n\n".toList :=
    fun o ho => hfew o (List.getElem?_eq_some_iff.1 ho).1 ho
  obtain ⟨ds, es, hds, hes, hlen, -⟩ :=
    validate_line_endings "#\r\n\"\\\r\n\n".toList hpaired [.header, .method]
  exact ⟨hpaired, by decide, ds, es, hds, hes, hlen⟩

end SmaliLint
