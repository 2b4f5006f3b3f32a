import SmaliLint.Proofs.Lexer.Words
import SmaliLint.Proofs.Validation.LineEndings

/-!
# Blank lines and comments are inert

A line of spaces and a comment leaves no logical line. Put between two lines of a text, it moves what comes after it, and
changes nothing else.

* `InertLine` : a complete line that holds spaces, tabs and a comment at most;
* `logicalLines_append` : the lines of an ended text and of what follows it; `logicalLines_inert` : inert lines have none;
* `Position.behind at_ lines chars` : moved down and on from the offset `at_` on;
* `logicalLines_between` : what inert lines between two texts do to the lines of the two;
* `logicalLines_append_lineFeed` : a line feed at the end does nothing.
-/

namespace SmaliLint
open Text (Plain IsLineEnd)
open Vocabulary (TokenRule tokenRules matches_line_end)

/-! ## Inert lines -/

/-- Spaces and tabs, a comment or none, and a line end. -/
structure InertLine where
  indent : Text
  /-- What stands behind the number sign. -/
  comment : Option Text
  lineEnd : Text
  blank : ∀ c ∈ indent, c = ' ' ∨ c = '\t'
  plain : ∀ words ∈ comment, Plain words
  ends : IsLineEnd lineEnd

namespace InertLine

/-- The comment as it is written. -/
def remark (l : InertLine) : Text :=
  match l.comment with
  | none => []
  | some words => '#' :: words

def content (l : InertLine) : Text := l.indent ++ l.remark

def text (l : InertLine) : Text := l.content ++ l.lineEnd

end InertLine

theorem lexemes_comment {words : Text} (h : Plain words) : lexemes ('#' :: words) = [⟨.comment, '#' :: words⟩] := by
  have hrule : ⟨.comment, .seq (Pattern.word "#") (.star (.char fun c => c != '\r' && c != '\n'))⟩ ∈ tokenRules := by
    simp [tokenRules]
  have hmatch : (Pattern.seq (Pattern.word "#") (.star (.char fun c => c != '\r' && c != '\n'))).Matches
      ('#' :: words) := by
    refine Pattern.matches_seq_iff.2 ⟨['#'], words, rfl, Pattern.matches_word_iff.2 rfl, ?_⟩
    refine Pattern.matches_star_char_iff.2 fun c hc => ?_
    have hr : c ≠ '\r' := fun heq => h.1 (heq ▸ hc)
    have hn : c ≠ '\n' := fun heq => h.2 (heq ▸ hc)
    simp [hr, hn]
  have hread : lexemes ('#' :: words ++ []) = ⟨.comment, '#' :: words⟩ :: lexemes [] := by
    refine lexemes_rule hrule hmatch ?_ ?_
    · intro q hq v hv hm _
      exact kind_eq_of_head "#" (by decide) (by decide) hq hv hm
    · intro v hv _
      rw [List.append_nil] at hv
      exact hv.length_le
  rwa [List.append_nil, lexemes_nil] at hread

theorem mem_lexemes {s : Text} {t : Token} (ht : t ∈ tokenize s) : ⟨t.kind, t.content⟩ ∈ lexemes s := by
  obtain ⟨ts, us, h⟩ := List.append_of_mem ht
  obtain ⟨pre, post, hls, -⟩ := place_split h
  rw [hls]
  exact List.mem_append_right _ List.mem_cons_self

theorem trim_eq_nil {ts : List Token} (h : ∀ t ∈ ts, t.kind = .comment ∨ t.kind = .space) : trim ts = [] := by
  induction ts with
  | nil => rfl
  | cons t ts ih =>
    obtain ⟨ht, hts⟩ := List.forall_mem_cons.1 h
    rw [trim, if_pos ht, ih hts]

namespace InertLine

theorem lexemes_remark (l : InertLine) : ∀ x ∈ lexemes l.remark, x.kind = .comment ∨ x.kind = .space := by
  unfold remark
  split
  · simp [lexemes_nil]
  case h_2 words hw => simp [lexemes_comment (l.plain words hw)]

theorem unindented_remark (l : InertLine) : l.remark.Unindented := by
  unfold remark
  split
  · simp [Text.Unindented]
  · simp [Text.Unindented]

/-- Nothing but a space and a comment is read in it. -/
theorem lexemes_content (l : InertLine) : ∀ x ∈ lexemes l.content, x.kind = .comment ∨ x.kind = .space := by
  unfold content
  by_cases hne : l.indent = []
  · rw [hne, List.nil_append]
    exact l.lexemes_remark
  · rw [lexemes_blanks hne l.blank l.unindented_remark]
    exact List.forall_mem_cons.2 ⟨.inr rfl, l.lexemes_remark⟩

theorem plain_content (l : InertLine) : Plain l.content := by
  have hindent : Plain l.indent := by
    constructor
    · intro h
      rcases l.blank _ h with h | h <;> cases h
    · intro h
      rcases l.blank _ h with h | h <;> cases h
  have hremark : Plain l.remark := by
    unfold remark
    split
    · exact ⟨List.not_mem_nil, List.not_mem_nil⟩
    case h_2 words hw =>
      obtain ⟨hr, hn⟩ := l.plain words hw
      exact ⟨by simp [hr], by simp [hn]⟩
  unfold content
  exact ⟨by simp [hindent.1, hremark.1], by simp [hindent.2, hremark.2]⟩

theorem logicalLines_content (l : InertLine) : logicalLines (tokenize l.content) = [] := by
  have hkinds : ∀ t ∈ tokenize l.content, t.kind = .comment ∨ t.kind = .space :=
    fun t ht => l.lexemes_content _ (mem_lexemes ht)
  have hpiece : ∀ t ∈ tokenize l.content, t.kind ≠ .newline := by
    intro t ht
    rcases hkinds t ht with h | h <;> simp [h]
  rw [logicalLines_piece hpiece, trim_eq_nil hkinds]
  rfl

end InertLine

theorem logicalLines_inert (ls : List InertLine) : logicalLines (tokenize (ls.flatMap InertLine.text)) = [] := by
  induction ls with
  | nil =>
    unfold tokenize
    rw [List.flatMap_nil, lexemes_nil]
    exact logicalLines_nil
  | cons l ls ih =>
    rw [List.flatMap_cons, InertLine.text, logicalLines_next l.plain_content l.ends, l.logicalLines_content, ih]
    rfl

theorem ended_inert (ls : List InertLine) : Text.Ended (ls.flatMap InertLine.text) := by
  induction ls with
  | nil => simp [Text.Ended]
  | cons l ls ih =>
    rw [List.flatMap_cons]
    exact (Text.ended_append l.ends l.content).append ih

theorem count_inert (ls : List InertLine) : (ls.flatMap InertLine.text).count '\n' = ls.length := by
  induction ls with
  | nil => rfl
  | cons l ls ih =>
    rw [List.flatMap_cons, List.count_append, ih, InertLine.text, List.count_append,
      List.count_eq_zero.2 l.plain_content.2, l.ends.count, List.length_cons]
    omega

/-! ## The lines of two texts -/

/-- The last token of an ended text is a newline. -/
theorem kind_of_getLast? {s : Text} (hs : s.Ended) : ∀ t, (tokenize s).getLast? = some t → t.kind = .newline := by
  intro t ht
  obtain ⟨ts, h⟩ := List.getLast?_eq_some_iff.1 ht
  have hstands := tokenize_split h
  have htext : s = Token.texts ts ++ t.content := by simpa [Token.texts] using hstands.text
  obtain ⟨c, hc⟩ : ∃ c, t.content.getLast? = some c :=
    ⟨_, List.getLast?_eq_some_getLast hstands.nonempty⟩
  have hlast : s.getLast? = some c := by rw [htext, List.getLast?_append, hc, Option.some_or]
  have hmem : '\n' ∈ t.content := hs c hlast ▸ List.mem_of_getLast? hc
  rcases hstands.line_end with ⟨hk, -⟩ | ⟨-, hn⟩
  · exact hk
  · exact absurd hmem hn

/-- **The logical lines of two texts**, of which the first is ended. -/
theorem logicalLines_append {p : Text} (hp : p.Ended) (b : Text) :
    logicalLines (tokenize (p ++ b)) =
      logicalLines (tokenize p) ++ (logicalLines (tokenize b)).map (Line.relocate (.shift (p.count '\n') p.length)) := by
  rw [tokenize_append hp, logicalLines_append_left (kind_of_getLast? hp), logicalLines_relocate]

/-- A token of a logical line ends before the line feed that ends the text. -/
theorem stop_lt_of_ended {s : Text} (hs : s.Ended) {l : Line} (hl : l ∈ logicalLines (tokenize s)) {t : Token}
    (ht : t ∈ l.toList) : t.span.start.offset < s.length ∧ t.span.stop.offset < s.length := by
  obtain ⟨piece, hstretch, hnone, htrim⟩ := exists_piece hl
  have hmem : t ∈ piece := (trim_sublist piece).subset (htrim ▸ ht)
  obtain ⟨before, after, hstands⟩ := exists_standsIn (hstretch.subset hmem)
  have hfeed : '\n' ∉ t.content := by
    rcases hstands.line_end with ⟨hk, -⟩ | ⟨-, hn⟩
    · exact absurd hk (hnone t hmem)
    · exact hn
  have hafter : after ≠ [] := by
    rintro rfl
    have hlast : s.getLast? = t.content.getLast? := by
      rw [hstands.text, List.append_nil, List.getLast?_append, List.getLast?_eq_some_getLast hstands.nonempty,
        Option.some_or]
    rw [List.getLast?_eq_some_getLast hstands.nonempty] at hlast
    exact hfeed (hs _ hlast ▸ List.getLast_mem hstands.nonempty)
  have hlen : s.length = before.length + t.content.length + after.length := by
    rw [hstands.text, List.length_append, List.length_append]
  have hpos := List.length_pos_iff.2 hafter
  rw [hstands.start_offset, hstands.stop_offset]
  omega

/-! ## Inert lines between two texts -/

/-- Moved so many lines down and so many characters on, if it is not before the offset. -/
def Position.behind (at_ lines chars : Nat) (p : Position) : Position :=
  if at_ ≤ p.offset then p.shift lines chars else p

theorem Line.relocate_congr {f g : Position → Position} {l : Line}
    (h : ∀ t ∈ l.toList, f t.span.start = g t.span.start ∧ f t.span.stop = g t.span.stop) :
    l.relocate f = l.relocate g := by
  have htoken : ∀ t ∈ l.toList, t.relocate f = t.relocate g := by
    intro t ht
    obtain ⟨hstart, hstop⟩ := h t ht
    rw [Token.relocate, Token.relocate, Span.relocate, Span.relocate, hstart, hstop]
  rw [Line.relocate, Line.relocate, htoken l.head List.mem_cons_self,
    List.map_congr_left fun t ht => htoken t (List.mem_cons_of_mem _ ht)]

theorem Line.relocate_id (l : Line) : l.relocate id = l := by
  have htoken : Token.relocate id = id := rfl
  rw [Line.relocate, htoken, List.map_id]
  rfl

/-- The lines of an ended text stay where they are. -/
theorem relocate_before {a : Text} (ha : a.Ended) (lines chars : Nat) {l : Line} (hl : l ∈ logicalLines (tokenize a)) :
    l.relocate (.behind a.length lines chars) = l := by
  rw [Line.relocate_congr (g := id), Line.relocate_id]
  intro t ht
  obtain ⟨hstart, hstop⟩ := stop_lt_of_ended ha hl ht
  unfold Position.behind
  rw [if_neg (by omega), if_neg (by omega)]
  exact ⟨rfl, rfl⟩

/-- The lines of what follows it move. -/
theorem relocate_behind (a c : Text) {b : Text} {l : Line} (hl : l ∈ logicalLines (tokenize b)) :
    (l.relocate (.shift (a.count '\n') a.length)).relocate (.behind a.length (c.count '\n') c.length) =
      l.relocate (.shift ((a ++ c).count '\n') (a ++ c).length) := by
  have hshift : ∀ p : Position, 0 ≤ p.offset →
      Position.behind a.length (c.count '\n') c.length (p.shift (a.count '\n') a.length) =
        p.shift ((a ++ c).count '\n') (a ++ c).length := by
    intro p hp
    unfold Position.behind
    rw [if_pos (by show (a.length : Int) ≤ p.offset + a.length; omega), List.count_append, List.length_append]
    simp only [Position.shift, Int.natCast_add, Int.add_assoc]
  rw [Line.relocate_relocate]
  refine Line.relocate_congr fun t ht => ?_
  obtain ⟨before, after, hstands⟩ := exists_standsIn (mem_of_mem_logicalLines hl t ht)
  have hstart := hstands.start_offset
  have hstop := hstands.stop_offset
  exact ⟨hshift _ (by omega), hshift _ (by omega)⟩

/-- **Lines without logical lines move those behind them**, and change nothing else. -/
theorem logicalLines_between {a c : Text} (ha : a.Ended) (hc : c.Ended) (hnone : logicalLines (tokenize c) = [])
    (b : Text) :
    logicalLines (tokenize (a ++ c ++ b)) =
      (logicalLines (tokenize (a ++ b))).map (Line.relocate (.behind a.length (c.count '\n') c.length)) := by
  have hkept : (logicalLines (tokenize a)).map (Line.relocate (.behind a.length (c.count '\n') c.length)) =
      logicalLines (tokenize a) := by
    refine (List.map_congr_left fun l hl => ?_).trans (List.map_id _)
    exact relocate_before ha _ _ hl
  have hmoved : ((logicalLines (tokenize b)).map (Line.relocate (.shift (a.count '\n') a.length))).map
        (Line.relocate (.behind a.length (c.count '\n') c.length)) =
      (logicalLines (tokenize b)).map (Line.relocate (.shift ((a ++ c).count '\n') (a ++ c).length)) := by
    rw [List.map_map]
    exact List.map_congr_left fun l hl => relocate_behind a c hl
  rw [logicalLines_append (ha.append hc), logicalLines_append ha c, hnone, List.map_nil, List.append_nil, logicalLines_append ha b,
    List.map_append, hkept, hmoved]

/-! ## A line feed at the end -/

/-- No text of the vocabulary takes a line feed behind another character than a carriage return. -/
theorem lexemes_append_lineFeed {s : Text} (hs : s.getLast? ≠ some '\r') :
    lexemes (s ++ ['\n']) = lexemes s ++ [⟨.newline, ['\n']⟩] := by
  have hfirst : ∀ n, s.drop n ≠ [] → firstToken (s.drop n ++ ['\n']) = firstToken (s.drop n) := by
    intro n hne
    refine firstToken_congr fun r hr w hw => prefix_append_iff fun x hx hprefix heq => ?_
    obtain rfl : x = ['\n'] := by
      obtain ⟨d, y, rfl⟩ := List.exists_cons_of_ne_nil hx
      obtain ⟨rfl, hy⟩ := List.cons_prefix_cons.1 hprefix
      rw [List.prefix_nil.1 hy]
    rcases matches_line_end hr hw with ⟨-, hw | hw⟩ | ⟨-, hfeed, -⟩
    · rw [heq, List.append_eq_singleton_iff] at hw
      simp [hne] at hw
    · -- The text would have to end in a carriage return.
      have hdrop : s.drop n = ['\r'] := by
        rw [heq] at hw
        exact List.append_cancel_right (hw : _ = ['\r'] ++ ['\n'])
      have hlast := List.getLast?_drop (l := s) (i := n)
      rw [hdrop] at hlast
      split at hlast
      · cases hlast
      · exact hs hlast.symm
    · exact hfeed (by simp [heq])
  rw [lexemes_append_of hfirst, lexemes_lineEnd (.inl rfl)]

theorem logicalLines_append_lineFeed {s : Text} (hs : s.getLast? ≠ some '\r') :
    logicalLines (tokenize (s ++ ['\n'])) = logicalLines (tokenize s) := by
  have hlen : 0 + (Lexeme.texts (lexemes s)).length ≤ s.length := by
    rw [texts_lexemes]
    omega
  have htokens : ∃ t : Token, tokenize (s ++ ['\n']) = tokenize s ++ [t] ∧ t.kind = .newline := by
    rw [tokenize, lexemes_append_lineFeed hs, place_append, place_append_left s ['\n'] hlen]
    exact ⟨_, rfl, rfl⟩
  obtain ⟨t, ht, hkind⟩ := htokens
  rw [ht, logicalLines_append_newline hkind, logicalLines_nil, List.append_nil]

/-! ## Diagnostics -/

theorem validate_of_lines (s : Text) (rules : List Rule) :
    validate s (some (rules.map Rule.name)) =
      .ok (Reading.readLines (rules.map Check.ofRule) (logicalLines (tokenize s))) := by
  rw [validate_names, trace, findings_run_eq_readLines]

/-- **Blank lines and comments are inert.** Put between two lines of a text, any number of them leaves the diagnostics
as they are, but for the lines and characters that those behind are moved. Nor does a line feed at the end of a text
change anything, unless the text ends in a carriage return. -/
theorem validate_inert_lines :
    (∀ (a b : Text) (ls : List InertLine) (rules : List Rule), a.Ended →
      let c := ls.flatMap InertLine.text
      ∃ ds, validate (a ++ b) (some (rules.map Rule.name)) = .ok ds ∧
        validate (a ++ c ++ b) (some (rules.map Rule.name)) =
          .ok (ds.map (Diagnostic.relocate (.behind a.length ls.length c.length)))) ∧
      ∀ (s : Text) (rules : List Rule), s.getLast? ≠ some '\r' →
        validate (s ++ ['\n']) (some (rules.map Rule.name)) = validate s (some (rules.map Rule.name)) := by
  constructor
  · intro a b ls rules ha c
    have hlines := logicalLines_between ha (ended_inert ls) (logicalLines_inert ls) b
    rw [count_inert] at hlines
    refine ⟨_, validate_of_lines (a ++ b) rules, ?_⟩
    rw [validate_of_lines, hlines, readLines_relocate]
  · intro s rules hs
    rw [validate_of_lines, validate_of_lines, logicalLines_append_lineFeed hs]

/-- An empty line and an indented comment before the second line of a text. -/
theorem validate_inert_lines_note :
    let lines : List InertLine :=
      [⟨[], none, ['\n'], by simp, by simp, .inl rfl⟩,
        ⟨['\t'], some "note".toList, ['\r', '\n'], by simp, by simp [Plain], .inr rfl⟩]
    lines.flatMap InertLine.text = "\n\t#note\r\n".toList ∧ Text.Ended ".super\n".toList ∧
      (∃ ds, validate ".super\nx".toList (some ["header"]) = .ok ds ∧
        validate ".super\n\n\t#note\r\nx".toList (some ["header"]) =
          .ok (ds.map (Diagnostic.relocate (.behind 7 2 9)))) ∧
      validate "x\n".toList (some ["header"]) = validate "x".toList (some ["header"]) := by
  intro lines
  obtain ⟨hlines, hfeed⟩ := validate_inert_lines
  have hended : Text.Ended ".super\n".toList := Text.ended_append_newline ".super".toList
  exact ⟨rfl, hended, hlines ".super\n".toList ['x'] lines [.header] hended, hfeed ['x'] [.header] (by decide)⟩

end SmaliLint
