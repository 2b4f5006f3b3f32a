import SmaliLint.Proofs.Line
import SmaliLint.Proofs.Validation.Run

/-!
# Validation line by line

A run shows the tokens of a line to the checks as they come, the line when its newline comes, and every
space, comment and newline besides. All that matters of this are the lines:

* `Reading`, `Reading.readLines` : checks that are shown one line after the other, of each line first its
  returns and then the line itself;
* `findings_run_audible` : signals that no check answers and none remembers may be left out;
* `audible_signals` : what is left then is the schedule of the lines;
* `findings_run_eq_readLines` : so a run finds what the reading of its lines finds;
* `Event.line?`, `filterMap_line?_trace`, `schedule_split` : the lines that are shown are the lines of the text, each after
  those before it and its own returns; `schedule_split_token` : a return after the lines before its own;
* `exists_signals_finish` : the end is shown last.
-/

namespace SmaliLint

/-! ## Reading lines -/

/-- Checks on their way through a text, and what they have found so far. -/
structure Reading where
  checks : List Check
  found : List Diagnostic

namespace Reading

/-- Shows a signal to every check in turn. -/
def tell (r : Reading) (s : Signal) : Reading :=
  ⟨r.checks.map fun c => (c.step s).1, r.found ++ r.checks.flatMap fun c => (c.step s).2⟩

/-- Shows the returns of a line in their order, and then the line. -/
def readLine (r : Reading) (l : Line) : Reading :=
  ((l.toList.filter (·.kind = .ret)).foldl (fun r t => r.tell (.token t)) r).tell (.line l)

/-- Shows one line after the other, and at last the end. -/
def readLines (checks : List Check) (lines : List Line) : List Diagnostic :=
  ((lines.foldl readLine ⟨checks, []⟩).tell .finish).found

end Reading

/-! ## Runs and signals -/

theorem findings_run_cons (checks : List Check) (s : Signal) (ss : List Signal) :
    findings (run checks (s :: ss)) =
      checks.flatMap (fun c => (c.step s).2) ++ findings (run (checks.map fun c => (c.step s).1) ss) := by
  rw [run, findings, List.flatMap_append, List.flatMap_map, List.map_map]
  rfl

/-- To tell signals one by one is to run the checks over them. -/
theorem found_foldl_tell (ss : List Signal) (r : Reading) :
    (ss.foldl Reading.tell r).found = r.found ++ findings (run r.checks ss) := by
  induction ss generalizing r with
  | nil => simp [run, findings]
  | cons s ss ih => rw [List.foldl_cons, ih, findings_run_cons, Reading.tell, List.append_assoc]

/-- The signals of a line that is read as a whole. -/
def Line.schedule (l : Line) : List Signal := (l.toList.filter (·.kind = .ret)).map .token ++ [.line l]

theorem readLines_eq_findings (checks : List Check) (lines : List Line) :
    Reading.readLines checks lines = findings (run checks (lines.flatMap Line.schedule ++ [.finish])) := by
  have hline : ∀ (r : Reading) (l : Line), r.readLine l = l.schedule.foldl Reading.tell r := by
    intro r l
    rw [Line.schedule, List.foldl_append, List.foldl_map]
    rfl
  have hlines : ∀ r : Reading, lines.foldl Reading.readLine r = (lines.flatMap Line.schedule).foldl Reading.tell r := by
    intro r
    rw [List.foldl_flatMap]
    simp only [← hline]
  have hall := found_foldl_tell (lines.flatMap Line.schedule ++ [.finish]) ⟨checks, []⟩
  rw [List.foldl_append, ← hlines, List.nil_append] at hall
  exact hall

/-! ## Signals that do not matter -/

/-- Whether some check may answer the signal: of the tokens, to returns only. -/
def Signal.audible : Signal → Bool
  | .token t => t.kind = .ret
  | _ => true

/-- The check without what it remembers of newlines, which it never asks for. -/
def Check.essence : Check → Check
  | .header h => .header { h with last := none, blank := false }
  | .method m => .method m

theorem Methods.seeToken_of_ne_ret (m : Methods) {t : Token} (ht : t.kind ≠ .ret) : m.seeToken t = (m, []) := by
  unfold seeToken
  split
  · rw [if_neg ht]
  · rfl

namespace Check

/-- What a check says, and its essence afterwards, depend on its essence only. -/
theorem step_essence (c : Check) (s : Signal) :
    (c.essence.step s).2 = (c.step s).2 ∧ (c.essence.step s).1.essence = (c.step s).1.essence := by
  cases c with
  | method m => exact ⟨rfl, rfl⟩
  | header h =>
    cases s with
    | token t => exact ⟨rfl, rfl⟩
    | finish => exact ⟨rfl, rfl⟩
    | line l =>
      simp only [essence, step, Header.seeLine, Header.seeDirective]
      cases l.headerDirective? with
      | none => exact ⟨rfl, rfl⟩
      | some d => cases d <;> exact ⟨rfl, rfl⟩

theorem step_inaudible (c : Check) {s : Signal} (hs : s.audible = false) :
    (c.step s).2 = [] ∧ (c.step s).1.essence = c.essence := by
  cases s with
  | line l => cases hs
  | finish => cases hs
  | token t =>
    have ht : t.kind ≠ .ret := of_decide_eq_false hs
    cases c with
    | header h => exact ⟨rfl, rfl⟩
    | method m =>
      rw [step, Methods.seeToken_of_ne_ret m ht]
      exact ⟨rfl, rfl⟩

end Check

theorem findings_run_essence {checks others : List Check} (h : checks.map Check.essence = others.map Check.essence)
    (ss : List Signal) : findings (run checks ss) = findings (run others ss) := by
  induction ss generalizing checks others with
  | nil => rfl
  | cons s ss ih =>
    have hsaid : ∀ cs : List Check, cs.flatMap (fun c => (c.step s).2) =
        (cs.map Check.essence).flatMap fun c => (c.step s).2 := by
      intro cs
      rw [List.flatMap_map]
      simp only [(Check.step_essence _ s).1]
    have hnext : ∀ cs : List Check, (cs.map fun c => (c.step s).1).map Check.essence =
        (cs.map Check.essence).map fun c => (c.step s).1.essence := by
      intro cs
      rw [List.map_map, List.map_map]
      exact List.map_congr_left fun c _ => (Check.step_essence c s).2.symm
    rw [findings_run_cons, findings_run_cons, hsaid checks, hsaid others, h]
    congr 1
    refine ih ?_
    rw [hnext, hnext, h]

/-- **Inaudible signals may be left out.** -/
theorem findings_run_audible (checks : List Check) (ss : List Signal) :
    findings (run checks (ss.filter Signal.audible)) = findings (run checks ss) := by
  induction ss generalizing checks with
  | nil => rfl
  | cons s ss ih =>
    by_cases hs : s.audible = true
    · rw [List.filter_cons_of_pos hs, findings_run_cons, findings_run_cons, ih]
    · have hinaudible : s.audible = false := by simpa using hs
      have hquiet : ∀ c : Check, (c.step s).2 = [] ∧ (c.step s).1.essence = c.essence :=
        fun c => c.step_inaudible hinaudible
      have hsaid : checks.flatMap (fun c => (c.step s).2) = [] :=
        List.flatMap_eq_nil_iff.2 fun c _ => (hquiet c).1
      have hsame : checks.map Check.essence = (checks.map fun c => (c.step s).1).map Check.essence := by
        rw [List.map_map]
        exact List.map_congr_left fun c _ => (hquiet c).2.symm
      rw [List.filter_cons_of_neg hs, findings_run_cons, hsaid, List.nil_append, ih]
      exact findings_run_essence hsame ss

/-! ## The schedule of a token list -/

/-- The signals of a line that is about to end, given what was fed of it: its returns have been heard
already, and the line itself is still to come. -/
theorem schedule_piece (piece : List Token) :
    ((Line.ofList? (trim piece)).toList.flatMap Line.schedule) =
      (piece.filter (·.kind = .ret)).map Signal.token ++ ((Line.ofList? (trim piece)).map Signal.line).toList := by
  have hreturns : (trim piece).filter (·.kind = .ret) = piece.filter (·.kind = .ret) := by
    refine filter_trim (fun t ht => ?_) piece
    have hkind : t.kind = .ret := of_decide_eq_true ht
    rw [hkind]
    decide
  cases hl : Line.ofList? (trim piece) with
  | none =>
    have hnil : trim piece = [] := by
      cases ht : trim piece with
      | nil => rfl
      | cons t ts => rw [ht] at hl; cases hl
    rw [← hreturns, hnil]
    rfl
  | some l =>
    have htokens := Line.toList_of_ofList? hl
    rw [← hreturns, ← htokens]
    simp [Line.schedule]

theorem audible_line (l : Option Line) :
    (l.map Signal.line).toList.filter Signal.audible = (l.map Signal.line).toList := by
  cases l <;> rfl

/-- While tokens are fed, what was heard of the unfinished line and what is still to be heard make up the
schedule of the lines. -/
theorem audible_signalsFrom (a : LineAssembler) (ha : ∀ t ∈ a.buffer.toList, t.kind ≠ .newline) (ts : List Token) :
    (a.buffer.toList.filter (·.kind = .ret)).map Signal.token ++ (signalsFrom a ts).filter Signal.audible =
      (logicalLines (a.buffer.toList ++ ts)).flatMap Line.schedule ++ [.finish] := by
  induction ts generalizing a with
  | nil =>
    rw [List.append_nil, logicalLines_piece ha, schedule_piece, signalsFrom, LineAssembler.flush,
      List.filter_append, audible_line, List.append_assoc]
    rfl
  | cons t ts ih =>
    by_cases ht : t.kind = .newline
    · -- The line ends: it is heard, its newline is not, and the next one begins.
      have hquiet : ¬ Signal.audible (.token t) = true := by simp [Signal.audible, ht]
      have hrest := ih .empty (by simp [LineAssembler.empty])
      have hempty : LineAssembler.empty.buffer.toList = [] := rfl
      rw [hempty, List.filter_nil, List.map_nil, List.nil_append, List.nil_append] at hrest
      rw [logicalLines_append_newline ht, logicalLines_piece ha, List.flatMap_append, schedule_piece,
        List.append_assoc, List.append_assoc, ← hrest, signalsFrom, LineAssembler.feed, if_pos ht,
        LineAssembler.flush, List.filter_append, audible_line, List.filter_cons_of_neg hquiet]
    · have hpush : ∀ u ∈ (a.buffer.push t).toList, u.kind ≠ .newline := by
        intro u hu
        rw [Array.toList_push] at hu
        rcases List.mem_append.1 hu with hu | hu
        · exact ha u hu
        · rw [List.mem_singleton.1 hu]
          exact ht
      have hrest := ih ⟨a.buffer.push t⟩ hpush
      rw [Array.toList_push, List.append_assoc, List.singleton_append] at hrest
      rw [← hrest, signalsFrom, LineAssembler.feed, if_neg ht]
      by_cases hret : t.kind = .ret <;> simp [hret, Signal.audible]

theorem audible_signals (ts : List Token) :
    (signals ts).filter Signal.audible = (logicalLines ts).flatMap Line.schedule ++ [.finish] :=
  audible_signalsFrom .empty (by simp [LineAssembler.empty]) ts

/-- The end of the text is the last signal. -/
theorem exists_signals_finish (ts : List Token) : ∃ ss, signals ts = ss ++ [.finish] ∧ .finish ∉ ss := by
  have hfrom : ∀ a, ∃ ss, signalsFrom a ts = ss ++ [.finish] ∧ .finish ∉ ss := by
    induction ts with
    | nil => exact fun a => ⟨_, rfl, by simp⟩
    | cons t ts ih =>
      intro a
      obtain ⟨ss, hss, hno⟩ := ih (a.feed t).1
      refine ⟨((a.feed t).2.map Signal.line).toList ++ .token t :: ss, ?_, ?_⟩
      · rw [signalsFrom, hss]
        simp
      · simp [hno]
  exact hfrom .empty

/-! ## The lines that are shown -/

def Signal.line? : Signal → Option Line
  | .line l => some l
  | _ => none

theorem filterMap_line?_audible (ss : List Signal) :
    (ss.filter Signal.audible).filterMap Signal.line? = ss.filterMap Signal.line? := by
  induction ss with
  | nil => rfl
  | cons s ss ih =>
    by_cases hs : s.audible = true
    · rw [List.filter_cons_of_pos hs, List.filterMap_cons, List.filterMap_cons, ih]
    · have hnone : s.line? = none := by
        cases s with
        | token t => rfl
        | line l => exact absurd rfl hs
        | finish => exact absurd rfl hs
      rw [List.filter_cons_of_neg hs, ih, List.filterMap_cons, hnone]

theorem filterMap_line?_tokens (ts : List Token) : (ts.map Signal.token).filterMap Signal.line? = [] := by
  rw [List.filterMap_map, List.filterMap_eq_nil_iff]
  intro t _
  rfl

theorem filterMap_line?_schedule (ls : List Line) : (ls.flatMap Line.schedule).filterMap Signal.line? = ls := by
  induction ls with
  | nil => rfl
  | cons l ls ih =>
    rw [List.flatMap_cons, List.filterMap_append, ih, Line.schedule, List.filterMap_append, filterMap_line?_tokens]
    rfl

/-- Exactly the lines of the text are shown. -/
theorem filterMap_line?_signals (ts : List Token) : (signals ts).filterMap Signal.line? = logicalLines ts := by
  rw [← filterMap_line?_audible, audible_signals, List.filterMap_append, filterMap_line?_schedule]
  exact List.append_nil _

/-- The line that the event is about. -/
def Event.line? (e : Event) : Option Line := e.signal.line?

theorem filterMap_line?_trace (rule : Rule) (source : Text) :
    (trace [rule] source).filterMap Event.line? = logicalLines (tokenize source) := by
  have hshown := filterMap_line?_signals (tokenize source)
  rwa [← signals_run (.ofRule rule) (signals (tokenize source)), List.filterMap_map] at hshown

theorem split_at_line {ts : List Token} {l k : Line} {rest x y : List Signal}
    (h : ts.map Signal.token ++ .line l :: rest = x ++ .line k :: y) :
    (x = ts.map Signal.token ∧ l = k ∧ rest = y) ∨
      ∃ x', x = ts.map Signal.token ++ .line l :: x' ∧ rest = x' ++ .line k :: y := by
  induction ts generalizing x with
  | nil =>
    cases x with
    | nil =>
      obtain ⟨hline, hrest⟩ := List.cons.inj h
      exact .inl ⟨rfl, Signal.line.inj hline, hrest⟩
    | cons s x =>
      obtain ⟨rfl, hrest⟩ := List.cons.inj h
      exact .inr ⟨x, rfl, hrest⟩
  | cons t ts ih =>
    cases x with
    | nil => cases (List.cons.inj h).1
    | cons s x =>
      obtain ⟨rfl, hrest⟩ := List.cons.inj h
      rcases ih hrest with ⟨rfl, hl, hr⟩ | ⟨x', rfl, hr⟩
      · exact .inl ⟨rfl, hl, hr⟩
      · exact .inr ⟨x', rfl, hr⟩

/-- A line is shown after the lines before it and its own returns. -/
theorem schedule_split {ls : List Line} {x y : List Signal} {k : Line}
    (h : ls.flatMap Line.schedule ++ [.finish] = x ++ .line k :: y) :
    ∃ before after, ls = before ++ k :: after ∧
      x = before.flatMap Line.schedule ++ (k.toList.filter (·.kind = .ret)).map Signal.token := by
  induction ls generalizing x with
  | nil => cases x <;> simp at h
  | cons l ls ih =>
    rw [List.flatMap_cons, Line.schedule, List.append_assoc, List.append_assoc, List.singleton_append] at h
    rcases split_at_line h with ⟨rfl, rfl, -⟩ | ⟨x', rfl, hrest⟩
    · exact ⟨[], ls, rfl, rfl⟩
    · obtain ⟨before, after, rfl, rfl⟩ := ih hrest
      refine ⟨l :: before, after, rfl, ?_⟩
      rw [List.flatMap_cons, Line.schedule, List.append_assoc, List.append_assoc]
      rfl

/-- A return is shown after the lines before its own and the returns before it. -/
theorem schedule_split_token {ls : List Line} {x y : List Signal} {t : Token}
    (h : ls.flatMap Line.schedule ++ [.finish] = x ++ .token t :: y) :
    ∃ before j after heard unheard, ls = before ++ j :: after ∧ j.toList.filter (·.kind = .ret) = heard ++ t :: unheard ∧
      x = before.flatMap Line.schedule ++ heard.map Signal.token := by
  induction ls generalizing x with
  | nil => cases x <;> simp at h
  | cons l ls ih =>
    rw [List.flatMap_cons, Line.schedule, List.append_assoc, List.append_assoc, List.singleton_append] at h
    rcases List.append_eq_append_iff.1 h with ⟨shown, rfl, hrest⟩ | ⟨shown, hreturns, hrest⟩
    · -- The line has been shown before the return.
      cases shown with
      | nil => cases (List.cons.inj hrest).1
      | cons s shown =>
        obtain ⟨rfl, hmore⟩ := List.cons.inj hrest
        obtain ⟨before, j, after, heard, unheard, rfl, hj, rfl⟩ := ih hmore
        refine ⟨l :: before, j, after, heard, unheard, rfl, hj, ?_⟩
        rw [List.flatMap_cons, Line.schedule, List.append_assoc, List.append_assoc]
        rfl
    · cases shown with
      | nil => cases (List.cons.inj hrest).1
      | cons s shown =>
        obtain ⟨rfl, -⟩ := List.cons.inj hrest
        obtain ⟨heard, later, hsplit, rfl, hlater⟩ := List.map_eq_append_iff.1 hreturns
        obtain ⟨u, unheard, rfl, hu, -⟩ := List.map_eq_cons_iff.1 hlater
        obtain rfl := Signal.token.inj hu
        exact ⟨[], l, ls, heard, unheard, rfl, hsplit, rfl⟩

/-! ## Runs and lines -/

/-- A run over the tokens of a text finds what the checks find that read its lines. -/
theorem findings_run_eq_readLines (checks : List Check) (ts : List Token) :
    findings (run checks (signals ts)) = Reading.readLines checks (logicalLines ts) := by
  rw [readLines_eq_findings, ← audible_signals, findings_run_audible]

/-- **Validation goes line by line.** A run finds what is found when the tokens are cut at newlines and trimmed, and of
each line the returns are shown to all checks and then the line. So a comment, a space at the beginning or the end of a
line and a newline that makes a blank line or ends the last one have no influence. -/
theorem run_line_by_line (checks : List Check) (ts : List Token) :
    findings (run checks (signals ts)) = Reading.readLines checks (logicalLines ts) ∧
      (∀ us, logicalLines us = logicalLines ts →
        findings (run checks (signals us)) = findings (run checks (signals ts))) ∧
      ∀ before t after, ts = before ++ t :: after → Layout before t after →
        findings (run checks (signals ts)) = findings (run checks (signals (before ++ after))) := by
  have hsame : ∀ us, logicalLines us = logicalLines ts →
      findings (run checks (signals us)) = findings (run checks (signals ts)) := by
    intro us h
    rw [findings_run_eq_readLines, findings_run_eq_readLines, h]
  refine ⟨findings_run_eq_readLines checks ts, hsame, ?_⟩
  rintro before t after rfl hlayout
  exact (hsame _ (logicalLines_layout hlayout).symm).symm

end SmaliLint
