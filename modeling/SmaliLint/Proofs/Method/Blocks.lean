import SmaliLint.Proofs.Lexer.LongestMatch
import SmaliLint.Proofs.Method.History
import SmaliLint.Proofs.Validation.LineByLine
import SmaliLint.Proofs.Validation.Run

/-!
# The structure of method blocks

What is said to a `.method` or an `.end method` line is told by the lines before it and by its own tokens. The
check that says it keeps one block, which opening lines replace, ending lines close and returns change.

* `Check.after_schedule`, `state_of_audible` : the check after whole lines, and after returns of the next one;
* `trace_line` : what is said to a line after the lines before it;
* `opens_or_ends` : a method directive reads `.method` or `.end method`;
* `Block.ofLines_eq_inside`, `Block.ofLines_eq_after` : the block by the last method directive;
* `BlockVerdict`, `method_block_structure` : the five cases.
-/

namespace SmaliLint

/-! ## What a line is told -/

namespace Check

theorem after_tokens (m : Methods) (ts : List Token) :
    (Check.method m).after (ts.map .token) = .method (m.hear ts) := by
  induction ts generalizing m with
  | nil => rfl
  | cons t ts ih => exact ih (m.seeToken t).1

theorem after_schedule (m : Methods) (ls : List Line) :
    (Check.method m).after (ls.flatMap Line.schedule) = .method (ls.foldl Methods.afterLine m) := by
  induction ls generalizing m with
  | nil => rfl
  | cons l ls ih =>
    rw [List.flatMap_cons, after_append, Line.schedule, after_append]
    show (((Check.method m).after (l.returns.map .token)).after [.line l]).after _ = _
    rw [after_tokens]
    exact ih (m.afterLine l)

/-- Tokens that are no returns do not change a check of methods. -/
theorem after_audible (m : Methods) (ss : List Signal) :
    (Check.method m).after (ss.filter Signal.audible) = (Check.method m).after ss := by
  induction ss generalizing m with
  | nil => rfl
  | cons s ss ih =>
    by_cases hs : s.audible = true
    · rw [List.filter_cons_of_pos hs]
      cases s with
      | line l => exact ih (m.seeLine l).1
      | token t => exact ih (m.seeToken t).1
      | finish => exact ih m
    · cases s with
      | line l => exact absurd rfl hs
      | finish => exact absurd rfl hs
      | token t =>
        have ht : t.kind ≠ .ret := by simpa [Signal.audible] using hs
        rw [List.filter_cons_of_neg hs, ih]
        show _ = (Check.method (m.seeToken t).1).after ss
        rw [Methods.seeToken_of_ne_ret m ht]

end Check

/-- A check that has been shown some lines and some returns of the next one. -/
theorem state_of_audible {past : List Event} {before : List Line} {heard : List Token}
    (h : (past.map (·.signal)).filter Signal.audible = before.flatMap Line.schedule ++ heard.map .token) :
    past.filterMap Event.line? = before ∧
      (Check.method .empty).after (past.map (·.signal)) = .method ((Methods.afterLines before).hear heard) := by
  constructor
  · have hshown := filterMap_line?_audible (past.map (·.signal))
    rw [h, List.filterMap_append, filterMap_line?_schedule, filterMap_line?_tokens, List.append_nil,
      List.filterMap_map] at hshown
    exact hshown.symm
  · rw [← Check.after_audible, h, Check.after_append, Check.after_schedule]
    exact Check.after_tokens _ _

/-- The lines before an event are the lines of the text before the one that it is about. -/
theorem trace_line {source : Text} {past future : List Event} {e : Event} {k : Line}
    (h : trace [.method] source = past ++ e :: future) (hk : e.signal = .line k) :
    (∃ after, logicalLines (tokenize source) = past.filterMap Event.line? ++ k :: after) ∧
      e.found = Methods.saysAfter (past.filterMap Event.line?) k := by
  obtain ⟨hsignals, hevent⟩ := run_split h
  rw [hk] at hsignals hevent
  have haudible := congrArg (List.filter Signal.audible) hsignals
  rw [audible_signals, List.filter_append, List.filter_cons_of_pos rfl] at haudible
  obtain ⟨before, after, hlines, hpast⟩ := schedule_split haudible
  obtain ⟨hbefore, hstate⟩ := state_of_audible hpast
  refine ⟨⟨after, hbefore.symm ▸ hlines⟩, ?_⟩
  rw [hbefore, hevent]
  show (((Check.method .empty).after (past.map (·.signal))).step (.line k)).2 = _
  rw [hstate]
  rfl

/-! ## Method directives -/

/-- There are two method directives. -/
theorem reads_of_kind_method {source : Text} {t : Token} (ht : t ∈ tokenize source) (hk : t.kind = .method) :
    t.reads ".method" = true ∨ t.reads ".end method" = true := by
  obtain ⟨before, after, hstands⟩ := exists_standsIn ht
  have hfirst := hstands.first
  rw [hk] at hfirst
  obtain ⟨_, r, _, hrules, hkind, hmatch, -, -⟩ := firstToken_eq_kind hfirst (by decide)
  have hr : r ∈ Vocabulary.tokenRules := hrules ▸ List.mem_append_right _ List.mem_cons_self
  have honly : ∀ r ∈ Vocabulary.tokenRules, r.kind = .method →
      r.pattern = Vocabulary.dotted Vocabulary.methodDirectives := by
    simp [Vocabulary.tokenRules]
  have hspells : (Vocabulary.dotted Vocabulary.methodDirectives).Spells [".end method".toList, ".method".toList] :=
    (Pattern.spells_word ".").seq (Pattern.spells_oneOf _)
  rw [List.take_left, honly r hr hkind, hspells.matches_iff] at hmatch
  simpa [Token.reads, or_comm] using hmatch

theorem opens_or_ends {source : Text} {l : Line} (hl : l ∈ logicalLines (tokenize source)) (hm : l.isMethod = true) :
    l.opensMethod = true ∨ l.endsMethod = true := by
  have hkind : l.head.kind = .method := by simpa [Line.isMethod] using hm
  have hhead : l.head ∈ tokenize source := mem_of_mem_logicalLines hl _ List.mem_cons_self
  unfold Line.opensMethod Line.endsMethod
  rw [hm, Bool.true_and, Bool.true_and]
  exact reads_of_kind_method hhead hkind

/-! ## The block that a line stands in -/

namespace Block

variable {before since later : List Line} {j m : Line}

theorem ofLines_eq_before (h : ∀ l ∈ before, l.opensMethod = false) : ofLines before = .before := by
  unfold ofLines
  rw [findLast?_eq_none_iff.2 h]

/-- A block is open if the last method directive has opened it. -/
theorem ofLines_eq_inside (h : findLast? Line.isMethod before = some (j, since)) (hj : j.opensMethod = true) :
    ofLines before = .inside ⟨j, (Declaration.ofLine j).returnType, since.any Line.hasReturn, j.hasBody⟩ := by
  obtain ⟨earlier, hsplit, -, hsince⟩ := findLast?_eq_some_iff.1 h
  have hopens : findLast? Line.opensMethod before = some (j, since) := by
    refine findLast?_eq_some_iff.2 ⟨earlier, hsplit, hj, fun l hl => ?_⟩
    rw [Line.opensMethod, hsince l hl, Bool.false_and]
  have hnone : since.find? Line.isMethod = none := List.find?_eq_none.2 fun l hl => by simp [hsince l hl]
  unfold ofLines
  rw [hopens]
  simp only [hnone]

/-- A block is closed if the last method directive has not opened it, by the first one after the opening. -/
theorem ofLines_eq_after (h : findLast? Line.isMethod before = some (j, since)) (hj : j.opensMethod = false)
    (hm : findLast? Line.opensMethod before = some (m, later)) :
    ∃ first, later.find? Line.isMethod = some first ∧ ofLines before = .after first := by
  obtain ⟨earlier, hsplit, hjm, hsince⟩ := findLast?_eq_some_iff.1 h
  obtain ⟨earlier', hsplit', hmopens, hlater⟩ := findLast?_eq_some_iff.1 hm
  cases hfind : later.find? Line.isMethod with
  | some first =>
    refine ⟨first, rfl, ?_⟩
    unfold ofLines
    rw [hm]
    simp only [hfind]
  | none =>
    have hnone : ∀ l ∈ later, l.isMethod = false := fun l hl => by simpa using List.find?_eq_none.1 hfind l hl
    have hlast : findLast? Line.isMethod before = some (m, later) :=
      findLast?_eq_some_iff.2 ⟨earlier', hsplit', Line.isMethod_of_opensMethod hmopens, hnone⟩
    rw [h] at hlast
    obtain ⟨rfl, -⟩ := Prod.mk.inj (Option.some.inj hlast)
    rw [hmopens] at hj
    cases hj

/-- No block is open unless the last method directive has opened it. -/
theorem ofLines_ne_inside (h : ∀ j since, findLast? Line.isMethod before = some (j, since) → j.opensMethod = false)
    (method : Method) : ofLines before ≠ .inside method := by
  cases hopens : findLast? Line.opensMethod before with
  | none =>
    rw [ofLines_eq_before (findLast?_eq_none_iff.1 hopens)]
    exact nofun
  | some r =>
    cases hlast : findLast? Line.isMethod before with
    | none =>
      obtain ⟨earlier, rfl, hr, -⟩ := findLast?_eq_some_iff.1 hopens
      have hno := findLast?_eq_none_iff.1 hlast r.1 (by simp)
      rw [Line.isMethod_of_opensMethod hr] at hno
      cases hno
    | some last =>
      obtain ⟨first, -, heq⟩ := ofLines_eq_after hlast (h last.1 last.2 hlast) hopens
      rw [heq]
      exact nofun

end Block

/-! ## The five cases -/

/-- What a declaration outside a method is told: its own mistakes, and the constructor of its kind that was there
before. -/
def declarationFindings (before : List Line) (k : Line) : List Diagnostic :=
  let static := k.hasModifier "static"
  (Declaration.ofLine k).found ++
    match if k.hasModifier "constructor" then firstConstructor? static before else none with
    | some first => alreadyDeclared first k (if static then "Static constructor" else "Constructor") "defined"
    | none => []

/-- What is found in a line `k` that starts with a method directive and stands after the lines `before`. -/
structure BlockVerdict (before : List Line) (k : Line) (found : List Diagnostic) : Prop where
  /-- `.method` after `.method`: none of the mistakes of the declaration is reported. -/
  nested : k.opensMethod = true → ∀ j since, findLast? Line.isMethod before = some (j, since) →
    j.opensMethod = true →
      found = [j.report .hint "Method block starts here.",
        k.report .error "'.method' directive cannot be inside a method block."]
  /-- `.method` first or after `.end method`. -/
  opening : k.opensMethod = true →
    (∀ j since, findLast? Line.isMethod before = some (j, since) → j.opensMethod = false) →
      found = declarationFindings before k
  /-- `.end method` before any `.method`. -/
  early : k.endsMethod = true → (∀ l ∈ before, l.opensMethod = false) →
    found = [k.report .error "'.end method' directive must be at the end of a method block."]
  /-- `.end method` after `.end method`: the first one since the last `.method` has ended the block. -/
  repeated : k.endsMethod = true → ∀ m later, findLast? Line.opensMethod before = some (m, later) →
    ∀ j since, findLast? Line.isMethod before = some (j, since) → j.endsMethod = true →
      ∃ first, later.find? Line.endsMethod = some first ∧
        found = [first.report .hint "Method block ends here.",
          k.report .error "'.end method' directive must be at the end of a method block."]
  /-- `.end method` after `.method`: a body needs a return on some line since. -/
  closing : k.endsMethod = true → ∀ m since, findLast? Line.isMethod before = some (m, since) →
    m.opensMethod = true →
      found = if m.hasModifier "abstract" = false ∧ m.hasModifier "native" = false ∧
          ∀ l ∈ since ++ [k], l.hasReturn = false then
        [m.report .error "No return instruction found in method block."] else []

theorem Line.not_opensMethod_of_endsMethod {l : Line} (h : l.endsMethod = true) : l.opensMethod = false := by
  obtain ⟨-, hreads⟩ := Bool.and_eq_true_iff.1 h
  have hcontent : l.head.content = ".end method".toList := by simpa [Token.reads] using hreads
  have hother : l.head.reads ".method" = false := by
    rw [Token.reads, hcontent]
    decide
  rw [Line.opensMethod, hother, Bool.and_false]

namespace Methods

theorem found_addConstructor (before : List Line) (k : Line) :
    (Declaration.ofLine k).found ++ ((ofLines before).addConstructor k (.ofLine k)).2 = declarationFindings before k := by
  unfold declarationFindings
  dsimp only
  congr 1
  unfold addConstructor ofLines
  rw [Declaration.has_ofLine, Declaration.has_ofLine]
  dsimp only
  cases k.hasModifier "constructor" with
  | false => rfl
  | true =>
    cases k.hasModifier "static" with
    | true => cases firstConstructor? true before <;> rfl
    | false => cases firstConstructor? false before <;> rfl

theorem saysAfter_of_opens (before : List Line) {k : Line} (hk : k.opensMethod = true) :
    saysAfter before k = match Block.ofLines before with
      | .inside method => [method.line.report .hint "Method block starts here.",
          k.report .error "'.method' directive cannot be inside a method block."]
      | _ => declarationFindings before k := by
  unfold saysAfter
  rw [afterLines_eq_ofLines, hear_eq _ Line.kind_of_mem_returns, seeLine_of_opensMethod _ hk]
  unfold openBlock
  dsimp only
  rw [addConstructor_block (ofLines before), found_addConstructor]
  show (match (Block.ofLines before).heard (!k.returns.isEmpty) with
      | .inside method => [method.line.report .hint "Method block starts here.",
          k.report .error "'.method' directive cannot be inside a method block."]
      | _ => declarationFindings before k) = _
  cases Block.ofLines before <;> rfl

theorem saysAfter_of_ends (before : List Line) {k : Line} (hk : k.endsMethod = true) :
    saysAfter before k = match Block.ofLines before with
      | .before => [k.report .error misplacedEnd]
      | .after ended => [ended.report .hint "Method block ends here.", k.report .error misplacedEnd]
      | .inside method =>
        if method.hasBody && !(method.sawReturn || k.hasReturn) then
          [method.line.report .error "No return instruction found in method block."]
        else [] := by
  have hmethod : k.isMethod = true := (Bool.and_eq_true_iff.1 hk).1
  unfold saysAfter
  rw [afterLines_eq_ofLines, hear_eq _ Line.kind_of_mem_returns,
    seeLine_of_not_opensMethod _ hmethod (Line.not_opensMethod_of_endsMethod hk), Line.returns_isEmpty, Bool.not_not]
  unfold closeBlock
  show (match (Block.ofLines before).heard k.hasReturn with
    | .before => _
    | .after ended => _
    | .inside method => _ : Methods × List Diagnostic).2 = _
  cases Block.ofLines before <;> rfl

/-- **The five cases**, for lines whose method directives read `.method` or `.end method`. -/
theorem blockVerdict_saysAfter {before : List Line} (k : Line)
    (hbefore : ∀ l ∈ before, l.isMethod = true → l.opensMethod = true ∨ l.endsMethod = true) :
    BlockVerdict before k (saysAfter before k) where
  nested hk j since hlast hj := by
    rw [saysAfter_of_opens before hk, Block.ofLines_eq_inside hlast hj]
  opening hk hno := by
    have hnot := Block.ofLines_ne_inside hno
    rw [saysAfter_of_opens before hk]
    cases hb : Block.ofLines before with
    | inside method => exact absurd hb (hnot method)
    | before => rfl
    | after ended => rfl
  early hk hno := by
    rw [saysAfter_of_ends before hk, Block.ofLines_eq_before hno]
    rfl
  repeated hk m later hm j since hlast hj := by
    obtain ⟨first, hfind, hafter⟩ := Block.ofLines_eq_after hlast (Line.not_opensMethod_of_endsMethod hj) hm
    refine ⟨first, ?_, by rw [saysAfter_of_ends before hk, hafter]; rfl⟩
    obtain ⟨earlier, hsplit, -, hlater⟩ := findLast?_eq_some_iff.1 hm
    have hsame : ∀ l ∈ later, l.endsMethod = l.isMethod := by
      intro l hl
      cases hml : l.isMethod with
      | false => rw [Line.endsMethod, hml, Bool.false_and]
      | true =>
        have hmem : l ∈ before := by rw [hsplit]; simp [hl]
        rcases hbefore l hmem hml with hopens | hends
        · rw [hlater l hl] at hopens
          cases hopens
        · exact hends
    rw [← hfind, ← List.head?_filter, ← List.head?_filter, List.filter_congr hsame]
  closing hk m since hlast hm := by
    rw [saysAfter_of_ends before hk, Block.ofLines_eq_inside hlast hm]
    have hguard : (m.hasBody && !(since.any Line.hasReturn || k.hasReturn)) = true ↔
        m.hasModifier "abstract" = false ∧ m.hasModifier "native" = false ∧
          ∀ l ∈ since ++ [k], l.hasReturn = false := by
      rw [List.forall_mem_append]
      simp [Line.hasBody, and_assoc]
    simp only [hguard]

end Methods

/-- **Method blocks, told without a state.** Whatever other checks run, a check of methods does what it does alone,
and it is shown the lines of the text. What it finds in a line that starts with a method directive, which reads
`.method` or `.end method`, is told by the lines before. -/
theorem method_block_structure (source : Text) :
    (∀ rules, ∀ e ∈ trace rules source, e.check.rule = .method → e ∈ trace [.method] source) ∧
      (trace [.method] source).filterMap Event.line? = logicalLines (tokenize source) ∧
      ∀ past e future k, trace [.method] source = past ++ e :: future → e.signal = .line k → k.isMethod = true →
        (k.opensMethod = true ∨ k.endsMethod = true) ∧ BlockVerdict (past.filterMap Event.line?) k e.found := by
  refine ⟨?_, filterMap_line?_trace .method source, ?_⟩
  · intro rules e he hrule
    exact hrule ▸ mem_trace_alone he
  · intro past e future k hsplit hsignal hk
    obtain ⟨⟨after, hlines⟩, hfound⟩ := trace_line hsplit hsignal
    have hmem : k ∈ logicalLines (tokenize source) := by rw [hlines]; simp
    refine ⟨opens_or_ends hmem hk, ?_⟩
    rw [hfound]
    refine Methods.blockVerdict_saysAfter k fun l hl => ?_
    have hl : l ∈ logicalLines (tokenize source) := by rw [hlines]; exact List.mem_append_left _ hl
    exact opens_or_ends hl

/-- A second `.end method` is told where the block has ended. -/
theorem method_block_structure_repeated :
    ∃ past e future, ∃ k first : Line,
      trace [.method] ".method\n.end method\n.end method".toList = past ++ e :: future ∧
        e.signal = .line k ∧ first.span.start.line = 1 ∧ k.span.start.line = 2 ∧
        e.found = [first.report .hint "Method block ends here.",
          k.report .error "'.end method' directive must be at the end of a method block."] := by
  let source := ".method\n.end method\n.end method".toList
  let events := trace [.method] source
  let k : Line := ⟨⟨.method, ".end method".toList, ⟨2, 0, 20⟩, ⟨2, 11, 31⟩⟩, []⟩
  let before := (events.take 7).filterMap Event.line?
  have hfacts : (events[7]?).map (·.signal) = some (.line k) ∧
      (findLast? Line.isMethod before).map (·.1.endsMethod) = some true ∧
      (findLast? Line.opensMethod before).map (fun r => (r.2.find? Line.endsMethod).map (·.span.start.line)) =
        some (some 1) := by decide +kernel
  obtain ⟨hsignal, hlast, hopens⟩ := hfacts
  obtain ⟨e, he, hsignal⟩ := Option.map_eq_some_iff.1 hsignal
  obtain ⟨⟨j, since⟩, hlast, hends⟩ := Option.map_eq_some_iff.1 hlast
  obtain ⟨⟨m, later⟩, hopens, hline⟩ := Option.map_eq_some_iff.1 hopens
  have hsplit : events = events.take 7 ++ e :: events.drop 8 := by
    obtain ⟨hlt, rfl⟩ := List.getElem?_eq_some_iff.1 he
    rw [← List.drop_eq_getElem_cons, List.take_append_drop]
  have hverdict := ((method_block_structure source).2.2 _ e _ k hsplit hsignal (by decide)).2
  obtain ⟨first, hfirst, hfound⟩ := hverdict.repeated (by decide) m later hopens j since hlast hends
  rw [hfirst] at hline
  exact ⟨_, e, _, k, first, hsplit, hsignal, Option.some.inj hline, rfl, hfound⟩

end SmaliLint
