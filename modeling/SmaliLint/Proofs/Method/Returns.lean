import SmaliLint.Proofs.Method.Blocks
import SmaliLint.Proofs.Method.Reading

/-!
# Returns against declared types

A return is shown before the line that it stands on. So it is judged by the last method directive on the lines before,
and not by one at the beginning of its own line.

* `Methods.seeToken_afterLines` : what a return is told after some lines;
* `trace_return`, `exists_return` : the events of returns are those of the returns on the lines of the text, each after the
  lines before its own;
* `ReturnVerdict`, `return_consistency` : the cases, by the last method directive and the type that it declares.
-/

namespace SmaliLint

/-! ## What a return is told -/

/-- Returns before it on the same line make no difference to a return. -/
theorem Methods.seeToken_afterLines (before : List Line) {heard : List Token} (hheard : ∀ t ∈ heard, t.kind = .ret)
    {t : Token} (ht : t.kind = .ret) :
    (((afterLines before).hear heard).seeToken t).2 =
      match Block.ofLines before with
      | .inside method => checkReturn method.returnType t
      | _ => [] := by
  rw [afterLines_eq_ofLines, hear_eq _ hheard]
  unfold seeToken ofLines
  cases Block.ofLines before with
  | before => rfl
  | after ended => rfl
  | inside method => simp [Block.heard, ht]

/-- **A return is judged after the lines before its own.** -/
theorem trace_return {source : Text} {past future : List Event} {e : Event} {t : Token}
    (h : trace [.method] source = past ++ e :: future) (he : e.signal = .token t) (ht : t.kind = .ret) :
    ∃ j after, logicalLines (tokenize source) = past.filterMap Event.line? ++ j :: after ∧ t ∈ j.toList ∧
      e.found = match Block.ofLines (past.filterMap Event.line?) with
        | .inside method => checkReturn method.returnType t
        | _ => [] := by
  obtain ⟨hsignals, hevent⟩ := run_split h
  rw [he] at hsignals hevent
  have haudible := congrArg (List.filter Signal.audible) hsignals
  rw [audible_signals, List.filter_append, List.filter_cons_of_pos (by simpa [Signal.audible] using ht)] at haudible
  obtain ⟨before, j, after, heard, unheard, hlines, hreturns, hpast⟩ := schedule_split_token haudible
  obtain ⟨hbefore, hstate⟩ := state_of_audible hpast
  have hmem : ∀ u ∈ heard ++ t :: unheard, u ∈ j.toList ∧ u.kind = .ret := by
    intro u hu
    rw [← hreturns] at hu
    simpa using hu
  have hheard : ∀ u ∈ heard, u.kind = .ret := fun u hu => (hmem u (List.mem_append_left _ hu)).2
  refine ⟨j, after, hbefore.symm ▸ hlines, (hmem t (by simp)).1, ?_⟩
  rw [hbefore, ← Methods.seeToken_afterLines before hheard ht, hevent]
  show (((Check.method .empty).after (past.map (·.signal))).step (.token t)).2 = _
  rw [hstate]
  rfl

/-- Every return on a line is shown. -/
theorem exists_return {source : Text} {before after : List Line} {j : Line} {t : Token}
    (hlines : logicalLines (tokenize source) = before ++ j :: after) (hj : t ∈ j.toList) (ht : t.kind = .ret) :
    ∃ past e future, trace [.method] source = past ++ e :: future ∧ e.signal = .token t ∧
      past.filterMap Event.line? = before := by
  have hmem : t ∈ j.toList.filter (·.kind = .ret) := List.mem_filter.2 ⟨hj, by simpa using ht⟩
  obtain ⟨heard, unheard, hreturns⟩ := List.append_of_mem hmem
  have haudible : (signals (tokenize source)).filter Signal.audible =
      (before.flatMap Line.schedule ++ heard.map .token) ++ .token t ::
        (unheard.map .token ++ .line j :: (after.flatMap Line.schedule ++ [.finish])) := by
    rw [audible_signals, hlines, List.flatMap_append, List.flatMap_cons, Line.schedule, hreturns]
    simp
  obtain ⟨first, second, hsignals, hfirst, hsecond⟩ := List.filter_eq_append_iff.1 haudible
  obtain ⟨quiet, later, rfl, hquiet, -, -⟩ := List.filter_eq_cons_iff.1 hsecond
  rw [← signals_run (.method .empty) (signals (tokenize source)), ← List.append_assoc] at hsignals
  obtain ⟨past, rest, hsplit, hpast, hrest⟩ := List.map_eq_append_iff.1 hsignals
  obtain ⟨e, future, rfl, he, -⟩ := List.map_eq_cons_iff.1 hrest
  have hheard : (past.map (·.signal)).filter Signal.audible = before.flatMap Line.schedule ++ heard.map .token := by
    rw [hpast, List.filter_append, hfirst, List.filter_eq_nil_iff.2 hquiet, List.append_nil]
  exact ⟨past, e, future, hsplit, he, (state_of_audible hheard).1⟩

/-! ## The cases -/

/-- What is found in a return that stands on a line after the lines `before`. -/
structure ReturnVerdict (before : List Line) (t : Token) (found : List Diagnostic) : Prop where
  /-- Before any method directive, or after `.end method`. -/
  outside : (∀ m since, findLast? Line.isMethod before = some (m, since) → m.endsMethod = true) → found = []
  /-- After a `.method` line without a return type. -/
  untyped : ∀ m since, findLast? Line.isMethod before = some (m, since) → m.opensMethod = true →
    m.declaredType? = none →
      found = [t.report .information "Unable to get return type from method declaration."]
  /-- In a method that returns a builtin value other than nothing, any return will do. -/
  builtin : ∀ m since, findLast? Line.isMethod before = some (m, since) → m.opensMethod = true →
    ∀ type, m.declaredType? = some ([], type) → type.kind ≠ .classType → type.reads "V" = false → found = []
  /-- In a method that returns nothing. -/
  void : ∀ m since, findLast? Line.isMethod before = some (m, since) → m.opensMethod = true →
    ∀ type, m.declaredType? = some ([], type) → type.kind ≠ .classType → type.reads "V" = true →
      found = if t.reads "return-void" then [] else
        [type.report .hint "Return type declared here.", t.report .error "'return-void' expected."]
  /-- In a method that returns an array or an object. -/
  reference : ∀ m since, findLast? Line.isMethod before = some (m, since) → m.opensMethod = true →
    ∀ brackets type, m.declaredType? = some (brackets, type) → brackets ≠ [] ∨ type.kind = .classType →
      found = if t.reads "return-object" then [] else
        [⟨⟨(brackets.headD type).span.start, type.span.stop⟩, .hint, "Return type declared here."⟩,
          t.report .error "'return-object' expected."]

/-- A return against a type that can be told from the declaration. -/
theorem checkReturn_ofTokens (brackets : List Token) (type t : Token) :
    checkReturn (.ofTokens brackets type) t =
      match (ReturnKind.ofTokens brackets type).instruction? with
      | none => []
      | some expected => if t.reads expected then [] else
          [⟨⟨(brackets.headD type).span.start, type.span.stop⟩, .hint, "Return type declared here."⟩,
            t.report .error s!"'{expected}' expected."] := by
  obtain ⟨written, hwritten, htokens⟩ := ReturnType.ofTokens_eq brackets type
  rw [hwritten, ← Line.span_of_toList htokens]
  rfl

/-- The cases, by the block that the lines before leave open. -/
theorem returnVerdict_checkReturn (before : List Line) (t : Token) :
    ReturnVerdict before t (match Block.ofLines before with
      | .inside method => checkReturn method.returnType t
      | _ => []) := by
  have hinside : ∀ m since, findLast? Line.isMethod before = some (m, since) → m.opensMethod = true →
      (match Block.ofLines before with
        | .inside method => checkReturn method.returnType t
        | _ => []) = checkReturn (.ofTokens? m.declaredType?) t := by
    intro m since hlast hm
    rw [Block.ofLines_eq_inside hlast hm, ← Declaration.returnType_ofLine]
  constructor
  case outside =>
    intro hends
    have hnot : ∀ method, Block.ofLines before ≠ .inside method :=
      Block.ofLines_ne_inside fun m since hlast => Line.not_opensMethod_of_endsMethod (hends m since hlast)
    split
    next method hinside => exact absurd hinside (hnot method)
    next => rfl
  case untyped =>
    intro m since hlast hm htype
    rw [hinside m since hlast hm, htype]
    rfl
  case builtin =>
    intro m since hlast hm type htype hkind hvoid
    rw [hinside m since hlast hm, htype]
    show checkReturn (.ofTokens [] type) t = []
    rw [checkReturn_ofTokens]
    simp [ReturnKind.ofTokens, hkind, hvoid, ReturnKind.instruction?]
  case void =>
    intro m since hlast hm type htype hkind hvoid
    rw [hinside m since hlast hm, htype]
    show checkReturn (.ofTokens [] type) t = _
    rw [checkReturn_ofTokens]
    simp [ReturnKind.ofTokens, hkind, hvoid, ReturnKind.instruction?]
    rfl
  case reference =>
    intro m since hlast hm brackets type htype hreference
    rw [hinside m since hlast hm, htype]
    show checkReturn (.ofTokens brackets type) t = _
    rw [checkReturn_ofTokens]
    simp only [ReturnKind.ofTokens, if_pos hreference, ReturnKind.instruction?]
    rfl

/-- **Returns against declared types, told without a state.** Whatever other checks run, a check of methods does what it
does alone. It is shown every return on every line after the lines before that line, and what it finds in a return is told
by these lines: not by a method directive at the beginning of the return's own line. -/
theorem return_consistency (source : Text) :
    (∀ rules, ∀ e ∈ trace rules source, e.check.rule = .method → e ∈ trace [.method] source) ∧
      (∀ l ∈ logicalLines (tokenize source), l.isMethod = true → l.opensMethod = true ∨ l.endsMethod = true) ∧
      (∀ before j after t, logicalLines (tokenize source) = before ++ j :: after → t ∈ j.toList → t.kind = .ret →
        ∃ past e future, trace [.method] source = past ++ e :: future ∧ e.signal = .token t ∧
          past.filterMap Event.line? = before ∧ ReturnVerdict before t e.found) ∧
      ∀ past e future t, trace [.method] source = past ++ e :: future → e.signal = .token t → t.kind = .ret →
        ∃ j after, logicalLines (tokenize source) = past.filterMap Event.line? ++ j :: after ∧ t ∈ j.toList ∧
          ReturnVerdict (past.filterMap Event.line?) t e.found := by
  have hverdict : ∀ past e future t, trace [.method] source = past ++ e :: future → e.signal = .token t →
      t.kind = .ret → ∃ j after, logicalLines (tokenize source) = past.filterMap Event.line? ++ j :: after ∧
        t ∈ j.toList ∧ ReturnVerdict (past.filterMap Event.line?) t e.found := by
    intro past e future t hsplit hsignal ht
    obtain ⟨j, after, hlines, hj, hfound⟩ := trace_return hsplit hsignal ht
    exact ⟨j, after, hlines, hj, hfound ▸ returnVerdict_checkReturn _ t⟩
  refine ⟨?_, ?_, ?_, hverdict⟩
  · intro rules e he hrule
    exact hrule ▸ mem_trace_alone he
  · intro l hl
    exact opens_or_ends hl
  · intro before j after t hlines hj ht
    obtain ⟨past, e, future, hsplit, hsignal, hbefore⟩ := exists_return hlines hj ht
    obtain ⟨-, -, -, -, hfound⟩ := hverdict past e future t hsplit hsignal ht
    exact ⟨past, e, future, hsplit, hsignal, hbefore, hbefore ▸ hfound⟩

/-- A return on the line of `.end method` still stands in the block that the line ends. -/
theorem return_consistency_same_line :
    ∃ past e future, ∃ t : Token,
      trace [.method] ".method a()[I\n.end method return-void".toList = past ++ e :: future ∧ e.signal = .token t ∧
        t.span = ⟨⟨1, 12, 26⟩, ⟨1, 23, 37⟩⟩ ∧
        e.found = [⟨⟨⟨0, 11, 11⟩, ⟨0, 13, 13⟩⟩, .hint, "Return type declared here."⟩,
          t.report .error "'return-object' expected."] := by
  let source := ".method a()[I\n.end method return-void".toList
  let m : Line := ⟨⟨.method, ".method".toList, ⟨0, 0, 0⟩, ⟨0, 7, 7⟩⟩,
    [⟨.space, " ".toList, ⟨0, 7, 7⟩, ⟨0, 8, 8⟩⟩, ⟨.methodName, "a(".toList, ⟨0, 8, 8⟩, ⟨0, 10, 10⟩⟩,
      ⟨.paren, ")".toList, ⟨0, 10, 10⟩, ⟨0, 11, 11⟩⟩, ⟨.arrayOp, "[".toList, ⟨0, 11, 11⟩, ⟨0, 12, 12⟩⟩,
      ⟨.builtinType, "I".toList, ⟨0, 12, 12⟩, ⟨0, 13, 13⟩⟩]⟩
  let t : Token := ⟨.ret, "return-void".toList, ⟨1, 12, 26⟩, ⟨1, 23, 37⟩⟩
  let j : Line := ⟨⟨.method, ".end method".toList, ⟨1, 0, 14⟩, ⟨1, 11, 25⟩⟩,
    [⟨.space, " ".toList, ⟨1, 11, 25⟩, ⟨1, 12, 26⟩⟩, t]⟩
  have hlines : logicalLines (tokenize source) = [m] ++ j :: [] := by decide +kernel
  obtain ⟨past, e, future, hsplit, hsignal, -, hverdict⟩ :=
    (return_consistency source).2.2.1 [m] j [] t hlines (by decide) rfl
  have hfound := hverdict.reference m [] (by decide) (by decide) [⟨.arrayOp, "[".toList, ⟨0, 11, 11⟩, ⟨0, 12, 12⟩⟩]
    ⟨.builtinType, "I".toList, ⟨0, 12, 12⟩, ⟨0, 13, 13⟩⟩ (by decide) (.inl (by decide))
  rw [if_neg (by decide)] at hfound
  exact ⟨past, e, future, t, hsplit, hsignal, rfl, hfound⟩

end SmaliLint
