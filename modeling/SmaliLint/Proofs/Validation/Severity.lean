import SmaliLint.Proofs.Validation.Grouped
import SmaliLint.Proofs.Validation.Run

/-!
# Severities: nothing is found without an error

* `Line.Blamed ds` : an error on the line or on a token of it; `Declaration.blamed_of_ofLine` : a declaration
  read without a return type has one;
* `Check.Tracked past` : the invariant of a run, which ties the block a check is in to the line that has
  opened it and to what was said to that line; `Check.Tracked.event` : every step keeps it;
* `trace_accountable` : hints come with errors, and a return that cannot be judged after one;
* `validate_severities` : what follows for all that is found in a text.
-/

namespace SmaliLint

/-! ## Declarations without a return type -/

/-- One of the diagnostics is an error on the line or on a token of it. -/
def Line.Blamed (line : Line) (ds : List Diagnostic) : Prop :=
  ∃ d ∈ ds, d.severity = .error ∧ (d.span = line.span ∨ ∃ t ∈ line.toList, d.span = t.span)

namespace Line

theorem last_mem (l : Line) : l.last ∈ l.toList := by
  unfold last toList
  cases h : l.tail.getLast? with
  | none => simp [List.getLastD_eq_getLast?, h]
  | some t =>
    simp only [List.getLastD_eq_getLast?, h, Option.getD_some]
    exact List.mem_cons_of_mem _ (List.mem_of_getLast? h)

theorem blamed_report (l : Line) (message : String) : l.Blamed [l.report .error message] :=
  ⟨_, List.mem_singleton_self _, rfl, .inl rfl⟩

theorem blamed_token {l : Line} {t : Token} (ht : t ∈ l.toList) (message : String) :
    l.Blamed [t.report .error message] :=
  ⟨_, List.mem_singleton_self _, rfl, .inr ⟨t, ht, rfl⟩⟩

theorem Blamed.append_left {l : Line} {ds : List Diagnostic} (h : l.Blamed ds) (es : List Diagnostic) :
    l.Blamed (ds ++ es) := by
  obtain ⟨d, hd, hon⟩ := h
  exact ⟨d, List.mem_append_left _ hd, hon⟩

theorem Blamed.append_right {l : Line} {es : List Diagnostic} (h : l.Blamed es) (ds : List Diagnostic) :
    l.Blamed (ds ++ es) := by
  obtain ⟨d, hd, hon⟩ := h
  exact ⟨d, List.mem_append_right _ hd, hon⟩

end Line

theorem ReturnType.ofTokens_ne_unknown (brackets : List Token) (type : Token) :
    ofTokens brackets type ≠ .unknown := by
  unfold ofTokens
  split
  · simp
  · split
    · simp
    · split <;> simp

namespace Declaration

theorem blamed_of_readReturnType (line : Line) (last : Token) (modifiers brackets : List Token)
    (flagged : Bool) (ts : List Token) (hlast : last ∈ line.toList) (hts : ∀ t ∈ ts, t ∈ line.toList)
    (h : (readReturnType last modifiers brackets flagged ts).returnType = .unknown) :
    flagged = true ∨ line.Blamed (readReturnType last modifiers brackets flagged ts).found := by
  fun_induction readReturnType last modifiers brackets flagged ts with
  | case1 brackets flagged =>
    cases flagged
    · exact .inr (Line.blamed_token hlast _)
    · exact .inl rfl
  | case2 brackets flagged t ts harray ih => exact ih (List.forall_mem_cons.1 hts).2 h
  | case3 => exact absurd h (ReturnType.ofTokens_ne_unknown _ _)
  | case4 brackets flagged t ts =>
    exact .inr ((Line.blamed_token (List.forall_mem_cons.1 hts).1 _).append_left _)

theorem blamed_of_readParameters (line : Line) (last : Token) (modifiers : List Token) (flagged : Bool)
    (ts : List Token) (hlast : last ∈ line.toList) (hts : ∀ t ∈ ts, t ∈ line.toList)
    (h : (readParameters last modifiers flagged ts).returnType = .unknown) :
    flagged = true ∨ line.Blamed (readParameters last modifiers flagged ts).found := by
  fun_induction readParameters last modifiers flagged ts with
  | case1 flagged =>
    cases flagged
    · exact .inr (Line.blamed_token hlast _)
    · exact .inl rfl
  | case2 flagged t ts =>
    have hblamed := blamed_of_readReturnType line last modifiers [] false ts hlast
      (List.forall_mem_cons.1 hts).2 h
    exact .inr (hblamed.resolve_left Bool.false_ne_true)
  | case3 flagged t ts _ _ ih => exact ih (List.forall_mem_cons.1 hts).2 h
  | case4 flagged t ts =>
    exact .inr ((Line.blamed_token (List.forall_mem_cons.1 hts).1 _).append_left _)

/-- A reading that ends without a return type has put an error on the line. -/
theorem blamed_of_readModifiers (line : Line) (visibility : Option Token) (modifiers : List Token)
    (afterSpace : Bool) (ts : List Token) (hts : ∀ t ∈ ts, t ∈ line.toList)
    (h : (readModifiers line visibility modifiers afterSpace ts).returnType = .unknown) :
    line.Blamed (readModifiers line visibility modifiers afterSpace ts).found := by
  fun_induction readModifiers line visibility modifiers afterSpace ts with
  | case1 => exact line.blamed_report _
  | case7 visibility modifiers afterSpace t ts =>
    have hblamed := blamed_of_readParameters line line.last modifiers false ts line.last_mem
      (List.forall_mem_cons.1 hts).2 h
    exact (hblamed.resolve_left Bool.false_ne_true).append_right _
  | case2 | case3 | case4 | case5 | case6 | case8 =>
    rename_i ih
    exact (ih (List.forall_mem_cons.1 hts).2 h).append_right _

theorem blamed_of_ofLine (line : Line) (h : (ofLine line).returnType = .unknown) :
    line.Blamed (ofLine line).found :=
  blamed_of_readModifiers line _ _ _ _ (fun _ ht => List.mem_cons_of_mem _ ht) h

end Declaration

/-! ## Open blocks -/

namespace Methods

theorem inside_of_openBlock {m : Methods} {line : Line} {method : Method}
    (h : (m.openBlock line).1.block = .inside method) :
    method.line = line ∧ (method.returnType = .unknown → line.Blamed (m.openBlock line).2) := by
  obtain rfl := Block.inside.inj h
  refine ⟨rfl, fun hunknown => ?_⟩
  unfold openBlock
  dsimp only
  split
  · exact (line.blamed_report _).append_right [_]
  · exact (Declaration.blamed_of_ofLine line hunknown).append_left _

theorem closeBlock_block_ne (m : Methods) (line : Line) (method : Method) :
    (m.closeBlock line).1.block ≠ .inside method := by
  unfold closeBlock
  split <;> simp_all

/-- A block that is open after a line was open before, or the line has opened it. -/
theorem inside_of_seeLine {m : Methods} {line : Line} {method : Method}
    (h : (m.seeLine line).1.block = .inside method) :
    m.block = .inside method ∨
      (line.head.kind = .method ∧ line.head.reads ".method" ∧ method.line = line ∧
        (method.returnType = .unknown → line.Blamed (m.seeLine line).2)) := by
  unfold seeLine at h ⊢
  split at h
  case isTrue => exact .inl h
  case isFalse hkind =>
    split at h
    case isTrue hreads =>
      rw [if_neg hkind, if_pos hreads]
      exact .inr ⟨Decidable.not_not.1 hkind, hreads, inside_of_openBlock h⟩
    case isFalse => exact absurd h (closeBlock_block_ne m line method)

theorem inside_of_seeToken {m : Methods} {t : Token} {method : Method}
    (h : (m.seeToken t).1.block = .inside method) :
    ∃ before, m.block = .inside before ∧ before.line = method.line ∧
      before.returnType = method.returnType := by
  unfold seeToken at h
  split at h
  case h_1 before hblock =>
    split at h
    case isTrue =>
      obtain rfl := Block.inside.inj h
      exact ⟨before, hblock, rfl, rfl⟩
    case isFalse => exact ⟨method, h, rfl, rfl⟩
  case h_2 => exact ⟨method, h, rfl, rfl⟩

end Methods

/-- A check of methods has been shown the line, and has put an error on it. -/
def Announced (past : List Event) (line : Line) : Prop :=
  ∃ e ∈ past, e.signal = .line line ∧ e.check.rule = .method ∧ line.Blamed e.found

theorem Announced.append {past : List Event} {line : Line} (h : Announced past line) (more : List Event) :
    Announced (past ++ more) line := by
  obtain ⟨e, he, hrest⟩ := h
  exact ⟨e, List.mem_append_left _ he, hrest⟩

/-- The events so far account for an open block: a `.method` line has opened it, and if that names no
return type, an error has said so. -/
structure Opened (past : List Event) (method : Method) : Prop where
  kind : method.line.head.kind = .method
  reads : method.line.head.reads ".method" = true
  announced : method.returnType = .unknown → Announced past method.line

theorem Opened.append {past : List Event} {method : Method} (h : Opened past method) (more : List Event) :
    Opened (past ++ more) method :=
  ⟨h.kind, h.reads, fun hunknown => (h.announced hunknown).append more⟩

/-- The invariant of a run: the block that a check is in, if any, is accounted for. -/
def Check.Tracked (past : List Event) (c : Check) : Prop :=
  ∀ m method, c = .method m → m.block = .inside method → Opened past method

namespace Check

theorem tracked_ofRule (past : List Event) (r : Rule) : (ofRule r).Tracked past := by
  intro m method hc hblock
  cases r with
  | header => cases hc
  | method =>
    obtain rfl := Check.method.inj hc
    cases hblock

theorem Tracked.append {past : List Event} {c : Check} (h : c.Tracked past) (more : List Event) :
    c.Tracked (past ++ more) :=
  fun m method hc hblock => (h m method hc hblock).append more

theorem Tracked.event {past : List Event} {c : Check} (h : c.Tracked past) (s : Signal) :
    (c.event s).check.Tracked (past ++ [c.event s]) := by
  intro m' method hc hblock
  cases c with
  | header => cases s <;> cases hc
  | method m =>
    cases s with
    | finish =>
      obtain rfl := Check.method.inj hc
      exact (h m method rfl hblock).append _
    | token t =>
      obtain rfl := Check.method.inj hc
      obtain ⟨before, hbefore, hline, htype⟩ := Methods.inside_of_seeToken hblock
      have hopened := (h m before rfl hbefore).append [(Check.method m).event (.token t)]
      exact ⟨hline ▸ hopened.kind, hline ▸ hopened.reads,
        fun hunknown => hline ▸ hopened.announced (htype.trans hunknown)⟩
    | line l =>
      obtain rfl := Check.method.inj hc
      obtain hbefore | ⟨hkind, hreads, rfl, hblamed⟩ := Methods.inside_of_seeLine hblock
      · exact (h m method rfl hbefore).append _
      · refine ⟨hkind, hreads, fun hunknown => ?_⟩
        exact ⟨_, List.mem_append_right _ (List.mem_singleton_self _), rfl, rfl, hblamed hunknown⟩

end Check

/-! ## The findings of a text -/

/-- What an event has found is grouped, or it is about a return whose block was opened by a line with an
error. -/
def Accountable (past : List Event) (e : Event) : Prop :=
  Grouped e.found ∨ ∃ t method, UntypedReturn e t method ∧ Opened past method

theorem Check.Tracked.accountable {past : List Event} {c : Check} (h : c.Tracked past) (s : Signal) :
    Accountable past (c.event s) := by
  refine (c.event_found s).imp_right ?_
  rintro ⟨t, method, hreturn⟩
  obtain ⟨m, hcheck, hblock⟩ := hreturn.inside
  have hopened := h.event s m method hcheck hblock
  refine ⟨t, method, hreturn, hopened.kind, hopened.reads, fun hunknown => ?_⟩
  obtain ⟨e, he, hsignal, hrest⟩ := hopened.announced hunknown
  rcases List.mem_append.1 he with hpast | hlast
  · exact ⟨e, hpast, hsignal, hrest⟩
  · rw [List.mem_singleton.1 hlast, hreturn.signal] at hsignal
    cases hsignal

/-- **Every event is accountable**, whatever came before it. -/
theorem trace_accountable (rules : List Rule) (source : Text) :
    Along Accountable [] (trace rules source) := by
  have mono (past more : List Event) (c : Check) (h : c.Tracked past) : c.Tracked (past ++ more) :=
    h.append more
  refine run_along mono (fun _ _ s h => ⟨h.accountable s, h.event s⟩) _ _ _ ?_
  intro c hc
  obtain ⟨r, -, rfl⟩ := List.mem_map.1 hc
  exact Check.tracked_ofRule [] r

namespace Accountable

theorem severity_ne_warning {past : List Event} {e : Event} (h : Accountable past e) :
    ∀ d ∈ e.found, d.severity ≠ .warning := by
  intro d hd
  obtain hgrouped | ⟨t, method, hreturn, -⟩ := h
  · rcases hgrouped.severity d hd with hd | hd <;> simp [hd]
  · rw [hreturn.found, List.mem_singleton] at hd
    simp [hd, Token.report]

theorem grouped_of_hint {past : List Event} {e : Event} {d : Diagnostic} (h : Accountable past e)
    (hd : d ∈ e.found) (hhint : d.severity = .hint) : Grouped e.found := by
  obtain hgrouped | ⟨t, method, hreturn, -⟩ := h
  · exact hgrouped
  · rw [hreturn.found, List.mem_singleton] at hd
    rw [hd] at hhint
    cases hhint

theorem opened_of_information {past : List Event} {e : Event} {d : Diagnostic} (h : Accountable past e)
    (hd : d ∈ e.found) (hinformation : d.severity = .information) :
    ∃ t method, UntypedReturn e t method ∧ Opened past method := by
  obtain hgrouped | hopened := h
  · rcases hgrouped.severity d hd with hd | hd <;> rw [hinformation] at hd <;> cases hd
  · exact hopened

/-- Where anything is found, there is an error, there or before. -/
theorem exists_error {past : List Event} {e : Event} (h : Accountable past e) (hne : e.found ≠ []) :
    ∃ e' ∈ past ++ [e], ∃ d ∈ e'.found, d.severity = .error := by
  obtain hgrouped | ⟨t, method, hreturn, hopened⟩ := h
  · exact ⟨e, by simp, hgrouped.exists_error hne⟩
  · obtain ⟨e', he', -, -, d, hd, herror, -⟩ := hopened.announced hreturn.unknown
    exact ⟨e', by simp [he'], d, hd, herror⟩

end Accountable

theorem findings_exists_error {rules : List Rule} {source : Text} (hne : findings (trace rules source) ≠ []) :
    ∃ d ∈ findings (trace rules source), d.severity = .error := by
  obtain ⟨d, hd⟩ := List.exists_mem_of_ne_nil _ hne
  obtain ⟨e, he, hfound⟩ := mem_findings.1 hd
  obtain ⟨past, future, hsplit, hacc⟩ := (trace_accountable rules source).of_mem he
  obtain ⟨e', he', d', hd', herror⟩ := hacc.exists_error (List.ne_nil_of_mem hfound)
  refine ⟨d', mem_findings.2 ⟨e', ?_, hd'⟩, herror⟩
  rw [hsplit, ← List.singleton_append, ← List.append_assoc]
  exact List.mem_append_left _ he'

/-- **Nothing is found without an error.** What a validation finds is empty or has an error in it, and no warning. An
error follows every hint, with at most one other hint between. Information is given on returns only, in a block on whose
`.method` line an error was put before. -/
theorem validate_severities (source : Text) (rules : List Rule) :
    validate source (some (rules.map Rule.name)) = .ok (findings (trace rules source)) ∧
      (findings (trace rules source) = [] ∨ ∃ d ∈ findings (trace rules source), d.severity = .error) ∧
      (∀ d ∈ findings (trace rules source), d.severity ≠ .warning) ∧
      (∀ e ∈ trace rules source, ∀ before hint after,
        e.found = before ++ hint :: after → hint.severity = .hint →
          ∃ error rest, error.severity = .error ∧
            (after = error :: rest ∨ ∃ other, other.severity = .hint ∧ after = other :: error :: rest)) ∧
      ∀ past e future, trace rules source = past ++ e :: future →
        ∀ d ∈ e.found, d.severity = .information →
          ∃ t method, UntypedReturn e t method ∧ Opened past method ∧ Announced past method.line := by
  have hall := trace_accountable rules source
  refine ⟨validate_names source rules, ?_, ?_, ?_, ?_⟩
  · exact Classical.or_iff_not_imp_left.2 findings_exists_error
  · intro d hd
    obtain ⟨e, he, hfound⟩ := mem_findings.1 hd
    obtain ⟨past, -, -, hacc⟩ := hall.of_mem he
    exact hacc.severity_ne_warning d hfound
  · intro e he before hint after hfound hhint
    obtain ⟨past, -, -, hacc⟩ := hall.of_mem he
    have hgrouped := hacc.grouped_of_hint (by simp [hfound]) hhint
    exact hgrouped.error_after_hint hfound hhint
  · intro past e future hsplit d hd hinformation
    obtain ⟨t, method, hreturn, hopened⟩ := (hall.of_split hsplit).opened_of_information hd hinformation
    exact ⟨t, method, hreturn, hopened, hopened.announced hreturn.unknown⟩

end SmaliLint
