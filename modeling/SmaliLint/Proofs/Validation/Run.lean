import SmaliLint.Validation

/-!
# Runs of checks

* `Rule.select_names`, `Rule.select_known`, `validate_of_select`, `validate_names` : validation under known rules always has a
  result, the findings of the run;
* `mem_run`, `mem_trace_alone` : checks that run side by side do what each does alone;
* `Check.after c ss`, `run_split` : a check that has been shown some signals, and the step it takes then;
* `Along P past events` : `P` holds of each event and of what went before it;
* `run_along` : how to show that, from an invariant that every step of a check keeps.
-/

namespace SmaliLint

/-! ## Known rules -/

theorem Rule.ofName?_name (r : Rule) : Rule.ofName? r.name = some r := by
  cases r <;> decide

theorem Rule.isNone_ofName? (name : String) : (ofName? name).isNone = decide (name ∉ all.map Rule.name) := by
  rw [Bool.eq_iff_iff, decide_eq_true_iff, Option.isNone_iff_eq_none, ofName?, List.find?_eq_none]
  simp

theorem Rule.select_names (rules : List Rule) : Rule.select (some (rules.map Rule.name)) = .ok rules := by
  have hnone : (rules.map Rule.name).filter (fun s => (Rule.ofName? s).isNone) = [] := by
    rw [List.filter_eq_nil_iff]
    intro s hs
    obtain ⟨r, -, rfl⟩ := List.mem_map.1 hs
    simp [ofName?_name]
  have hsome : (rules.map Rule.name).filterMap Rule.ofName? = rules := by
    rw [List.filterMap_map, show Rule.ofName? ∘ Rule.name = some from funext ofName?_name, List.filterMap_some]
  simp [select, hnone, hsome]

theorem Rule.select_known (rules : Option (List Rule)) :
    ∃ selected, Rule.select (rules.map (·.map Rule.name)) = .ok selected := by
  cases rules with
  | none => exact ⟨_, rfl⟩
  | some rules => exact ⟨rules, Rule.select_names rules⟩

theorem validate_of_select {names : Option (List String)} {rules : List Rule} (h : Rule.select names = .ok rules)
    (source : Text) : validate source names = .ok (findings (trace rules source)) := by
  unfold validate
  rw [h]
  rfl

theorem validate_names (source : Text) (rules : List Rule) :
    validate source (some (rules.map Rule.name)) = .ok (findings (trace rules source)) :=
  validate_of_select (Rule.select_names rules) source

theorem mem_findings {d : Diagnostic} {events : List Event} :
    d ∈ findings events ↔ ∃ e ∈ events, d ∈ e.found :=
  List.mem_flatMap

/-- What is looked for in the findings is looked for in the events that may have it. -/
theorem filter_findings {events : List Event} {p : Diagnostic → Bool} {q : Event → Bool}
    (h : ∀ e ∈ events, q e = false → ∀ x ∈ e.found, p x = false) :
    (findings events).filter p = ((events.filter q).map (·.found)).flatMap (·.filter p) := by
  induction events with
  | nil => rfl
  | cons e events ih =>
    obtain ⟨he, hevents⟩ := List.forall_mem_cons.1 h
    rw [findings, List.flatMap_cons, List.filter_append, ← findings, ih hevents]
    cases hq : q e with
    | true => rw [List.filter_cons_of_pos hq, List.map_cons, List.flatMap_cons]
    | false =>
      have hnone : e.found.filter p = [] := List.filter_eq_nil_iff.2 fun x hx => by simp [he hq x hx]
      rw [List.filter_cons_of_neg (by simp [hq]), hnone, List.nil_append]

/-! ## Checks alone -/

theorem Check.rule_event (c : Check) (s : Signal) : (c.event s).check.rule = c.rule := by
  cases c <;> cases s <;> rfl

/-- **Checks that run side by side do what each does alone.** -/
theorem mem_run {checks : List Check} {ss : List Signal} {e : Event} :
    e ∈ run checks ss ↔ ∃ c ∈ checks, e ∈ run [c] ss := by
  induction ss generalizing checks with
  | nil => simp [run]
  | cons s ss ih =>
    have hone : ∀ c : Check, e ∈ run [c] (s :: ss) ↔ e = c.event s ∨ e ∈ run [(c.event s).check] ss :=
      fun c => List.mem_cons
    rw [run, List.mem_append, ih]
    simp only [hone, List.mem_map]
    constructor
    · rintro (⟨c, hc, rfl⟩ | ⟨-, ⟨-, ⟨c, hc, rfl⟩, rfl⟩, he⟩)
      · exact ⟨c, hc, .inl rfl⟩
      · exact ⟨c, hc, .inr he⟩
    · rintro ⟨c, hc, rfl | he⟩
      · exact .inl ⟨c, hc, rfl⟩
      · exact .inr ⟨_, ⟨_, ⟨c, hc, rfl⟩, rfl⟩, he⟩

theorem rule_of_mem_run {c : Check} {ss : List Signal} {e : Event} (h : e ∈ run [c] ss) : e.check.rule = c.rule := by
  induction ss generalizing c with
  | nil => simp [run] at h
  | cons s ss ih =>
    rcases List.mem_cons.1 h with rfl | h
    · exact c.rule_event s
    · exact (ih h).trans (c.rule_event s)

theorem mem_trace_alone {rules : List Rule} {source : Text} {e : Event} (h : e ∈ trace rules source) :
    e ∈ trace [e.check.rule] source := by
  obtain ⟨c, hc, he⟩ := mem_run.1 h
  obtain ⟨r, -, rfl⟩ := List.mem_map.1 hc
  have hrule : e.check.rule = r := (rule_of_mem_run he).trans (by cases r <;> rfl)
  rw [hrule]
  exact he

theorem findings_run_eq_nil_iff {checks : List Check} {ss : List Signal} :
    findings (run checks ss) = [] ↔ ∀ c ∈ checks, findings (run [c] ss) = [] := by
  simp only [findings, List.flatMap_eq_nil_iff]
  constructor
  · intro h c hc e he
    exact h e (mem_run.2 ⟨c, hc, he⟩)
  · intro h e he
    obtain ⟨c, hc, he⟩ := mem_run.1 he
    exact h c hc e he

/-- The check once it has been shown the signals. -/
def Check.after (c : Check) (ss : List Signal) : Check := ss.foldl (fun c s => (c.step s).1) c

theorem Check.after_append (c : Check) (ss ts : List Signal) : c.after (ss ++ ts) = (c.after ss).after ts :=
  List.foldl_append

theorem signals_run (c : Check) (ss : List Signal) : (run [c] ss).map (·.signal) = ss := by
  induction ss generalizing c with
  | nil => rfl
  | cons s ss ih =>
    show s :: (run [(c.step s).1] ss).map (·.signal) = s :: ss
    rw [ih]

/-- An event is the step that the check takes after the signals before. -/
theorem run_split {c : Check} {ss : List Signal} {past future : List Event} {e : Event}
    (h : run [c] ss = past ++ e :: future) :
    ss = past.map (·.signal) ++ e.signal :: future.map (·.signal) ∧
      e = (c.after (past.map (·.signal))).event e.signal := by
  refine ⟨?_, ?_⟩
  · rw [← signals_run c ss, h, List.map_append, List.map_cons]
  · induction past generalizing c ss with
    | nil =>
      cases ss with
      | nil => cases h
      | cons s ss =>
        obtain ⟨rfl, -⟩ := List.cons.inj h
        rfl
    | cons p past ih =>
      cases ss with
      | nil => cases h
      | cons s ss =>
        obtain ⟨rfl, hrest⟩ := List.cons.inj h
        exact ih hrest

/-! ## Invariants of runs -/

/-- The property holds of each of the events, given the events before it. -/
def Along (P : List Event → Event → Prop) (past : List Event) : List Event → Prop
  | [] => True
  | e :: events => P past e ∧ Along P (past ++ [e]) events

theorem along_append {P : List Event → Event → Prop} {past first second : List Event} :
    Along P past (first ++ second) ↔ Along P past first ∧ Along P (past ++ first) second := by
  induction first generalizing past with
  | nil => simp [Along]
  | cons e first ih => simp [Along, ih, and_assoc]

theorem Along.of_split {P : List Event → Event → Prop} {events past future : List Event} {e : Event}
    (h : Along P [] events) (hsplit : events = past ++ e :: future) : P past e := by
  rw [hsplit, along_append] at h
  exact h.2.1

theorem Along.of_mem {P : List Event → Event → Prop} {events : List Event} {e : Event} (h : Along P [] events)
    (he : e ∈ events) : ∃ past future, events = past ++ e :: future ∧ P past e := by
  obtain ⟨past, future, hsplit⟩ := List.append_of_mem he
  exact ⟨past, future, hsplit, h.of_split hsplit⟩

/-- One signal, shown to every check. -/
theorem events_along {Inv : List Event → Check → Prop} {P : List Event → Event → Prop}
    (mono : ∀ past more c, Inv past c → Inv (past ++ more) c) (s : Signal)
    (step : ∀ past c, Inv past c → P past (c.event s) ∧ Inv (past ++ [c.event s]) (c.event s).check)
    (checks : List Check) (past : List Event) (h : ∀ c ∈ checks, Inv past c) :
    Along P past (checks.map (Check.event s)) ∧
      ∀ e ∈ checks.map (Check.event s), Inv (past ++ checks.map (Check.event s)) e.check := by
  induction checks generalizing past with
  | nil => exact ⟨trivial, by simp⟩
  | cons c checks ih =>
    obtain ⟨hc, hrest⟩ := List.forall_mem_cons.1 h
    obtain ⟨hP, hInv⟩ := step past c hc
    obtain ⟨halong, hall⟩ := ih (past ++ [c.event s]) fun d hd => mono _ _ _ (hrest d hd)
    rw [List.append_assoc, List.singleton_append] at hall
    refine ⟨⟨hP, halong⟩, List.forall_mem_cons.2 ⟨?_, hall⟩⟩
    have hmore := mono _ (checks.map (Check.event s)) _ hInv
    rwa [List.append_assoc, List.singleton_append] at hmore

/-- **What every step keeps holds along the run.** The invariant ties a check to the events so far; it may
not be lost when further events happen. -/
theorem run_along {Inv : List Event → Check → Prop} {P : List Event → Event → Prop}
    (mono : ∀ past more c, Inv past c → Inv (past ++ more) c)
    (step : ∀ past c s, Inv past c → P past (c.event s) ∧ Inv (past ++ [c.event s]) (c.event s).check)
    (signals : List Signal) (checks : List Check) (past : List Event) (h : ∀ c ∈ checks, Inv past c) :
    Along P past (run checks signals) := by
  induction signals generalizing checks past with
  | nil => trivial
  | cons s signals ih =>
    obtain ⟨halong, hall⟩ := events_along mono s (fun past c => step past c s) checks past h
    rw [run, along_append]
    refine ⟨halong, ih _ _ fun c hc => ?_⟩
    obtain ⟨e, he, rfl⟩ := List.mem_map.1 hc
    exact hall e he

end SmaliLint
