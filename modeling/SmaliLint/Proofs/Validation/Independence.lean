import Mathlib.Data.List.Forall2
import SmaliLint.Proofs.Validation.LineByLine
import SmaliLint.Proofs.Validation.Run

/-!
# Checks do not disturb each other

Checks that run side by side are shown every signal in turn, so the steps of one check stand as far from each other
in the record as there are checks. Each of them is the step that the check takes when it runs alone.

* `run_at` : the steps of one check within a run; `length_run` : there are no others;
* `Interleaving parts whole` : the lists `parts` merged into one, each in its own order;
* `interleaving_findings` : what checks find together is what each finds alone, merged;
* `checks_independent` : both, and what it means for the diagnostics of a text.
-/

namespace SmaliLint

/-! ## The steps of one check -/

theorem length_run (checks : List Check) (ss : List Signal) :
    (run checks ss).length = ss.length * checks.length := by
  induction ss generalizing checks with
  | nil => simp [run]
  | cons s ss ih =>
    have hnext : ((checks.map (Check.event s)).map (·.check)).length = checks.length := by
      rw [List.length_map, List.length_map]
    rw [run, List.length_append, ih, hnext, List.length_map, List.length_cons, Nat.succ_mul, Nat.add_comm]

/-- **The steps of one check within a run** are those it takes alone. -/
theorem run_at {checks : List Check} {i : Nat} {c : Check} (hc : checks[i]? = some c) (ss : List Signal) (k : Nat) :
    (run checks ss)[k * checks.length + i]? = (run [c] ss)[k]? := by
  induction ss generalizing checks c k with
  | nil => simp [run]
  | cons s ss ih =>
    have hi : i < checks.length := (List.getElem?_eq_some_iff.1 hc).1
    have halone : run [c] (s :: ss) = c.event s :: run [(c.event s).check] ss := rfl
    have hevents : (checks.map (Check.event s)).length = checks.length := List.length_map _
    rw [run, halone]
    cases k with
    | zero =>
      rw [Nat.zero_mul, Nat.zero_add, List.getElem?_append_left (by omega), List.getElem?_map, hc]
      rfl
    | succ k =>
      have hnext : ((checks.map (Check.event s)).map (·.check))[i]? = some (c.event s).check := by
        rw [List.getElem?_map, List.getElem?_map, hc]
        rfl
      have hrest := ih hnext k
      rw [List.length_map, hevents] at hrest
      have hskip : (k + 1) * checks.length + i - (checks.map (Check.event s)).length = k * checks.length + i := by
        rw [hevents, Nat.succ_mul]
        omega
      rw [List.getElem?_append_right (by rw [hevents, Nat.succ_mul]; omega), hskip, hrest, List.getElem?_cons_succ]

/-! ## Merged lists -/

/-- The lists merged into one: time and again, the first item of some list comes next. -/
inductive Interleaving {α : Type} : List (List α) → List α → Prop
  | done {parts : List (List α)} : (∀ part ∈ parts, part = []) → Interleaving parts []
  | take {before after : List (List α)} {x : α} {rest whole : List α} :
      Interleaving (before ++ rest :: after) whole → Interleaving (before ++ (x :: rest) :: after) (x :: whole)

namespace Interleaving

variable {α : Type}

theorem perm {parts : List (List α)} {whole : List α} (h : Interleaving parts whole) : whole.Perm parts.flatten := by
  induction h with
  | done hnil => rw [List.flatten_eq_nil_iff.2 hnil]
  | @take before after x rest whole _ ih =>
    rw [List.flatten_append, List.flatten_cons] at ih ⊢
    exact (ih.cons x).trans List.perm_middle.symm

/-- What one list begins with may come first as a whole. -/
theorem takeAll {before after : List (List α)} {rest whole : List α} (h : Interleaving (before ++ rest :: after) whole)
    (first : List α) : Interleaving (before ++ (first ++ rest) :: after) (first ++ whole) := by
  induction first with
  | nil => exact h
  | cons x first ih => exact .take ih

/-- A round in which each list in turn gives what it begins with. -/
theorem round {β : Type} {first rest : β → List α} {xs : List β} {whole : List α} (before : List (List α))
    (h : Interleaving (before ++ xs.map rest) whole) :
    Interleaving (before ++ xs.map fun x => first x ++ rest x) (xs.flatMap first ++ whole) := by
  induction xs generalizing before with
  | nil => exact h
  | cons x xs ih =>
    have hothers : Interleaving (before ++ rest x :: xs.map fun x => first x ++ rest x) (xs.flatMap first ++ whole) := by
      have hx := ih (before ++ [rest x]) (by simpa using h)
      simpa using hx
    rw [List.map_cons, List.flatMap_cons, List.append_assoc]
    exact hothers.takeAll (first x)

end Interleaving

/-- **What checks find side by side** is what each finds alone, merged. -/
theorem interleaving_findings (checks : List Check) (ss : List Signal) :
    Interleaving (checks.map fun c => findings (run [c] ss)) (findings (run checks ss)) := by
  induction ss generalizing checks with
  | nil => exact .done (by simp [run, findings])
  | cons s ss ih =>
    have halone : ∀ c : Check, findings (run [c] (s :: ss)) = (c.step s).2 ++ findings (run [(c.step s).1] ss) := by
      intro c
      rw [findings_run_cons, List.map_singleton, List.flatMap_singleton]
    have hrest := ih (checks.map fun c => (c.step s).1)
    rw [List.map_map] at hrest
    simp only [halone]
    rw [findings_run_cons]
    exact Interleaving.round [] hrest

/-- **Checks do not disturb each other.** The `k`-th step of the `i`-th check of a run stands at `k * rules.length + i`,
and is the `k`-th step of a run of that rule alone. So the findings of a run are those of the rules alone, merged, and
but for their order those of the first rule, the second, and so on. -/
theorem checks_independent :
    (∀ (rules : List Rule) (ts : List Token),
      let events := run (rules.map Check.ofRule) (signals ts)
      events.length = (signals ts).length * rules.length ∧
        (∀ (i : Fin rules.length) (k : Nat),
          events[k * rules.length + i]? = (run [Check.ofRule (rules.get i)] (signals ts))[k]?) ∧
        Interleaving (rules.map fun r => findings (run [Check.ofRule r] (signals ts))) (findings events)) ∧
      ∀ (source : Text) (rules : List Rule), ∃ ds parts,
        validate source (some (rules.map Rule.name)) = .ok ds ∧
          List.Forall₂ (fun r part => validate source (some [r.name]) = .ok part) rules parts ∧
          Interleaving parts ds ∧ ds.Perm parts.flatten := by
  have hmerged : ∀ (rules : List Rule) (ts : List Token),
      Interleaving (rules.map fun r => findings (run [Check.ofRule r] (signals ts)))
        (findings (run (rules.map Check.ofRule) (signals ts))) := by
    intro rules ts
    have h := interleaving_findings (rules.map Check.ofRule) (signals ts)
    rwa [List.map_map] at h
  constructor
  · intro rules ts events
    refine ⟨?_, fun i k => ?_, hmerged rules ts⟩
    · rw [length_run, List.length_map]
    · have hi : (rules.map Check.ofRule)[i.val]? = some (Check.ofRule (rules.get i)) := by simp
      have hat := run_at hi (signals ts) k
      rwa [List.length_map] at hat
  · intro source rules
    have h := hmerged rules (tokenize source)
    refine ⟨_, _, validate_names source rules, ?_, h, h.perm⟩
    rw [List.forall₂_map_right_iff, List.forall₂_same]
    intro r _
    exact validate_names source [r]

end SmaliLint
