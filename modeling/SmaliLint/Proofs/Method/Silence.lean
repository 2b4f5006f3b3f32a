import SmaliLint.Proofs.Method.Blocks

/-!
# Lines to which a check of methods says nothing

* `Methods.said m l` : what is said to the returns of a line and then to the line;
* `Methods.Silent m ls m'` : nothing is said to the lines, and they lead from `m` to `m'`; `findings_run_of_silent` : then
  nothing is found in a run over them;
* `silent_outside`, `silent_opening`, `silent_body`, `silent_closing` : the lines outside methods, and those of a method;
  `silent_method` : a method as a whole.
-/

namespace SmaliLint

namespace Methods

/-- What is said to returns. -/
def listen (m : Methods) : List Token → List Diagnostic
  | [] => []
  | t :: ts => (m.seeToken t).2 ++ (m.seeToken t).1.listen ts

/-- What is said to a line, of which the returns come first. -/
def said (m : Methods) (l : Line) : List Diagnostic := m.listen l.returns ++ ((m.hear l.returns).seeLine l).2

/-- Nothing is said to the lines, and they lead from the one state to the other. -/
inductive Silent : Methods → List Line → Methods → Prop
  | nil (m : Methods) : Silent m [] m
  | cons {m m' : Methods} {l : Line} {ls : List Line} : m.said l = [] → Silent (m.afterLine l) ls m' →
      Silent m (l :: ls) m'

theorem Silent.append {m m' m'' : Methods} {ls ks : List Line} (h : m.Silent ls m') (h' : m'.Silent ks m'') :
    m.Silent (ls ++ ks) m'' := by
  induction h with
  | nil m => exact h'
  | cons hl _ ih => exact .cons hl (ih h')

theorem findings_run_tokens (m : Methods) (ts : List Token) (ss : List Signal) :
    findings (run [.method m] (ts.map .token ++ ss)) = m.listen ts ++ findings (run [.method (m.hear ts)] ss) := by
  induction ts generalizing m with
  | nil => rfl
  | cons t ts ih =>
    rw [List.map_cons, List.cons_append, findings_run_cons]
    show _ ++ findings (run [.method (m.seeToken t).1] (ts.map .token ++ ss)) = _
    rw [ih, listen, List.append_assoc, List.flatMap_singleton]
    rfl

theorem findings_run_line (m : Methods) (l : Line) (ss : List Signal) :
    findings (run [.method m] (l.schedule ++ ss)) = m.said l ++ findings (run [.method (m.afterLine l)] ss) := by
  rw [Line.schedule, List.append_assoc]
  show findings (run [.method m] (l.returns.map .token ++ _)) = _
  rw [findings_run_tokens, List.singleton_append, findings_run_cons, said, List.append_assoc, List.flatMap_singleton]
  rfl

theorem findings_run_of_silent {m m' : Methods} {ls : List Line} (h : m.Silent ls m') :
    findings (run [.method m] (ls.flatMap Line.schedule ++ [.finish])) = [] := by
  induction h with
  | nil m => rfl
  | cons hl _ ih => rw [List.flatMap_cons, List.append_assoc, findings_run_line, hl, ih, List.nil_append]

/-! ## Outside methods -/

/-- No method is open. -/
def Outside (m : Methods) : Prop := ∀ method, m.block ≠ .inside method

theorem outside_empty : empty.Outside := by
  intro method hinside
  cases hinside

theorem outside_after (m : Methods) (l : Line) : { m with block := .after l }.Outside := by
  intro method hinside
  cases hinside

theorem Outside.listen_eq {m : Methods} (h : m.Outside) (ts : List Token) : m.listen ts = [] ∧ m.hear ts = m := by
  have hquiet : ∀ t, m.seeToken t = (m, []) := by
    intro t
    unfold seeToken
    split
    next method hinside => exact absurd hinside (h method)
    next => rfl
  induction ts with
  | nil => exact ⟨rfl, rfl⟩
  | cons t ts ih =>
    obtain ⟨hlisten, hhear⟩ := ih
    refine ⟨?_, ?_⟩
    · rw [listen, hquiet, hlisten]
      rfl
    · show (m.seeToken t).1.hear ts = m
      rw [hquiet, hhear]

/-- Other lines than those of methods are passed over. -/
theorem silent_outside {m : Methods} (hm : m.Outside) {ls : List Line} (hls : ∀ l ∈ ls, l.isMethod = false) :
    m.Silent ls m := by
  induction ls with
  | nil => exact .nil m
  | cons l ls ih =>
    obtain ⟨hl, hls⟩ := List.forall_mem_cons.1 hls
    obtain ⟨hlisten, hhear⟩ := hm.listen_eq l.returns
    have hsaid : m.said l = [] := by rw [said, hlisten, hhear, seeLine_of_not_isMethod m hl]; rfl
    have hafter : m.afterLine l = m := by rw [afterLine, hhear, seeLine_of_not_isMethod m hl]
    refine .cons hsaid ?_
    rw [hafter]
    exact ih hls

/-! ## A method -/

/-- A declaration in which nothing is wrong, of a method that may be there, opens a block. -/
theorem silent_opening {m : Methods} (hm : m.Outside) {l : Line} (hl : l.opensMethod = true)
    (hfound : (Declaration.ofLine l).found = []) (hplace : (m.addConstructor l (.ofLine l)).2 = []) :
    m.Silent [l] { (m.addConstructor l (.ofLine l)).1 with
      block := .inside ⟨l, (Declaration.ofLine l).returnType, false, l.hasBody⟩ } := by
  obtain ⟨hlisten, hhear⟩ := hm.listen_eq l.returns
  have hopen : (m.openBlock l).2 = [] := by
    unfold openBlock
    dsimp only
    split
    next method hinside => exact absurd hinside (hm method)
    next => rw [hfound, hplace, List.append_nil]
  have hsaid : m.said l = [] := by rw [said, hlisten, hhear, seeLine_of_opensMethod m hl, hopen]; rfl
  have hafter : m.afterLine l = (m.openBlock l).1 := by rw [afterLine, hhear, seeLine_of_opensMethod m hl]
  refine .cons hsaid ?_
  rw [hafter, fst_openBlock]
  exact .nil _

theorem checkReturn_eq_nil {kind : ReturnKind} {written : Line} {t : Token} (h : ∀ w ∈ kind.instruction?, t.reads w = true) :
    checkReturn (.known kind written) t = [] := by
  cases hk : kind.instruction? with
  | none => simp [checkReturn, hk]
  | some w => simp [checkReturn, hk, h w hk]

theorem listen_inside {m : Methods} {method : Method} (hm : m.block = .inside method) {kind : ReturnKind} {written : Line}
    (htype : method.returnType = .known kind written) {ts : List Token} (hkind : ∀ t ∈ ts, t.kind = .ret)
    (hts : ∀ t ∈ ts, ∀ w ∈ kind.instruction?, t.reads w = true) : m.listen ts = [] := by
  induction ts generalizing m method with
  | nil => rfl
  | cons t ts ih =>
    obtain ⟨ht, hts⟩ := List.forall_mem_cons.1 hts
    obtain ⟨hret, hkind⟩ := List.forall_mem_cons.1 hkind
    have hsee : m.seeToken t = ({ m with block := .inside { method with sawReturn := true } }, []) := by
      unfold seeToken
      rw [hm]
      simp only [if_pos hret, htype, checkReturn_eq_nil ht]
    have hnext : ({ m with block := .inside { method with sawReturn := true } } : Methods).block =
        .inside { method with sawReturn := true } := rfl
    rw [listen, hsee, List.nil_append]
    exact ih hnext htype hkind hts

/-- Lines of a body whose returns are allowed. -/
theorem silent_body {m : Methods} {method : Method} (hm : m.block = .inside method) {kind : ReturnKind} {written : Line}
    (htype : method.returnType = .known kind written) {ls : List Line} (hmethod : ∀ l ∈ ls, l.isMethod = false)
    (hreturns : ∀ l ∈ ls, ∀ t ∈ l.returns, ∀ w ∈ kind.instruction?, t.reads w = true) :
    m.Silent ls { m with block := .inside { method with sawReturn := method.sawReturn || ls.any Line.hasReturn } } := by
  induction ls generalizing m method with
  | nil =>
    have hsame : { m with block := .inside { method with sawReturn := method.sawReturn || false } } = m := by
      rw [Bool.or_false, ← hm]
    rw [List.any_nil, hsame]
    exact .nil m
  | cons l ls ih =>
    obtain ⟨hl, hmethod⟩ := List.forall_mem_cons.1 hmethod
    obtain ⟨hreturn, hreturns⟩ := List.forall_mem_cons.1 hreturns
    have hhear : m.hear l.returns =
        { m with block := .inside { method with sawReturn := method.sawReturn || l.hasReturn } } := by
      rw [hear_eq m Line.kind_of_mem_returns, hm, Line.returns_isEmpty, Bool.not_not]
      rfl
    have hsaid : m.said l = [] := by
      rw [said, listen_inside hm htype Line.kind_of_mem_returns hreturn, seeLine_of_not_isMethod _ hl]
      rfl
    have hafter : m.afterLine l = m.hear l.returns := by rw [afterLine, seeLine_of_not_isMethod _ hl]
    refine .cons hsaid ?_
    have hnext : (m.afterLine l).block = .inside { method with sawReturn := method.sawReturn || l.hasReturn } := by
      rw [hafter, hhear]
    have hrest := ih hnext htype hmethod hreturns
    rw [hafter, hhear] at hrest ⊢
    rwa [List.any_cons, ← Bool.or_assoc]

/-- The end of a method that has returned if it has a body. -/
theorem silent_closing {m : Methods} {method : Method} (hm : m.block = .inside method) {l : Line}
    (hl : l.endsMethod = true) (hreturns : l.returns = []) (hbody : method.hasBody = true → method.sawReturn = true) :
    m.Silent [l] { m with block := .after l } := by
  have hmethod : l.isMethod = true := (Bool.and_eq_true_iff.1 hl).1
  have hsee : m.seeLine l = ({ m with block := .after l }, []) := by
    have hguard : ¬ (method.hasBody && !method.sawReturn) = true := by
      cases hb : method.hasBody with
      | false => simp
      | true => simp [hbody hb]
    rw [seeLine_of_not_opensMethod m hmethod (Line.not_opensMethod_of_endsMethod hl), closeBlock, hm]
    simp only [if_neg hguard]
  have hsaid : m.said l = [] := by
    rw [said, hreturns]
    show (m.seeLine l).2 = []
    rw [hsee]
  have hafter : m.afterLine l = { m with block := .after l } := by
    rw [afterLine, hreturns]
    show (m.seeLine l).1 = _
    rw [hsee]
  refine .cons hsaid ?_
  rw [hafter]
  exact .nil _

/-- **A method in order**: a declaration in which nothing is wrong, of a method that may be there, returns that its type
allows, one of them if it has a body, and the end. -/
theorem silent_method {m : Methods} (hm : m.Outside) {l k : Line} {ls : List Line} (hl : l.opensMethod = true)
    (hk : k.endsMethod = true) (hkreturns : k.returns = []) (hfound : (Declaration.ofLine l).found = [])
    (hplace : (m.addConstructor l (.ofLine l)).2 = []) {kind : ReturnKind} {written : Line}
    (htype : (Declaration.ofLine l).returnType = .known kind written) (hmethod : ∀ l ∈ ls, l.isMethod = false)
    (hreturns : ∀ l ∈ ls, ∀ t ∈ l.returns, ∀ w ∈ kind.instruction?, t.reads w = true)
    (hbody : l.hasBody = true → ls.any Line.hasReturn = true) :
    m.Silent (l :: (ls ++ [k])) { (m.addConstructor l (.ofLine l)).1 with block := .after k } := by
  have hopening := silent_opening hm hl hfound hplace
  generalize (m.addConstructor l (.ofLine l)).1 = placed at hopening ⊢
  have hinside : ({ placed with block := .inside ⟨l, (Declaration.ofLine l).returnType, false, l.hasBody⟩ } : Methods).block =
      .inside ⟨l, (Declaration.ofLine l).returnType, false, l.hasBody⟩ := rfl
  have hlines := silent_body hinside htype hmethod hreturns
  have hclosing : Methods.Silent
      { placed with block := .inside ⟨l, (Declaration.ofLine l).returnType, false || ls.any Line.hasReturn, l.hasBody⟩ } [k]
      { placed with block := .after k } := silent_closing rfl hk hkreturns hbody
  exact hopening.append (hlines.append hclosing)

end Methods

end SmaliLint
