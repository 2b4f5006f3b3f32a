import SmaliLint.Proofs.Header.Acceptance
import SmaliLint.Proofs.Validation.Messages

/-!
# Header directives that may stand once

The places of `.class`, `.super` and `.source` do not depend on each other. In each the first line stays, its shape is
the only one that is checked, and every other line of the directive is held against it. What is lacking at the end is
said of the first line of all.

* `OnceDirective` : such a directive; `OnceDirective.all` : the three that there are; `OnceDirective.shape_eq_nil_iff` :
  when nothing is found in the shape of a line;
* `Header.place_seeLine`, `Check.after_header` : the places after one more line, and after any signals;
* `told_run`, `told_trace` : what the lines of a directive are told, one after the other;
* `Header.seeLine_found` : the words in which other lines are told something;
* `singleton_header_directives` : the lines of the three directives in a text, and the end of the text.
-/

namespace SmaliLint

/-! ## The directives -/

/-- A directive that may stand once. -/
structure OnceDirective where
  directive : HeaderDirective
  /-- What messages call it. -/
  entity : String
  /-- What its first line is held against. -/
  shape : Line → List Diagnostic

namespace OnceDirective

def all : List OnceDirective :=
  [⟨.class_, "Class", checkClassShape⟩, ⟨.super, "Super", checkOperandShape classOperand⟩,
    ⟨.source, "Source", checkOperandShape stringOperand⟩]

/-- What is checked of the shape of a line is whether it has that of its directive. -/
theorem shape_eq_nil_iff {d : OnceDirective} (hd : d ∈ all) {l : Line} (hl : l.Trimmed) :
    d.shape l = [] ↔ match d.directive with
      | .class_ => l.ClassShape
      | .source => l.OperandShape .string
      | .super | .implements => l.OperandShape .classType := by
  simp only [all, List.mem_cons, List.not_mem_nil, or_false] at hd
  rcases hd with rfl | rfl | rfl
  · exact checkClassShape_eq_nil_iff hl
  · exact checkOperandShape_eq_nil_iff
  · exact checkOperandShape_eq_nil_iff

/-- What the lines of the directive behind the first one are told. -/
def pairs (d : OnceDirective) : List Line → List (List Diagnostic)
  | [] => []
  | first :: again => again.map (alreadyDeclared first · d.entity "declared")

/-- What the lines of the directive are told. -/
def told (d : OnceDirective) (ls : List Line) : List (List Diagnostic) := ls.head?.toList.map d.shape ++ d.pairs ls

/-- What the lines of the directive are told, given the line that has taken its place. -/
def toldFrom (d : OnceDirective) (place : Option Line) (ls : List Line) : List (List Diagnostic) :=
  match place with
  | some first => d.pairs (first :: ls)
  | none => d.told ls

theorem toldFrom_cons (d : OnceDirective) (place : Option Line) (l : Line) (ls : List Line) :
    d.toldFrom place (l :: ls) = (Header.fill place l d.entity d.shape).2 :: d.toldFrom (place.or (some l)) ls := by
  cases place <;> rfl

theorem length_pairs (d : OnceDirective) (ls : List Line) : (d.pairs ls).length = ls.length - 1 := by
  cases ls with
  | nil => rfl
  | cons first again => exact List.length_map _

/-- What is checked of the shape of a line is said in words of its own. -/
theorem avoids_shape {d : OnceDirective} (hd : d ∈ all) (l : Line) : Avoids headerEndings (d.shape l) := by
  simp only [all, List.mem_cons, List.not_mem_nil, or_false] at hd
  rcases hd with rfl | rfl | rfl
  · exact avoids_checkClassShape l
  · exact avoids_checkOperandShape (by decide) l
  · exact avoids_checkOperandShape (by decide) l

/-- The pairs of one directive are not those of another. -/
theorem not_repeats_of_ne {d other : OnceDirective} (hd : d ∈ all) (hother : other ∈ all)
    (hne : other.directive ≠ d.directive) (first l : Line) :
    ∀ x ∈ alreadyDeclared first l other.entity "declared", x.repeats d.entity "declared" = false := by
  have hmessages : ∀ d ∈ all, ∀ other ∈ all, other.directive ≠ d.directive →
      ∀ message ∈ repeatMessages other.entity "declared", message ∉ repeatMessages d.entity "declared" := by decide
  intro x hx
  have hmessage : x.message ∈ repeatMessages other.entity "declared" :=
    of_decide_eq_true (repeats_alreadyDeclared first l other.entity "declared" x hx)
  exact decide_eq_false (hmessages d hd other hother hne x.message hmessage)

end OnceDirective

/-! ## The places -/

namespace Header

/-- The line that has taken the place of a directive. Interfaces have none. -/
def place (h : Header) : HeaderDirective → Option Line
  | .class_ => h.classLine
  | .super => h.superLine
  | .source => h.sourceLine
  | .implements => none

theorem place_seeToken (h : Header) (t : Token) (d : HeaderDirective) : (h.seeToken t).place d = h.place d := by
  cases d <;> rfl

theorem fst_fill (place : Option Line) (l : Line) (entity : String) (shape : Line → List Diagnostic) :
    (fill place l entity shape).1 = place.or (some l) := by
  cases place <;> rfl

/-- A line of the directive is checked against its place. -/
theorem seeLine_of_directive (h : Header) {d : OnceDirective} (hd : d ∈ OnceDirective.all) {l : Line}
    (hl : l.headerDirective? = some d.directive) :
    (h.seeLine l).2 = (fill (h.place d.directive) l d.entity d.shape).2 := by
  show (h.seeDirective l).2 = _
  unfold seeDirective
  rw [hl]
  simp only [OnceDirective.all, List.mem_cons, List.not_mem_nil, or_false] at hd
  rcases hd with rfl | rfl | rfl <;> rfl

/-- **One line.** It takes the place of its directive if that is empty, and no other place. -/
theorem place_seeLine (h : Header) {d : OnceDirective} (hd : d ∈ OnceDirective.all) (l : Line) :
    (h.seeLine l).1.place d.directive = (h.place d.directive).or (linesOf d.directive [l]).head? := by
  show (h.seeDirective l).1.place d.directive = _
  unfold seeDirective
  rw [linesOf_cons]
  simp only [OnceDirective.all, List.mem_cons, List.not_mem_nil, or_false] at hd
  cases hl : l.headerDirective? with
  | none => simp [linesOf]
  | some directive => rcases hd with rfl | rfl | rfl <;> cases directive <;> simp [place, fst_fill, linesOf]

theorem top_seeLine (h : Header) (l : Line) : (h.seeLine l).1.top = h.top.or (some l) := by
  have hsame : (h.seeDirective l).1.top = h.top := by
    unfold seeDirective
    split <;> rfl
  show ((h.seeDirective l).1.top <|> some l) = _
  rw [hsame]
  cases h.top <;> rfl

end Header

/-- **The places after any signals.** -/
theorem Check.after_header (h : Header) (ss : List Signal) :
    ∃ h', (Check.header h).after ss = .header h' ∧ h'.top = h.top.or (ss.filterMap Signal.line?).head? ∧
      ∀ d ∈ OnceDirective.all, h'.place d.directive =
        (h.place d.directive).or (linesOf d.directive (ss.filterMap Signal.line?)).head? := by
  induction ss generalizing h with
  | nil => exact ⟨h, rfl, by simp, fun d _ => by simp [linesOf]⟩
  | cons s ss ih =>
    cases s with
    | line l =>
      obtain ⟨h', hafter, htop, hplace⟩ := ih (h.seeLine l).1
      refine ⟨h', hafter, ?_, fun d hd => ?_⟩
      · rw [htop, h.top_seeLine, Option.or_assoc]
        rfl
      · show _ = (h.place d.directive).or (linesOf d.directive ([l] ++ ss.filterMap Signal.line?)).head?
        rw [hplace d hd, h.place_seeLine hd, Option.or_assoc, linesOf_append, List.head?_append]
    | token t =>
      obtain ⟨h', hafter, htop, hplace⟩ := ih (h.seeToken t)
      exact ⟨h', hafter, htop, fun d hd => by rw [hplace d hd, h.place_seeToken]; rfl⟩
    | finish => exact ih h

/-! ## The lines of a directive -/

/-- The header directive of the line that the event is about. -/
def Event.directive? (e : Event) : Option HeaderDirective := e.line?.bind Line.headerDirective?

/-- **What the lines of a directive are told**, one after the other. -/
theorem told_run {d : OnceDirective} (hd : d ∈ OnceDirective.all) (h : Header) (ss : List Signal) :
    ((run [.header h] ss).filter (·.directive? = some d.directive)).map (·.found) =
      d.toldFrom (h.place d.directive) (linesOf d.directive (ss.filterMap Signal.line?)) := by
  induction ss generalizing h with
  | nil => cases h.place d.directive <;> rfl
  | cons s ss ih =>
    have hrun : run [.header h] (s :: ss) = (Check.header h).event s :: run [((Check.header h).event s).check] ss := rfl
    rw [hrun]
    cases s with
    | line l =>
      have hevent : ((Check.header h).event (.line l)).directive? = l.headerDirective? := rfl
      by_cases hl : l.headerDirective? = some d.directive
      · rw [List.filter_cons_of_pos (by simp [hevent, hl]), List.map_cons]
        show (h.seeLine l).2 :: ((run [.header (h.seeLine l).1] ss).filter _).map _ =
          d.toldFrom _ (linesOf d.directive (l :: ss.filterMap Signal.line?))
        rw [ih, h.seeLine_of_directive hd hl, h.place_seeLine hd, linesOf_cons, linesOf_cons, if_pos hl, if_pos hl,
          OnceDirective.toldFrom_cons]
        rfl
      · rw [List.filter_cons_of_neg (by simp [hevent, hl])]
        show ((run [.header (h.seeLine l).1] ss).filter _).map _ =
          d.toldFrom _ (linesOf d.directive (l :: ss.filterMap Signal.line?))
        rw [ih, h.place_seeLine hd, linesOf_cons, linesOf_cons, if_neg hl, if_neg hl]
        exact congrArg (d.toldFrom · _) Option.or_none
    | token t =>
      have hevent : ((Check.header h).event (.token t)).directive? = none := rfl
      rw [List.filter_cons_of_neg (by simp [hevent])]
      show ((run [.header (h.seeToken t)] ss).filter _).map _ = _
      rw [ih, h.place_seeToken]
      rfl
    | finish =>
      have hevent : ((Check.header h).event .finish).directive? = none := rfl
      rw [List.filter_cons_of_neg (by simp [hevent])]
      exact ih h

/-! ## The words in which it is said -/

/-- What a line is told, by its words: a pair if it is a further line of its directive. -/
theorem Header.seeLine_found (h : Header) (l : Line) :
    Avoids headerEndings (h.seeLine l).2 ∨ ∃ d ∈ OnceDirective.all, ∃ first, l.headerDirective? = some d.directive ∧
      (h.seeLine l).2 = alreadyDeclared first l d.entity "declared" := by
  by_cases honce : ∃ d ∈ OnceDirective.all, l.headerDirective? = some d.directive
  · obtain ⟨d, hd, hl⟩ := honce
    rw [h.seeLine_of_directive hd hl]
    cases h.place d.directive with
    | none => exact .inl (OnceDirective.avoids_shape hd l)
    | some first => exact .inr ⟨d, hd, first, hl, rfl⟩
  · left
    show Avoids headerEndings (h.seeDirective l).2
    unfold seeDirective
    cases hl : l.headerDirective? with
    | none => exact avoids_nil
    | some directive =>
      cases directive with
      | implements => exact avoids_checkOperandShape (by decide) l
      | class_ => exact absurd ⟨_, List.mem_cons_self, hl⟩ honce
      | super => exact absurd ⟨_, List.mem_cons_of_mem _ List.mem_cons_self, hl⟩ honce
      | source => exact absurd ⟨_, List.mem_cons_of_mem _ (List.mem_cons_of_mem _ List.mem_cons_self), hl⟩ honce

/-- The pairs of a directive are told to its own lines. -/
theorem not_repeats_elsewhere {d : OnceDirective} (hd : d ∈ OnceDirective.all) (h : Header) (s : Signal)
    (hs : ((Check.header h).event s).directive? ≠ some d.directive) :
    ∀ x ∈ ((Check.header h).event s).found, x.repeats d.entity "declared" = false := by
  have havoids : ∀ {ds}, Avoids headerEndings ds → ∀ x ∈ ds, x.repeats d.entity "declared" = false :=
    fun hds x hx => hds.unrepeated (List.subset_append_left _ _) x hx d.entity
  cases s with
  | token t => exact List.forall_mem_nil _
  | finish => exact fun x hx => (h.avoids_missing.unrepeated (List.Subset.refl _)) x hx d.entity
  | line l =>
    rcases h.seeLine_found l with hfound | ⟨other, hother, first, hl, hfound⟩
    · exact havoids hfound
    · show ∀ x ∈ (h.seeLine l).2, _
      rw [hfound]
      refine OnceDirective.not_repeats_of_ne hd hother (fun hsame => hs ?_) first l
      rw [← hsame]
      exact hl

/-- What is lacking is told at the end. -/
theorem not_missing_elsewhere (h : Header) {s : Signal} (hs : s ≠ .finish) :
    ∀ x ∈ ((Check.header h).event s).found, x.message ∉ missingMessages := by
  cases s with
  | token t => exact List.forall_mem_nil _
  | finish => exact absurd rfl hs
  | line l =>
    rcases h.seeLine_found l with hfound | ⟨d, -, first, -, hfound⟩
    · exact (hfound.mono (List.subset_append_right _ _)).not_missing
    · have hpair : Avoids missingEndings (alreadyDeclared first l d.entity "declared") :=
        avoids_alreadyDeclared first l d.entity (by decide)
      show ∀ x ∈ (h.seeLine l).2, _
      rw [hfound]
      exact hpair.not_missing

/-! ## Whole texts -/

theorem OnceDirective.filter_told {d : OnceDirective} (hd : d ∈ all) (ls : List Line) :
    (d.told ls).flatMap (·.filter (·.repeats d.entity "declared")) = (d.pairs ls).flatten := by
  cases ls with
  | nil => rfl
  | cons first again =>
    have hshape : (d.shape first).filter (·.repeats d.entity "declared") = [] :=
      List.filter_eq_nil_iff.2 fun x hx => by
        simp [(avoids_shape hd first).unrepeated (List.subset_append_left _ _) x hx d.entity]
    have hpair : ∀ l, (alreadyDeclared first l d.entity "declared").filter (·.repeats d.entity "declared") =
        alreadyDeclared first l d.entity "declared" :=
      fun l => List.filter_eq_self.2 (repeats_alreadyDeclared first l d.entity "declared")
    show ([d.shape first] ++ again.map _).flatMap _ = (again.map _).flatten
    rw [List.flatMap_append, List.flatMap_singleton, hshape, List.nil_append, List.flatMap_map, List.flatten_eq_flatMap,
      List.flatMap_map]
    simp only [hpair, id_eq]

theorem exists_header {source : Text} {e : Event} (he : e ∈ trace [.header] source) :
    ∃ h, e = (Check.header h).event e.signal := by
  obtain ⟨past, future, hsplit⟩ := List.append_of_mem he
  obtain ⟨h, hafter, -, -⟩ := Check.after_header .empty (past.map (·.signal))
  exact ⟨h, hafter ▸ (run_split hsplit).2⟩

theorem told_trace {d : OnceDirective} (hd : d ∈ OnceDirective.all) (source : Text) :
    ((trace [.header] source).filter (·.directive? = some d.directive)).map (·.found) =
      d.told (linesOf d.directive (logicalLines (tokenize source))) := by
  have htold := told_run hd .empty (signals (tokenize source))
  have hplace : Header.empty.place d.directive = none := by cases d.directive <;> rfl
  rwa [filterMap_line?_signals, hplace] at htold

/-- The pairs of a directive, among all that is found. -/
theorem repeats_trace {d : OnceDirective} (hd : d ∈ OnceDirective.all) (source : Text) :
    (findings (trace [.header] source)).filter (·.repeats d.entity "declared") =
      (d.pairs (linesOf d.directive (logicalLines (tokenize source)))).flatten := by
  have helsewhere : ∀ e ∈ trace [.header] source, decide (e.directive? = some d.directive) = false →
      ∀ x ∈ e.found, x.repeats d.entity "declared" = false := by
    intro e he hdirective
    obtain ⟨h, hevent⟩ := exists_header he
    rw [hevent] at hdirective ⊢
    exact not_repeats_elsewhere hd h e.signal (of_decide_eq_false hdirective)
  rw [filter_findings helsewhere, told_trace hd, OnceDirective.filter_told hd]

/-- What the lines of a text lack. -/
def missingIn (ls : List Line) : List Diagnostic :=
  match ls.head? with
  | none => []
  | some top =>
    (if linesOf .class_ ls = [] then [top.report .error "Missing class directive."] else []) ++
      (if linesOf .super ls = [] then
        [top.report .error "Missing super directive.\nExtend 'Ljava/lang/Object;' by default."]
      else [])

theorem Header.missing_eq {h : Header} {ls : List Line} (htop : h.top = ls.head?)
    (hplace : ∀ d ∈ OnceDirective.all, h.place d.directive = (linesOf d.directive ls).head?) :
    h.missing = missingIn ls := by
  have hclass : h.classLine = (linesOf .class_ ls).head? := hplace _ List.mem_cons_self
  have hsuper : h.superLine = (linesOf .super ls).head? := hplace _ (List.mem_cons_of_mem _ List.mem_cons_self)
  unfold missing missingIn
  rw [htop, hclass, hsuper]
  cases ls.head? with
  | none => rfl
  | some top => simp only [Option.isNone_iff_eq_none, List.head?_eq_none_iff]

/-- The last step of a check of headers. -/
theorem trace_finish (source : Text) :
    ∃ events e, trace [.header] source = events ++ [e] ∧ e.signal = .finish ∧ (∀ e' ∈ events, e'.signal ≠ .finish) ∧
      e.found = missingIn (logicalLines (tokenize source)) := by
  obtain ⟨ss, hss, hno⟩ := exists_signals_finish (tokenize source)
  have hsignals := hss
  rw [← signals_run (.header .empty) (signals (tokenize source))] at hsignals
  obtain ⟨events, last, hsplit, hevents, hlast⟩ := List.map_eq_append_iff.1 hsignals
  obtain ⟨e, rfl, he⟩ := List.map_eq_singleton_iff.1 hlast
  refine ⟨events, e, hsplit, he, fun e' he' hfinish => hno ?_, ?_⟩
  · rw [← hevents, ← hfinish]
    exact List.mem_map_of_mem he'
  · have hshown := filterMap_line?_signals (tokenize source)
    rw [hss, List.filterMap_append] at hshown
    have hshown : ss.filterMap Signal.line? = logicalLines (tokenize source) := by
      rw [← hshown]
      exact (List.append_nil _).symm
    obtain ⟨h, hafter, htop, hplace⟩ := Check.after_header .empty ss
    obtain ⟨-, hevent⟩ := run_split hsplit
    rw [hevents, hafter, he] at hevent
    rw [hevent]
    show h.missing = _
    rw [hshown] at htop hplace
    exact Header.missing_eq htop fun d hd => (hplace d hd).trans (by cases d.directive <;> rfl)

/-- **Header directives that may stand once.** Of the lines of each, the first has its shape checked, and each further
one gets a hint at the first line and then an error of its own. At the end, and not before, a text with any line at all
is told at its first line of a class and a superclass that it lacks. -/
theorem singleton_header_directives (source : Text) :
    (∀ rules, ∀ e ∈ trace rules source, e.check.rule = .header → e ∈ trace [.header] source) ∧
      (trace [.header] source).filterMap Event.line? = logicalLines (tokenize source) ∧
      (∀ d ∈ OnceDirective.all,
        ((trace [.header] source).filter (·.directive? = some d.directive)).map (·.found) =
            d.told (linesOf d.directive (logicalLines (tokenize source))) ∧
          (findings (trace [.header] source)).filter (·.repeats d.entity "declared") =
            (d.pairs (linesOf d.directive (logicalLines (tokenize source)))).flatten ∧
          (d.pairs (linesOf d.directive (logicalLines (tokenize source)))).length =
            (linesOf d.directive (logicalLines (tokenize source))).length - 1) ∧
      ∃ events e, trace [.header] source = events ++ [e] ∧ e.signal = .finish ∧
        e.found = missingIn (logicalLines (tokenize source)) ∧
        ∀ e' ∈ events, e'.signal ≠ .finish ∧ ∀ x ∈ e'.found, x.message ∉ missingMessages := by
  refine ⟨?_, filterMap_line?_trace .header source, fun d hd => ?_, ?_⟩
  · intro rules e he hrule
    exact hrule ▸ mem_trace_alone he
  · exact ⟨told_trace hd source, repeats_trace hd source, d.length_pairs _⟩
  · obtain ⟨events, e, hsplit, he, hno, hfound⟩ := trace_finish source
    refine ⟨events, e, hsplit, he, hfound, fun e' he' => ⟨hno e' he', ?_⟩⟩
    obtain ⟨h, hevent⟩ := exists_header (hsplit ▸ List.mem_append_left _ he')
    rw [hevent]
    exact not_missing_elsewhere h (hno e' he')

/-- Of three class lines, the second and the third are each told of the first. -/
theorem singleton_header_directives_class :
    ∃ first second third : Line, first.span.start.line = 0 ∧ second.span.start.line = 2 ∧ third.span.start.line = 3 ∧
      (findings (trace [.header] ".class\n.super\n.class\n.class".toList)).filter (·.repeats "Class" "declared") =
        [first.report .hint "Class declared here.", second.report .error "Class already declared.",
          first.report .hint "Class declared here.", third.report .error "Class already declared."] := by
  let source := ".class\n.super\n.class\n.class".toList
  have hlines : (linesOf .class_ (logicalLines (tokenize source))).map (·.span.start.line) = [0, 2, 3] := by decide +kernel
  obtain ⟨first, again, hagain, hfirst, hrest⟩ := List.map_eq_cons_iff.1 hlines
  obtain ⟨second, again, rfl, hsecond, hrest⟩ := List.map_eq_cons_iff.1 hrest
  obtain ⟨third, rfl, hthird⟩ := List.map_eq_singleton_iff.1 hrest
  have hpairs := ((singleton_header_directives source).2.2.1 ⟨.class_, "Class", checkClassShape⟩ List.mem_cons_self).2.1
  rw [hagain] at hpairs
  exact ⟨first, second, third, hfirst, hsecond, hthird, hpairs⟩

end SmaliLint
