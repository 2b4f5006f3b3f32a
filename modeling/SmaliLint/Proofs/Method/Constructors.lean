import SmaliLint.Proofs.Method.Blocks
import SmaliLint.Proofs.Method.Reading
import SmaliLint.Proofs.Validation.Messages

/-!
# Constructors that are there twice

The first line that declares a constructor of a kind takes the place for it, also inside another method, where nothing
is said about the declaration itself. A later one of the same kind is refused, unless it stands inside another method.

* `Methods.place_seeLine`, `Check.after_place` : the places after one more line, and after any signals;
* `trace_place`, `trace_place_stays` : the places after an event, told by the lines that have been shown, and after later
  ones;
* `ConstructorVerdict`, `constructor_uniqueness` : which lines are refused, and how.
-/

namespace SmaliLint

/-! ## The places -/

namespace Methods

theorem place_seeToken (m : Methods) (t : Token) (static : Bool) : (m.seeToken t).1.place static = m.place static := by
  unfold seeToken
  split
  · split <;> rfl
  · rfl

theorem place_closeBlock (m : Methods) (l : Line) (static : Bool) : (m.closeBlock l).1.place static = m.place static := by
  unfold closeBlock
  split <;> rfl

theorem place_openBlock (m : Methods) {l : Line} (hl : l.opensMethod = true) (static : Bool) :
    (m.openBlock l).1.place static = (m.place static).or (if l.isConstructor static then some l else none) := by
  show (m.addConstructor l (.ofLine l)).1.place static = _
  unfold addConstructor Line.isConstructor
  rw [Declaration.has_ofLine, Declaration.has_ofLine, hl]
  cases l.hasModifier "constructor" with
  | false => simp
  | true =>
    cases l.hasModifier "static" with
    | true => cases static <;> cases hplace : m.staticConstructor <;> simp [place, hplace]
    | false => cases static <;> cases hplace : m.instanceConstructor <;> simp [place, hplace]

/-- **One line.** A constructor takes the place of its kind if that is empty. -/
theorem place_seeLine (m : Methods) (l : Line) (static : Bool) :
    (m.seeLine l).1.place static = (m.place static).or (if l.isConstructor static then some l else none) := by
  by_cases hopens : l.opensMethod = true
  · rw [seeLine_of_opensMethod m hopens, place_openBlock m hopens]
  · have hno : ¬ l.isConstructor static = true := by simp [Line.isConstructor, hopens]
    rw [if_neg hno, Option.or_none]
    cases hmethod : l.isMethod with
    | false => rw [seeLine_of_not_isMethod m hmethod]
    | true => rw [seeLine_of_not_opensMethod m hmethod (by simpa using hopens), place_closeBlock]

end Methods

/-- **The places after any signals.** -/
theorem Check.after_place (m : Methods) (ss : List Signal) :
    ∃ m', (Check.method m).after ss = .method m' ∧ ∀ static,
      m'.place static = (m.place static).or ((ss.filterMap Signal.line?).find? (·.isConstructor static)) := by
  induction ss generalizing m with
  | nil => exact ⟨m, rfl, fun static => by simp⟩
  | cons s ss ih =>
    cases s with
    | line l =>
      obtain ⟨m', hafter, hplace⟩ := ih (m.seeLine l).1
      refine ⟨m', hafter, fun static => ?_⟩
      show _ = (m.place static).or ((l :: ss.filterMap Signal.line?).find? (·.isConstructor static))
      rw [hplace, Methods.place_seeLine, Option.or_assoc, List.find?_cons]
      cases l.isConstructor static <;> rfl
    | token t =>
      obtain ⟨m', hafter, hplace⟩ := ih (m.seeToken t).1
      exact ⟨m', hafter, fun static => by rw [hplace, Methods.place_seeToken]; rfl⟩
    | finish => exact ih m

/-- The places after an event. -/
theorem trace_place {source : Text} {past future : List Event} {e : Event}
    (h : trace [.method] source = past ++ e :: future) :
    ∃ m, e.check = .method m ∧ ∀ static,
      m.place static = ((past ++ [e]).filterMap Event.line?).find? (·.isConstructor static) := by
  obtain ⟨-, hevent⟩ := run_split h
  obtain ⟨m, hafter, hplace⟩ := Check.after_place .empty ((past ++ [e]).map (·.signal))
  refine ⟨m, ?_, fun static => ?_⟩
  · rw [← hafter, List.map_append, Check.after_append, hevent]
    rfl
  · rw [hplace, List.filterMap_map]
    cases static <;> rfl

/-- A place that is taken stays so. -/
theorem trace_place_stays {source : Text} {past future : List Event} {e later : Event} {m m' : Methods} {static : Bool}
    {first : Line} (hsplit : trace [.method] source = past ++ e :: future) (hlater : later ∈ future)
    (hm : e.check = .method m) (hm' : later.check = .method m') (hfirst : m.place static = some first) :
    m'.place static = some first := by
  obtain ⟨middle, rest, rfl⟩ := List.append_of_mem hlater
  have hafter : trace [.method] source = (past ++ e :: middle) ++ later :: rest := by rw [hsplit]; simp
  obtain ⟨_, hcheck, hplace⟩ := trace_place hsplit
  obtain ⟨_, hcheck', hplace'⟩ := trace_place hafter
  obtain rfl := Check.method.inj (hm.symm.trans hcheck)
  obtain rfl := Check.method.inj (hm'.symm.trans hcheck')
  have hshown : past ++ e :: middle ++ [later] = (past ++ [e]) ++ (middle ++ [later]) := by simp
  rw [hplace', hshown, List.filterMap_append, List.find?_append, ← hplace, hfirst]
  rfl

/-! ## Refusals -/

/-- What a constructor is called. -/
def constructorEntity (static : Bool) : String := if static then "Static constructor" else "Constructor"

/-- The line `k` after the lines `before` stands outside methods and declares a constructor of a kind of which `first`
was the first. -/
structure RepeatsConstructor (static : Bool) (before : List Line) (k first : Line) : Prop where
  kind : k.isConstructor static = true
  first : before.find? (·.isConstructor static) = some first
  outside : ∀ j since, findLast? Line.isMethod before = some (j, since) → j.opensMethod = false

/-- What is found in a line `k` that stands after the lines `before`. -/
structure ConstructorVerdict (before : List Line) (k : Line) (found : List Diagnostic) : Prop where
  /-- Behind what else is found, a constructor that is there already is refused. -/
  repeated : ∀ static first, RepeatsConstructor static before k first →
    ∃ own, found = own ++ alreadyDeclared first k (constructorEntity static) "defined" ∧ Unrepeated "defined" own
  fresh : (∀ static first, ¬ RepeatsConstructor static before k first) → Unrepeated "defined" found

/-- A line that is not refused. -/
theorem constructorVerdict_of_avoids {before : List Line} {k : Line} {found : List Diagnostic}
    (hno : ∀ static first, ¬ RepeatsConstructor static before k first) (hfound : Avoids (repeatEndings "defined") found) :
    ConstructorVerdict before k found :=
  ⟨fun static first h => absurd h (hno static first), fun _ => hfound.unrepeated (List.Subset.refl _)⟩

theorem constructorVerdict_declarationFindings {before : List Line} {k : Line} (hk : k.opensMethod = true)
    (houtside : ∀ j since, findLast? Line.isMethod before = some (j, since) → j.opensMethod = false) :
    ConstructorVerdict before k (declarationFindings before k) := by
  have hown : Avoids (repeatEndings "defined") (Declaration.ofLine k).found := Declaration.avoids_readModifiers _ _ _ _ _
  unfold declarationFindings firstConstructor?
  dsimp only
  cases hconstructor : k.hasModifier "constructor" with
  | false =>
    refine constructorVerdict_of_avoids ?_ (hown.append avoids_nil)
    rintro static first ⟨hkind, -, -⟩
    simp [Line.isConstructor, hconstructor] at hkind
  | true =>
    have hstatic : ∀ static, k.isConstructor static = true ↔ k.hasModifier "static" = static := by
      intro static
      simp [Line.isConstructor, hk, hconstructor]
    cases hfirst : before.find? (·.isConstructor (k.hasModifier "static")) with
    | none =>
      refine constructorVerdict_of_avoids ?_ (hown.append avoids_nil)
      rintro static first ⟨hkind, hbefore, -⟩
      rw [← (hstatic static).1 hkind, hfirst] at hbefore
      cases hbefore
    | some first =>
      constructor
      · rintro static first' ⟨hkind, hbefore, -⟩
        obtain rfl := (hstatic static).1 hkind
        obtain rfl := Option.some.inj (hfirst.symm.trans hbefore)
        exact ⟨_, rfl, hown.unrepeated (List.Subset.refl _)⟩
      · intro hno
        exact absurd ⟨(hstatic _).2 rfl, hfirst, houtside⟩ (hno _ first)

theorem Methods.constructorVerdict_saysAfter (before : List Line) (k : Line) :
    ConstructorVerdict before k (saysAfter before k) := by
  by_cases hopens : k.opensMethod = true
  · rw [saysAfter_of_opens before hopens]
    have houtside : (∀ method, Block.ofLines before ≠ .inside method) →
        ∀ j since, findLast? Line.isMethod before = some (j, since) → j.opensMethod = false := by
      intro hno j since hlast
      cases hj : j.opensMethod with
      | false => rfl
      | true => exact absurd (Block.ofLines_eq_inside hlast hj) (hno _)
    cases hblock : Block.ofLines before with
    | inside method =>
      refine constructorVerdict_of_avoids ?_ (.fixed (by decide) (.fixed (by decide) avoids_nil))
      rintro static first ⟨-, -, houtside⟩
      exact Block.ofLines_ne_inside houtside method hblock
    | before => exact constructorVerdict_declarationFindings hopens (houtside (by simp [hblock]))
    | after ended => exact constructorVerdict_declarationFindings hopens (houtside (by simp [hblock]))
  · refine constructorVerdict_of_avoids ?_ ?_
    · rintro static first ⟨hkind, -, -⟩
      simp [Line.isConstructor, hopens] at hkind
    · unfold saysAfter
      cases hmethod : k.isMethod with
      | false =>
        rw [seeLine_of_not_isMethod _ hmethod]
        exact avoids_nil
      | true =>
        rw [seeLine_of_not_opensMethod _ hmethod (by simpa using hopens)]
        exact avoids_closeBlock _ k

/-- Only lines are refused. -/
theorem unrepeated_of_not_line {source : Text} {past future : List Event} {e : Event}
    (hsplit : trace [.method] source = past ++ e :: future) (hline : ∀ k, e.signal ≠ .line k) :
    Unrepeated "defined" e.found := by
  obtain ⟨-, hevent⟩ := run_split hsplit
  obtain ⟨m, hafter, -⟩ := Check.after_place .empty (past.map (·.signal))
  have hfound : e.found = ((Check.method m).step e.signal).2 := by
    rw [← hafter]
    exact congrArg Event.found hevent
  rw [hfound]
  cases hsignal : e.signal with
  | line k => exact absurd hsignal (hline k)
  | token t => exact (m.avoids_seeToken t).unrepeated (List.Subset.refl _)
  | finish => exact avoids_nil.unrepeated (List.Subset.refl _)

/-- **Constructors, told without a state.** The place for a kind of constructor holds the first line of that kind that
has been shown, and stays taken. A line is refused just if it declares a constructor of a kind that was there before,
and stands outside methods. -/
theorem constructor_uniqueness (source : Text) :
    (∀ rules, ∀ e ∈ trace rules source, e.check.rule = .method → e ∈ trace [.method] source) ∧
      (trace [.method] source).filterMap Event.line? = logicalLines (tokenize source) ∧
      ∀ past e future, trace [.method] source = past ++ e :: future →
        (∃ m, e.check = .method m ∧
          m.staticConstructor = ((past ++ [e]).filterMap Event.line?).find? (·.isConstructor true) ∧
          m.instanceConstructor = ((past ++ [e]).filterMap Event.line?).find? (·.isConstructor false)) ∧
        (∀ later ∈ future, ∀ m m' static first, e.check = .method m → later.check = .method m' →
          m.place static = some first → m'.place static = some first) ∧
        (∀ k, e.signal = .line k → ConstructorVerdict (past.filterMap Event.line?) k e.found) ∧
        ((∀ k, e.signal ≠ .line k) → Unrepeated "defined" e.found) := by
  refine ⟨?_, filterMap_line?_trace .method source, fun past e future hsplit => ⟨?_, ?_, ?_, ?_⟩⟩
  · intro rules e he hrule
    exact hrule ▸ mem_trace_alone he
  · obtain ⟨m, hm, hplace⟩ := trace_place hsplit
    exact ⟨m, hm, hplace true, hplace false⟩
  · intro later hlater m m' static first hm hm' hfirst
    exact trace_place_stays hsplit hlater hm hm' hfirst
  · intro k hk
    rw [(trace_line hsplit hk).2]
    exact Methods.constructorVerdict_saysAfter _ k
  · exact unrepeated_of_not_line hsplit

/-- A constructor behind two others, of which the second stands inside the first, is told of the first. -/
theorem constructor_uniqueness_nested :
    ∃ past e future, ∃ k first : Line, ∃ own,
      trace [.method] ".method constructor\n.method constructor\n.end method\n.method constructor".toList =
          past ++ e :: future ∧
        e.signal = .line k ∧ first.span.start.line = 0 ∧ k.span.start.line = 3 ∧
        e.found = own ++ [first.report .hint "Constructor defined here.",
          k.report .error "Constructor already defined."] := by
  let source := ".method constructor\n.method constructor\n.end method\n.method constructor".toList
  let events := trace [.method] source
  let k : Line := ⟨⟨.method, ".method".toList, ⟨3, 0, 52⟩, ⟨3, 7, 59⟩⟩,
    [⟨.space, " ".toList, ⟨3, 7, 59⟩, ⟨3, 8, 60⟩⟩, ⟨.modifier, "constructor".toList, ⟨3, 8, 60⟩, ⟨3, 19, 71⟩⟩]⟩
  let before := (events.take 16).filterMap Event.line?
  have hfacts : (events[16]?).map (·.signal) = some (.line k) ∧
      (before.find? (·.isConstructor false)).map (·.span.start.line) = some 0 ∧
      (findLast? Line.isMethod before).map (·.1.opensMethod) = some false := by decide +kernel
  obtain ⟨hsignal, hfirst, hlast⟩ := hfacts
  obtain ⟨e, he, hsignal⟩ := Option.map_eq_some_iff.1 hsignal
  obtain ⟨first, hfirst, hline⟩ := Option.map_eq_some_iff.1 hfirst
  have hsplit : events = events.take 16 ++ e :: events.drop 17 := by
    obtain ⟨hlt, rfl⟩ := List.getElem?_eq_some_iff.1 he
    rw [← List.drop_eq_getElem_cons, List.take_append_drop]
  have houtside : ∀ j since, findLast? Line.isMethod before = some (j, since) → j.opensMethod = false := by
    intro j since hj
    rw [hj] at hlast
    exact Option.some.inj hlast
  obtain ⟨-, -, hverdict, -⟩ := (constructor_uniqueness source).2.2 _ e _ hsplit
  obtain ⟨own, hfound, -⟩ := (hverdict k hsignal).repeated false first ⟨by decide, hfirst, houtside⟩
  exact ⟨_, e, _, k, first, own, hsplit, hsignal, hline, rfl, hfound⟩

end SmaliLint
