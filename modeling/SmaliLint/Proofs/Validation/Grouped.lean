import SmaliLint.Validation

/-!
# Hints come with errors

* `Grouped ds` : errors, each with at most two hints right before it; `Grouped.error_after_hint` and
  `Grouped.exists_error` : what that means for a single diagnostic;
* `Header.grouped_seeLine`, `Declaration.grouped_readModifiers`, `Methods.grouped_seeLine` and others :
  what is said to a line is grouped;
* `Check.event_found` : so is what a step of a check finds, unless a return cannot be judged
  (`UntypedReturn`).
-/

namespace SmaliLint

/-! ## Groups of diagnostics -/

/-- Errors, each alone or after one or two hints. -/
inductive Grouped : List Diagnostic → Prop where
  | nil : Grouped []
  | error {e : Diagnostic} {ds : List Diagnostic} : e.severity = .error → Grouped ds → Grouped (e :: ds)
  | hint {h e : Diagnostic} {ds : List Diagnostic} :
      h.severity = .hint → e.severity = .error → Grouped ds → Grouped (h :: e :: ds)
  | hints {g h e : Diagnostic} {ds : List Diagnostic} :
      g.severity = .hint → h.severity = .hint → e.severity = .error → Grouped ds → Grouped (g :: h :: e :: ds)

namespace Grouped

theorem append {ds es : List Diagnostic} (hd : Grouped ds) (he : Grouped es) : Grouped (ds ++ es) := by
  induction hd with
  | nil => exact he
  | error h₁ _ ih => exact .error h₁ ih
  | hint h₁ h₂ _ ih => exact .hint h₁ h₂ ih
  | hints h₁ h₂ h₃ _ ih => exact .hints h₁ h₂ h₃ ih

theorem of_errors {ds : List Diagnostic} (h : ∀ d ∈ ds, d.severity = .error) : Grouped ds := by
  induction ds with
  | nil => exact .nil
  | cons d ds ih =>
    obtain ⟨hd, hds⟩ := List.forall_mem_cons.1 h
    exact .error hd (ih hds)

theorem single {d : Diagnostic} (h : d.severity = .error) : Grouped [d] := .error h .nil

theorem severity {ds : List Diagnostic} (h : Grouped ds) :
    ∀ d ∈ ds, d.severity = .error ∨ d.severity = .hint := by
  induction h with
  | nil => simp
  | error h₁ _ ih => simpa [h₁] using ih
  | hint h₁ h₂ _ ih => simpa [h₁, h₂] using ih
  | hints h₁ h₂ h₃ _ ih => simpa [h₁, h₂, h₃] using ih

theorem exists_error {ds : List Diagnostic} (h : Grouped ds) (hne : ds ≠ []) :
    ∃ d ∈ ds, d.severity = .error := by
  cases h with
  | nil => exact absurd rfl hne
  | @error e _ h₁ _ => exact ⟨e, by simp, h₁⟩
  | @hint _ e _ _ h₂ _ => exact ⟨e, by simp, h₂⟩
  | @hints _ _ e _ _ _ h₃ _ => exact ⟨e, by simp, h₃⟩

/-- A hint in a list that starts with an error stands further on. -/
theorem split_after_error {e h : Diagnostic} {ds before after : List Diagnostic} (he : e.severity = .error)
    (hh : h.severity = .hint) (hsplit : e :: ds = before ++ h :: after) :
    ∃ before, ds = before ++ h :: after := by
  cases before with
  | nil =>
    obtain ⟨rfl, -⟩ := List.cons.inj hsplit
    rw [he] at hh
    cases hh
  | cons b before => exact ⟨before, (List.cons.inj hsplit).2⟩

/-- After a hint comes an error, or another hint and then an error. -/
theorem error_after_hint {ds before after : List Diagnostic} {h : Diagnostic} (hds : Grouped ds)
    (hsplit : ds = before ++ h :: after) (hh : h.severity = .hint) :
    ∃ e rest, e.severity = .error ∧
      (after = e :: rest ∨ ∃ g, g.severity = .hint ∧ after = g :: e :: rest) := by
  induction hds generalizing before with
  | nil => simp at hsplit
  | error h₁ _ ih =>
    obtain ⟨before, hsplit⟩ := split_after_error h₁ hh hsplit
    exact ih hsplit
  | @hint _ e ds _ h₂ _ ih =>
    cases before with
    | nil => exact ⟨e, ds, h₂, .inl (List.cons.inj hsplit).2.symm⟩
    | cons b before =>
      obtain ⟨before, hsplit⟩ := split_after_error h₂ hh (List.cons.inj hsplit).2
      exact ih hsplit
  | @hints _ g e ds _ h₂ h₃ _ ih =>
    match before with
    | [] => exact ⟨e, ds, h₃, .inr ⟨g, h₂, (List.cons.inj hsplit).2.symm⟩⟩
    | [b] => exact ⟨e, ds, h₃, .inl (List.cons.inj (List.cons.inj hsplit).2).2.symm⟩
    | _ :: _ :: before =>
      obtain ⟨before, hsplit⟩ := split_after_error h₃ hh (List.cons.inj (List.cons.inj hsplit).2).2
      exact ih hsplit

end Grouped

/-! ## What the checks say -/

theorem grouped_alreadyDeclared (first second : Line) (entity verb : String) :
    Grouped (alreadyDeclared first second entity verb) :=
  .hint rfl rfl .nil

theorem grouped_unexpectedTokens (ts : List Token) : Grouped (unexpectedTokens ts) := by
  refine .of_errors fun d hd => ?_
  obtain ⟨t, -, rfl⟩ := List.mem_map.1 hd
  rfl

theorem grouped_checkSpaceAfter (ts : List Token) : Grouped (checkSpaceAfter ts) := by
  unfold checkSpaceAfter
  split
  · exact .nil
  · split
    · exact .nil
    · exact .single rfl

theorem grouped_checkClassWords (line : Line) (visibility : Option Token) (modifiers ts : List Token) :
    Grouped (checkClassWords line visibility modifiers ts) := by
  fun_induction checkClassWords line visibility modifiers ts with
  | case1 => exact .single rfl
  | case2 => assumption
  | case3 => exact (grouped_alreadyDeclared _ _ _ _).append ‹_›
  | case4 => assumption
  | case5 => exact .error rfl ‹_›
  | case6 => exact (grouped_alreadyDeclared _ _ _ _).append ‹_›
  | case7 => assumption
  | case8 => exact grouped_unexpectedTokens _
  | case9 => exact .error rfl ‹_›

theorem grouped_checkOperandShape (operand : Operand) (line : Line) : Grouped (checkOperandShape operand line) := by
  unfold checkOperandShape
  split
  · refine ((grouped_checkSpaceAfter _).append ?_).append (grouped_unexpectedTokens _)
    split
    · exact .nil
    · exact .single rfl
  · exact .single rfl

namespace Header

theorem grouped_fill (place : Option Line) (line : Line) (entity : String) {shape : Line → List Diagnostic}
    (h : ∀ l, Grouped (shape l)) : Grouped (fill place line entity shape).2 := by
  cases place with
  | none => exact h line
  | some first => exact grouped_alreadyDeclared first line entity "declared"

theorem grouped_seeLine (h : Header) (line : Line) : Grouped (h.seeLine line).2 := by
  change Grouped (h.seeDirective line).2
  unfold seeDirective
  split
  · exact .nil
  · exact grouped_fill _ _ _ fun l => (grouped_checkSpaceAfter _).append (grouped_checkClassWords l _ _ _)
  · exact grouped_fill _ _ _ (grouped_checkOperandShape _)
  · exact grouped_fill _ _ _ (grouped_checkOperandShape _)
  · exact grouped_checkOperandShape _ _

theorem grouped_missing (h : Header) : Grouped h.missing := by
  unfold missing
  split
  · exact .nil
  · refine .append ?_ ?_
    · split
      · exact .single rfl
      · exact .nil
    · split
      · exact .single rfl
      · exact .nil

end Header

namespace Declaration

theorem grouped_prepend {ds : List Diagnostic} {d : Declaration} (hds : Grouped ds) (hd : Grouped d.found) :
    Grouped (d.prepend ds).found :=
  hds.append hd

theorem grouped_readReturnType (last : Token) (modifiers brackets : List Token) (flagged : Bool)
    (ts : List Token) : Grouped (readReturnType last modifiers brackets flagged ts).found := by
  fun_induction readReturnType last modifiers brackets flagged ts with
  | case1 brackets flagged =>
    cases flagged
    · exact .single rfl
    · exact .nil
  | case2 => assumption
  | case3 => exact grouped_unexpectedTokens _
  | case4 => exact grouped_prepend (.single rfl) ‹_›

theorem grouped_readParameters (last : Token) (modifiers : List Token) (flagged : Bool) (ts : List Token) :
    Grouped (readParameters last modifiers flagged ts).found := by
  fun_induction readParameters last modifiers flagged ts with
  | case1 flagged =>
    cases flagged
    · exact .single rfl
    · exact .nil
  | case2 => exact grouped_readReturnType _ _ _ _ _
  | case3 => assumption
  | case4 => exact grouped_prepend (.single rfl) ‹_›

theorem grouped_checkName (modifiers : List Token) (nameToken : Token) :
    Grouped (checkName modifiers nameToken) := by
  fun_cases checkName modifiers nameToken with
  | case1 => exact .nil
  | case2 => exact .hints rfl rfl rfl .nil
  | case3 => exact .nil
  | case4 => exact .hint rfl rfl .nil
  | case5 => exact .single rfl
  | case6 => exact .single rfl
  | case7 => exact .nil

theorem grouped_readModifiers (line : Line) (visibility : Option Token) (modifiers : List Token)
    (afterSpace : Bool) (ts : List Token) : Grouped (readModifiers line visibility modifiers afterSpace ts).found := by
  have hgap : ∀ (afterSpace : Bool) (t : Token),
      Grouped (if afterSpace then [] else [t.report .error "Space expected."]) := by
    intro afterSpace t
    cases afterSpace
    · exact .single rfl
    · exact .nil
  fun_induction readModifiers line visibility modifiers afterSpace ts with
  | case1 => exact .single rfl
  | case2 visibility modifiers afterSpace t ts hspace ih =>
    refine grouped_prepend ?_ ih
    split
    · exact .nil
    · exact .single rfl
  | case3 => exact grouped_prepend ((hgap _ _).append (grouped_alreadyDeclared _ _ _ _)) ‹_›
  | case4 => exact grouped_prepend (hgap _ _) ‹_›
  | case5 => exact grouped_prepend ((hgap _ _).append (grouped_alreadyDeclared _ _ _ _)) ‹_›
  | case6 => exact grouped_prepend (hgap _ _) ‹_›
  | case7 => exact grouped_prepend ((hgap _ _).append (grouped_checkName _ _)) (grouped_readParameters _ _ _ _)
  | case8 => exact grouped_prepend ((hgap _ _).append (.single rfl)) ‹_›

end Declaration

namespace Methods

theorem grouped_addConstructor (m : Methods) (line : Line) (d : Declaration) :
    Grouped (m.addConstructor line d).2 := by
  unfold addConstructor
  split
  · exact .nil
  · split
    · split
      · exact grouped_alreadyDeclared _ _ _ _
      · exact .nil
    · split
      · exact grouped_alreadyDeclared _ _ _ _
      · exact .nil

theorem grouped_openBlock (m : Methods) (line : Line) : Grouped (m.openBlock line).2 := by
  unfold openBlock
  dsimp only
  split
  · exact .hint rfl rfl .nil
  · exact (Declaration.grouped_readModifiers _ _ _ _ _).append (grouped_addConstructor _ _ _)

theorem grouped_closeBlock (m : Methods) (line : Line) : Grouped (m.closeBlock line).2 := by
  unfold closeBlock
  split
  · exact .single rfl
  · exact .hint rfl rfl .nil
  · dsimp only
    split
    · exact .single rfl
    · exact .nil

theorem grouped_seeLine (m : Methods) (line : Line) : Grouped (m.seeLine line).2 := by
  unfold seeLine
  split
  · exact .nil
  · split
    · exact grouped_openBlock _ _
    · exact grouped_closeBlock _ _

end Methods

theorem grouped_checkReturn (kind : ReturnKind) (written : Line) (t : Token) :
    Grouped (checkReturn (.known kind written) t) := by
  unfold checkReturn
  dsimp only
  split
  · exact .nil
  · split
    · exact .nil
    · exact .hint rfl rfl .nil

/-- A return is met in an open block whose declaration names no type, and nothing else is said to it. -/
structure UntypedReturn (e : Event) (t : Token) (method : Method) : Prop where
  signal : e.signal = .token t
  kind : t.kind = .ret
  inside : ∃ m, e.check = .method m ∧ m.block = .inside method
  unknown : method.returnType = .unknown
  found : e.found = [t.report .information "Unable to get return type from method declaration."]

theorem Methods.seeToken_found (m : Methods) (t : Token) :
    Grouped (m.seeToken t).2 ∨ ∃ method, UntypedReturn ((Check.method m).event (.token t)) t method := by
  unfold Check.event Check.step seeToken
  dsimp only
  split
  case h_1 method hblock =>
    split
    case isTrue hret =>
      cases method.returnType with
      | known kind written => exact .inl (grouped_checkReturn kind written t)
      | unknown => exact .inr ⟨_, rfl, hret, ⟨_, rfl, rfl⟩, rfl, rfl⟩
    case isFalse => exact .inl .nil
  case h_2 => exact .inl .nil

/-- **What a step finds.** Hints go with errors, but for a return that cannot be judged. -/
theorem Check.event_found (c : Check) (s : Signal) :
    Grouped (c.event s).found ∨ ∃ t method, UntypedReturn (c.event s) t method := by
  cases c with
  | header h =>
    cases s with
    | line l => exact .inl (h.grouped_seeLine l)
    | token t => exact .inl .nil
    | finish => exact .inl h.grouped_missing
  | method m =>
    cases s with
    | line l => exact .inl (m.grouped_seeLine l)
    | token t => exact (m.seeToken_found t).imp_right fun h => ⟨t, h⟩
    | finish => exact .inl .nil

end SmaliLint
