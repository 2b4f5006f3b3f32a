import SmaliLint.Proofs.Lexer.Partition
import SmaliLint.Proofs.Method.Reading
import SmaliLint.Proofs.Validation.LineByLine
import SmaliLint.Proofs.Validation.Run
import SmaliLint.Proofs.Validation.Severity

/-!
# Where diagnostics lie

Every diagnostic runs from a token of a logical line to the same token or a later one of that line. Some lie on the line
that a check was shown last, some on lines, modifiers or types that it remembers of earlier ones, so this is an invariant
of all that checks remember.

* `Line.Within ls part` : the tokens of `part` are some of those of one of the lines `ls`, in their order;
* `Placed ls ds` : each of the diagnostics covers such a part;
* `Check.Within ls c` : so does everything that the check remembers; `Check.step_within` : every step keeps it, and what
  is said to it is placed;
* `placed_findings` : so all that is found in a text is placed on its lines;
* `Span.Covers s before covered after` : the span runs over `covered` in the text; `exists_covers` : every span that is
  found covers something.
-/

namespace SmaliLint

/-! ## Parts of lines -/

/-- The tokens are some of those of one of the lines, in the same order. -/
def Line.Within (ls : List Line) (part : Line) : Prop := ∃ l ∈ ls, part.toList.Sublist l.toList

/-- Each of the diagnostics covers a part of one of the lines. -/
def Placed (ls : List Line) (ds : List Diagnostic) : Prop := ∀ d ∈ ds, ∃ part : Line, part.Within ls ∧ d.span = part.span

variable {ls : List Line}

theorem Line.within_of_mem {l : Line} (h : l ∈ ls) : l.Within ls := ⟨l, h, .refl _⟩

theorem Line.Within.part {l part : Line} (h : l.Within ls) (hsub : part.toList.Sublist l.toList) : part.Within ls := by
  obtain ⟨k, hk, hl⟩ := h
  exact ⟨k, hk, hsub.trans hl⟩

theorem Line.Within.token {l : Line} (h : l.Within ls) {t : Token} (ht : t ∈ l.toList) : (Line.single t).Within ls :=
  h.part (List.singleton_sublist.2 ht)

namespace Placed

theorem nil : Placed ls [] := fun _ hd => absurd hd List.not_mem_nil

theorem append {ds es : List Diagnostic} (hds : Placed ls ds) (hes : Placed ls es) : Placed ls (ds ++ es) :=
  List.forall_mem_append.2 ⟨hds, hes⟩

theorem report {l : Line} (h : l.Within ls) (severity : Severity) (message : String) :
    Placed ls [l.report severity message] := by
  intro d hd
  rw [List.mem_singleton.1 hd]
  exact ⟨l, h, rfl⟩

/-- A token is the line of that token alone. -/
theorem token {t : Token} (h : (Line.single t).Within ls) (severity : Severity) (message : String) :
    Placed ls [t.report severity message] :=
  report h severity message

theorem cons_token {t : Token} {ds : List Diagnostic} (h : (Line.single t).Within ls) {severity : Severity}
    {message : String} (hds : Placed ls ds) : Placed ls (t.report severity message :: ds) :=
  (token h severity message).append hds

theorem alreadyDeclared {first second : Line} (hfirst : first.Within ls) (hsecond : second.Within ls)
    (entity verb : String) : Placed ls (alreadyDeclared first second entity verb) :=
  (report hfirst _ _).append (report hsecond _ _)

theorem unexpectedTokens {ts : List Token} (h : ∀ t ∈ ts, (Line.single t).Within ls) :
    Placed ls (unexpectedTokens ts) := by
  intro d hd
  obtain ⟨t, ht, rfl⟩ := List.mem_map.1 hd
  exact ⟨.single t, h t ht, rfl⟩

end Placed

/-! ## The header -/

theorem placed_checkSpaceAfter {ts : List Token} (h : ∀ t ∈ ts, (Line.single t).Within ls) :
    Placed ls (checkSpaceAfter ts) := by
  unfold checkSpaceAfter
  split
  · exact .nil
  · split
    · exact .nil
    · exact .token (h _ List.mem_cons_self) _ _

theorem mem_of_sameWord? {ts : List Token} {t first : Token} (h : sameWord? ts t = some first) : first ∈ ts :=
  List.mem_of_find?_eq_some h

theorem placed_checkClassWords {line : Line} (hline : line.Within ls) (visibility : Option Token)
    (modifiers ts : List Token) (hvisibility : ∀ v ∈ visibility, (Line.single v).Within ls)
    (hmodifiers : ∀ m ∈ modifiers, (Line.single m).Within ls) (hts : ∀ t ∈ ts, (Line.single t).Within ls) :
    Placed ls (checkClassWords line visibility modifiers ts) := by
  fun_induction checkClassWords line visibility modifiers ts with
  | case1 => exact .report hline _ _
  | case2 visibility modifiers t ts _ ih => exact ih hvisibility hmodifiers (List.forall_mem_cons.1 hts).2
  | case3 modifiers t ts _ first ih =>
    obtain ⟨ht, hts⟩ := List.forall_mem_cons.1 hts
    exact (Placed.alreadyDeclared (hvisibility first rfl) ht _ _).append (ih hvisibility hmodifiers hts)
  | case4 modifiers t ts _ ih =>
    obtain ⟨ht, hts⟩ := List.forall_mem_cons.1 hts
    exact ih (fun v hv => Option.some.inj hv ▸ ht) hmodifiers hts
  | case5 visibility modifiers t ts _ _ ih =>
    obtain ⟨ht, hts⟩ := List.forall_mem_cons.1 hts
    exact .cons_token ht (ih hvisibility hmodifiers hts)
  | case6 visibility modifiers t ts _ _ first hfirst ih =>
    obtain ⟨ht, hts⟩ := List.forall_mem_cons.1 hts
    have hsame := hmodifiers first (mem_of_sameWord? hfirst)
    exact (Placed.alreadyDeclared hsame ht _ _).append (ih hvisibility hmodifiers hts)
  | case7 visibility modifiers t ts _ _ _ ih =>
    obtain ⟨ht, hts⟩ := List.forall_mem_cons.1 hts
    exact ih hvisibility (List.forall_mem_append.2 ⟨hmodifiers, by simpa using ht⟩) hts
  | case8 visibility modifiers t ts =>
    exact .unexpectedTokens fun u hu => (List.forall_mem_cons.1 hts).2 u (List.mem_filter.1 hu).1
  | case9 visibility modifiers t ts _ _ _ _ ih =>
    obtain ⟨ht, hts⟩ := List.forall_mem_cons.1 hts
    exact .cons_token ht (ih hvisibility hmodifiers hts)

theorem Line.Within.tail {line : Line} (h : line.Within ls) : ∀ t ∈ line.tail, (Line.single t).Within ls :=
  fun _ ht => h.token (List.mem_cons_of_mem _ ht)

theorem placed_checkClassShape {line : Line} (h : line.Within ls) : Placed ls (checkClassShape line) :=
  (placed_checkSpaceAfter h.tail).append (placed_checkClassWords h none [] _ (by simp) (by simp) h.tail)

theorem placed_checkOperandShape (operand : Operand) {line : Line} (h : line.Within ls) :
    Placed ls (checkOperandShape operand line) := by
  have htail := h.tail
  unfold checkOperandShape
  split
  case h_1 space value rest heq =>
    rw [heq] at htail
    obtain ⟨hspace, hvalue, hrest⟩ : (Line.single space).Within ls ∧ (Line.single value).Within ls ∧
        ∀ t ∈ rest, (Line.single t).Within ls := by simpa using htail
    refine ((placed_checkSpaceAfter (by simpa using hspace)).append ?_).append (.unexpectedTokens hrest)
    split
    · exact .nil
    · exact .token hvalue _ _
  case h_2 => exact .report h _ _

/-- The lines that the header remembers are parts of the lines. -/
structure Header.Within (ls : List Line) (h : Header) : Prop where
  top : ∀ l ∈ h.top, l.Within ls
  classLine : ∀ l ∈ h.classLine, l.Within ls
  superLine : ∀ l ∈ h.superLine, l.Within ls
  sourceLine : ∀ l ∈ h.sourceLine, l.Within ls

namespace Header

theorem within_empty : Header.empty.Within ls := by
  constructor <;> exact fun _ hl => absurd hl (by simp [empty])

theorem fill_within {place : Option Line} (hplace : ∀ l ∈ place, l.Within ls) {line : Line} (hline : line.Within ls)
    (entity : String) {shape : Line → List Diagnostic} (hshape : Placed ls (shape line)) :
    (∀ l ∈ (fill place line entity shape).1, l.Within ls) ∧ Placed ls (fill place line entity shape).2 := by
  cases place with
  | none => exact ⟨fun l hl => Option.some.inj hl ▸ hline, hshape⟩
  | some first => exact ⟨hplace, .alreadyDeclared (hplace first rfl) hline _ _⟩

theorem seeDirective_within {h : Header} (hh : h.Within ls) {line : Line} (hline : line.Within ls) :
    (h.seeDirective line).1.Within ls ∧ Placed ls (h.seeDirective line).2 := by
  unfold seeDirective
  split
  · exact ⟨hh, .nil⟩
  · obtain ⟨hplace, hfound⟩ := fill_within hh.classLine hline "Class" (placed_checkClassShape hline)
    exact ⟨{ hh with classLine := hplace }, hfound⟩
  · obtain ⟨hplace, hfound⟩ := fill_within hh.superLine hline "Super" (placed_checkOperandShape classOperand hline)
    exact ⟨{ hh with superLine := hplace }, hfound⟩
  · obtain ⟨hplace, hfound⟩ := fill_within hh.sourceLine hline "Source" (placed_checkOperandShape stringOperand hline)
    exact ⟨{ hh with sourceLine := hplace }, hfound⟩
  · exact ⟨hh, placed_checkOperandShape classOperand hline⟩

theorem seeLine_within {h : Header} (hh : h.Within ls) {line : Line} (hline : line.Within ls) :
    (h.seeLine line).1.Within ls ∧ Placed ls (h.seeLine line).2 := by
  obtain ⟨hnext, hfound⟩ := seeDirective_within hh hline
  refine ⟨{ hnext with top := fun l hl => ?_ }, hfound⟩
  cases htop : (h.seeDirective line).1.top with
  | none =>
    have hl : l ∈ ((h.seeDirective line).1.top <|> some line) := hl
    rw [htop] at hl
    exact Option.some.inj hl ▸ hline
  | some top =>
    have hl : l ∈ ((h.seeDirective line).1.top <|> some line) := hl
    rw [htop] at hl
    exact hnext.top l (htop.trans hl)

theorem seeToken_within {h : Header} (hh : h.Within ls) (t : Token) : (h.seeToken t).Within ls :=
  ⟨hh.top, hh.classLine, hh.superLine, hh.sourceLine⟩

theorem placed_missing {h : Header} (hh : h.Within ls) : Placed ls h.missing := by
  unfold missing
  split
  · exact .nil
  case h_2 top htop =>
    have hreport : ∀ message, Placed ls [top.report .error message] := fun message => .report (hh.top top htop) _ _
    refine .append ?_ ?_
    · split
      · exact hreport _
      · exact .nil
    · split
      · exact hreport _
      · exact .nil

end Header

/-! ## Declarations -/

/-- The tokens that say what a method returns are part of the lines. -/
def ReturnType.Within (ls : List Line) : ReturnType → Prop
  | .unknown => True
  | .known _ written => written.Within ls

/-- What is read off a declaration lies within the lines. -/
structure Declaration.Within (ls : List Line) (d : Declaration) : Prop where
  found : Placed ls d.found
  returnType : d.returnType.Within ls

theorem ReturnType.ofTokens_within {line : Line} (hline : line.Within ls) {brackets : List Token} {type : Token}
    (hsub : (brackets ++ [type]).Sublist line.toList) : (ofTokens brackets type).Within ls := by
  cases h : ofTokens brackets type with
  | unknown => trivial
  | known kind written =>
    refine hline.part ?_
    rw [toList_ofTokens brackets type h]
    exact hsub

namespace Declaration

theorem Within.prepend {d : Declaration} (h : d.Within ls) {ds : List Diagnostic} (hds : Placed ls ds) :
    (d.prepend ds).Within ls :=
  ⟨hds.append h.found, h.returnType⟩

/-- The brackets that were read and the tokens that are left are part of the line, in this order. -/
theorem readReturnType_within {line : Line} (hline : line.Within ls) {last : Token} (hlast : last ∈ line.toList)
    (modifiers brackets : List Token) (flagged : Bool) (ts : List Token)
    (hts : (brackets ++ ts).Sublist line.toList) :
    (readReturnType last modifiers brackets flagged ts).Within ls := by
  fun_induction readReturnType last modifiers brackets flagged ts with
  | case1 brackets flagged =>
    refine ⟨?_, trivial⟩
    cases flagged
    · exact .token (hline.token hlast) _ _
    · exact .nil
  | case2 brackets flagged t ts _ ih =>
    refine ih ?_
    rwa [List.append_assoc, List.singleton_append]
  | case3 brackets flagged t ts =>
    have hsplit : ((brackets ++ [t]) ++ ts).Sublist line.toList := by rwa [List.append_assoc, List.singleton_append]
    refine ⟨.unexpectedTokens fun u hu => hline.token ?_, ReturnType.ofTokens_within hline ?_⟩
    · exact hsplit.subset (List.mem_append_right _ (List.mem_filter.1 hu).1)
    · exact (List.sublist_append_left _ _).trans hsplit
  | case4 brackets flagged t ts _ _ ih =>
    have hrest := ih ((List.Sublist.append_left (List.sublist_cons_self t ts) brackets).trans hts)
    exact hrest.prepend (.token (hline.token (hts.subset (by simp))) _ _)

theorem readParameters_within {line : Line} (hline : line.Within ls) {last : Token} (hlast : last ∈ line.toList)
    (modifiers : List Token) (flagged : Bool) (ts : List Token) (hts : ts.Sublist line.toList) :
    (readParameters last modifiers flagged ts).Within ls := by
  fun_induction readParameters last modifiers flagged ts with
  | case1 flagged =>
    refine ⟨?_, trivial⟩
    cases flagged
    · exact .token (hline.token hlast) _ _
    · exact .nil
  | case2 flagged t ts => exact readReturnType_within hline hlast _ _ _ _ (List.sublist_of_cons_sublist hts)
  | case3 flagged t ts _ _ ih => exact ih (List.sublist_of_cons_sublist hts)
  | case4 flagged t ts _ _ ih =>
    exact (ih (List.sublist_of_cons_sublist hts)).prepend (.token (hline.token (hts.subset List.mem_cons_self)) _ _)

theorem placed_checkName {modifiers : List Token} (hmodifiers : ∀ m ∈ modifiers, (Line.single m).Within ls)
    {nameToken : Token} (hname : (Line.single nameToken).Within ls) : Placed ls (checkName modifiers nameToken) := by
  have hword : ∀ {word : String} {m : Token}, modifiers.find? (·.reads word) = some m → (Line.single m).Within ls :=
    fun h => hmodifiers _ (List.mem_of_find?_eq_some h)
  fun_cases checkName modifiers nameToken with
  | case1 => exact .nil
  | case2 name constructor static hstatic hconstructor =>
    exact .cons_token (hword hconstructor) (.cons_token (hword hstatic) (.token hname _ _))
  | case3 => exact .nil
  | case4 name constructor _ hconstructor => exact .cons_token (hword hconstructor) (.token hname _ _)
  | case5 => exact .token hname _ _
  | case6 => exact .token hname _ _
  | case7 => exact .nil

theorem readModifiers_within {line : Line} (hline : line.Within ls) (visibility : Option Token) (modifiers : List Token)
    (afterSpace : Bool) (ts : List Token) (hvisibility : ∀ v ∈ visibility, (Line.single v).Within ls)
    (hmodifiers : ∀ m ∈ modifiers, (Line.single m).Within ls) (hts : ts.Sublist line.toList) :
    (readModifiers line visibility modifiers afterSpace ts).Within ls := by
  have hgap : ∀ (afterSpace : Bool) {t : Token}, (Line.single t).Within ls →
      Placed ls (if afterSpace then [] else [t.report .error "Space expected."]) := by
    intro afterSpace t ht
    cases afterSpace
    · exact .token ht _ _
    · exact .nil
  fun_induction readModifiers line visibility modifiers afterSpace ts with
  | case1 => exact ⟨.report hline _ _, trivial⟩
  | case2 visibility modifiers afterSpace t ts _ ih =>
    have ht := hline.token (hts.subset List.mem_cons_self)
    refine (ih hvisibility hmodifiers (List.sublist_of_cons_sublist hts)).prepend ?_
    split
    · exact .nil
    · exact .token ht _ _
  | case3 modifiers afterSpace t ts _ gap _ first ih =>
    have ht := hline.token (hts.subset List.mem_cons_self)
    refine (ih hvisibility hmodifiers (List.sublist_of_cons_sublist hts)).prepend ?_
    exact (hgap afterSpace ht).append (.alreadyDeclared (hvisibility first rfl) ht _ _)
  | case4 modifiers afterSpace t ts _ gap _ ih =>
    have ht := hline.token (hts.subset List.mem_cons_self)
    have hfirst : ∀ v ∈ some t, (Line.single v).Within ls := fun v hv => Option.some.inj hv ▸ ht
    exact (ih hfirst hmodifiers (List.sublist_of_cons_sublist hts)).prepend (hgap afterSpace ht)
  | case5 visibility modifiers afterSpace t ts _ gap _ first hfirst ih =>
    have ht := hline.token (hts.subset List.mem_cons_self)
    have hsame := hmodifiers first (mem_of_sameWord? hfirst)
    refine (ih hvisibility hmodifiers (List.sublist_of_cons_sublist hts)).prepend ?_
    exact (hgap afterSpace ht).append (.alreadyDeclared hsame ht _ _)
  | case6 visibility modifiers afterSpace t ts _ gap _ _ ih =>
    have ht := hline.token (hts.subset List.mem_cons_self)
    have hall : ∀ m ∈ modifiers ++ [t], (Line.single m).Within ls :=
      List.forall_mem_append.2 ⟨hmodifiers, by simpa using ht⟩
    exact (ih hvisibility hall (List.sublist_of_cons_sublist hts)).prepend (hgap afterSpace ht)
  | case7 visibility modifiers afterSpace t ts _ gap =>
    have ht := hline.token (hts.subset List.mem_cons_self)
    have hrest := readParameters_within hline line.last_mem modifiers false ts (List.sublist_of_cons_sublist hts)
    exact hrest.prepend ((hgap afterSpace ht).append (placed_checkName hmodifiers ht))
  | case8 visibility modifiers afterSpace t ts _ gap _ _ _ ih =>
    have ht := hline.token (hts.subset List.mem_cons_self)
    refine (ih hvisibility hmodifiers (List.sublist_of_cons_sublist hts)).prepend ?_
    exact (hgap afterSpace ht).append (.token ht _ _)

theorem ofLine_within {line : Line} (h : line.Within ls) : (ofLine line).Within ls :=
  readModifiers_within h none [] false _ (by simp) (by simp) (List.sublist_cons_self _ _)

end Declaration

/-! ## Method blocks -/

/-- The line that has opened or ended the block, and the return type of the method, lie within the lines. -/
def Block.Within (ls : List Line) : Block → Prop
  | .before => True
  | .inside method => method.line.Within ls ∧ method.returnType.Within ls
  | .after line => line.Within ls

structure Methods.Within (ls : List Line) (m : Methods) : Prop where
  block : m.block.Within ls
  staticConstructor : ∀ l ∈ m.staticConstructor, l.Within ls
  instanceConstructor : ∀ l ∈ m.instanceConstructor, l.Within ls

theorem placed_checkReturn {declared : ReturnType} (h : declared.Within ls) {t : Token}
    (ht : (Line.single t).Within ls) : Placed ls (checkReturn declared t) := by
  unfold checkReturn
  split
  · exact .token ht _ _
  · split
    · exact .nil
    · split
      · exact .nil
      · exact (Placed.report h _ _).append (.token ht _ _)

namespace Methods

theorem within_empty : Methods.empty.Within ls := by
  refine ⟨trivial, ?_, ?_⟩ <;> exact fun _ hl => absurd hl (by simp [empty])

theorem seeToken_within {m : Methods} (hm : m.Within ls) {t : Token} (ht : (Line.single t).Within ls) :
    (m.seeToken t).1.Within ls ∧ Placed ls (m.seeToken t).2 := by
  unfold seeToken
  split
  case h_1 method hblock =>
    have hinside : (Block.inside method).Within ls := hblock ▸ hm.block
    split
    · exact ⟨{ hm with block := hinside }, placed_checkReturn hinside.2 ht⟩
    · exact ⟨hm, .nil⟩
  case h_2 => exact ⟨hm, .nil⟩

theorem addConstructor_within {m : Methods} (hm : m.Within ls) {line : Line} (hline : line.Within ls) (d : Declaration) :
    (m.addConstructor line d).1.Within ls ∧ Placed ls (m.addConstructor line d).2 := by
  have hnew : ∀ l ∈ some line, l.Within ls := fun l hl => Option.some.inj hl ▸ hline
  unfold addConstructor
  split
  · exact ⟨hm, .nil⟩
  · split
    · split
      case h_1 first hfirst => exact ⟨hm, .alreadyDeclared (hm.staticConstructor first hfirst) hline _ _⟩
      case h_2 => exact ⟨{ hm with staticConstructor := hnew }, .nil⟩
    · split
      case h_1 first hfirst => exact ⟨hm, .alreadyDeclared (hm.instanceConstructor first hfirst) hline _ _⟩
      case h_2 => exact ⟨{ hm with instanceConstructor := hnew }, .nil⟩

theorem openBlock_within {m : Methods} (hm : m.Within ls) {line : Line} (hline : line.Within ls) :
    (m.openBlock line).1.Within ls ∧ Placed ls (m.openBlock line).2 := by
  have hd := Declaration.ofLine_within hline
  obtain ⟨hnext, hfound⟩ := addConstructor_within hm hline (Declaration.ofLine line)
  refine ⟨{ hnext with block := ⟨hline, hd.returnType⟩ }, ?_⟩
  unfold openBlock
  dsimp only
  split
  case h_1 method hblock =>
    have hinside : (Block.inside method).Within ls := hblock ▸ hm.block
    exact (Placed.report hinside.1 _ _).append (.report hline _ _)
  case h_2 => exact hd.found.append hfound

theorem closeBlock_within {m : Methods} (hm : m.Within ls) {line : Line} (hline : line.Within ls) :
    (m.closeBlock line).1.Within ls ∧ Placed ls (m.closeBlock line).2 := by
  unfold closeBlock
  split
  case h_1 => exact ⟨hm, .report hline _ _⟩
  case h_2 ended hblock =>
    have hended : (Block.after ended).Within ls := hblock ▸ hm.block
    exact ⟨hm, (Placed.report hended _ _).append (.report hline _ _)⟩
  case h_3 method hblock =>
    have hinside : (Block.inside method).Within ls := hblock ▸ hm.block
    refine ⟨{ hm with block := hline }, ?_⟩
    split
    · exact .report hinside.1 _ _
    · exact .nil

theorem seeLine_within {m : Methods} (hm : m.Within ls) {line : Line} (hline : line.Within ls) :
    (m.seeLine line).1.Within ls ∧ Placed ls (m.seeLine line).2 := by
  unfold seeLine
  split
  · exact ⟨hm, .nil⟩
  · split
    · exact openBlock_within hm hline
    · exact closeBlock_within hm hline

end Methods

/-! ## Runs -/

/-- Everything that the check remembers lies within the lines. -/
def Check.Within (ls : List Line) : Check → Prop
  | .header h => h.Within ls
  | .method m => m.Within ls

/-- What is shown lies within the lines. -/
def Signal.Within (ls : List Line) : Signal → Prop
  | .line l => l.Within ls
  | .token t => (Line.single t).Within ls
  | .finish => True

theorem Check.within_ofRule (r : Rule) : (ofRule r).Within ls := by
  cases r with
  | header => exact Header.within_empty
  | method => exact Methods.within_empty

/-- **A step that is shown something of the lines** remembers and reports parts of them only. -/
theorem Check.step_within {c : Check} (hc : c.Within ls) {s : Signal} (hs : s.Within ls) :
    (c.step s).1.Within ls ∧ Placed ls (c.step s).2 := by
  cases c with
  | header h =>
    cases s with
    | line l => exact Header.seeLine_within hc hs
    | token t => exact ⟨Header.seeToken_within hc t, .nil⟩
    | finish => exact ⟨hc, Header.placed_missing hc⟩
  | method m =>
    cases s with
    | line l => exact Methods.seeLine_within hc hs
    | token t => exact Methods.seeToken_within hc hs
    | finish => exact ⟨hc, .nil⟩

theorem placed_run {checks : List Check} (hchecks : ∀ c ∈ checks, c.Within ls) {ss : List Signal}
    (hss : ∀ s ∈ ss, s.Within ls) : Placed ls (findings (run checks ss)) := by
  induction ss generalizing checks with
  | nil => exact .nil
  | cons s ss ih =>
    obtain ⟨hs, hss⟩ := List.forall_mem_cons.1 hss
    rw [findings_run_cons]
    refine .append (fun d hd => ?_) (ih (fun c hc => ?_) hss)
    · obtain ⟨c, hc, hfound⟩ := List.mem_flatMap.1 hd
      exact (Check.step_within (hchecks c hc) hs).2 d hfound
    · obtain ⟨b, hb, rfl⟩ := List.mem_map.1 hc
      exact (Check.step_within (hchecks b hb) hs).1

theorem schedule_within {l : Line} (hl : l ∈ ls) : ∀ s ∈ l.schedule, s.Within ls := by
  have hline := Line.within_of_mem hl
  refine List.forall_mem_append.2 ⟨fun s hs => ?_, fun s hs => List.mem_singleton.1 hs ▸ hline⟩
  obtain ⟨t, ht, rfl⟩ := List.mem_map.1 hs
  exact hline.token (List.mem_filter.1 ht).1

/-- **All that is found in a text lies on its lines.** -/
theorem placed_findings (rules : List Rule) (s : Text) :
    Placed (logicalLines (tokenize s)) (findings (trace rules s)) := by
  rw [trace, findings_run_eq_readLines, readLines_eq_findings]
  refine placed_run (fun c hc => ?_) (List.forall_mem_append.2 ⟨fun x hx => ?_, by simp [Signal.Within]⟩)
  · obtain ⟨r, -, rfl⟩ := List.mem_map.1 hc
    exact Check.within_ofRule r
  · obtain ⟨l, hl, hx⟩ := List.mem_flatMap.1 hx
    exact schedule_within hl x hx

/-! ## What a span covers -/

/-- The span runs over `covered` in the text, with its two ends stamped in code points. -/
structure Span.Covers (s before covered after : Text) (span : Span) : Prop where
  text : s = before ++ covered ++ after
  start : span.start = .ofOffset .utf32 s before.length
  stop : span.stop = .ofOffset .utf32 s (before.length + covered.length)

namespace Span.Covers

variable {s before covered after : Text} {span : Span} (h : span.Covers s before covered after)
include h

theorem length_le : before.length + covered.length ≤ s.length := by
  rw [h.text, List.length_append, List.length_append]
  omega

theorem start_offset : span.start.offset = before.length := by
  have hle := h.length_le
  rw [h.start, Position.offset_ofOffset (by omega)]

theorem stop_offset : span.stop.offset = ↑(before.length + covered.length) := by
  rw [h.stop]
  exact Position.offset_ofOffset h.length_le

end Span.Covers

/-- From the first token of a stretch to its last one. -/
theorem covers_stretch {s : Text} {ts us vs : List Token} {a b : Token} (h : tokenize s = ts ++ us ++ vs)
    (ha : us.head? = some a) (hb : us.getLast? = some b) :
    Span.Covers s (Token.texts ts) (Token.texts us) (Token.texts vs) ⟨a.span.start, b.span.stop⟩ := by
  have happend : ∀ xs ys, Token.texts (xs ++ ys) = Token.texts xs ++ Token.texts ys := fun _ _ => List.flatMap_append
  obtain ⟨rest, hfirst⟩ := List.head?_eq_some_iff.1 ha
  obtain ⟨init, hlast⟩ := List.getLast?_eq_some_iff.1 hb
  have hstart := (tokenize_split (h.trans (by rw [hfirst, List.append_assoc, List.cons_append]))).start
  have hsplit : tokenize s = (ts ++ init) ++ b :: vs := by
    rw [h, hlast, List.append_assoc, List.append_assoc, List.singleton_append, List.append_assoc]
  have hstop := (tokenize_split hsplit).stop
  have hlen : (Token.texts (ts ++ init)).length + b.content.length =
      (Token.texts ts).length + (Token.texts us).length := by
    rw [hlast, happend, happend, List.length_append, List.length_append, Nat.add_assoc]
    simp [Token.texts]
  refine ⟨?_, hstart, ?_⟩
  · have htexts : Token.texts (tokenize s) = s := (texts_place _ _ _).trans (texts_lexemes s)
    rw [← happend, ← happend, ← h, htexts]
  · show b.span.stop = _
    rw [hstop]
    congr 1
    exact_mod_cast hlen

/-- Some tokens of a list, in their order, have their first and their last one at the ends of a stretch of it. -/
theorem exists_stretch {part : Line} {all : List Token} (h : part.toList.Sublist all) :
    ∃ ts us vs, all = ts ++ us ++ vs ∧ us.head? = some part.head ∧ us.getLast? = some part.last := by
  obtain ⟨front, back, rfl, hhead, htail⟩ := List.cons_sublist_iff.1 h
  obtain ⟨ts, mid, rfl⟩ := List.append_of_mem hhead
  cases hlast : part.tail.getLast? with
  | none =>
    refine ⟨ts, [part.head], mid ++ back, by simp, rfl, ?_⟩
    rw [Line.last, List.getLastD_eq_getLast?, hlast]
    rfl
  | some b =>
    obtain ⟨more, vs, rfl⟩ := List.append_of_mem (htail.subset (List.mem_of_getLast? hlast))
    refine ⟨ts, part.head :: (mid ++ more ++ [b]), vs, by simp, rfl, ?_⟩
    rw [Line.last, List.getLastD_eq_getLast?, hlast, ← List.cons_append, List.getLast?_concat]
    rfl

theorem sublist_of_mem_logicalLines {ts : List Token} {l : Line} (h : l ∈ logicalLines ts) : l.toList.Sublist ts := by
  obtain ⟨piece, hstretch, -, htrim⟩ := exists_piece h
  rw [← htrim]
  exact (trim_sublist piece).trans hstretch.sublist

/-- **Every diagnostic covers a stretch of the text.** -/
theorem exists_covers {rules : List Rule} {s : Text} {d : Diagnostic} (hd : d ∈ findings (trace rules s)) :
    ∃ before covered after, d.span.Covers s before covered after := by
  obtain ⟨part, ⟨l, hl, hpart⟩, hspan⟩ := placed_findings rules s d hd
  obtain ⟨ts, us, vs, hall, hfirst, hlast⟩ := exists_stretch (hpart.trans (sublist_of_mem_logicalLines hl))
  rw [hspan]
  exact ⟨_, _, _, covers_stretch hall hfirst hlast⟩

end SmaliLint
