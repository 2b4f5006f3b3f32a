import SmaliLint.Proofs.Access.Checks
import SmaliLint.Proofs.Position.LineIndex
import SmaliLint.Proofs.Validation.Severity

/-!
# Validation does not fail

The checks over plain lists do what the checks over lines do, and find everything they ask for. A state over lines is
turned into one over lists by forgetting that the lines have a first token (`plain`). Each function over lists, at such
a state, succeeds and gives what the function over lines gives; a step stays among such states, and so does a run.

* `Header.plain`, `Methods.plain`, `Check.plain`, `Signal.plain`, `Event.plain` : forgetting;
* `Access.step_plain`, `Access.run_plain` : a step and a run;
* `Access.signals_eq` : the assembler hands out lines with a first token only;
* `Access.tokenize_eq_ok`, `Access.select_eq` : tokens and rules;
* `Access.validate_eq_bind` : the rules are all that can be missing;
* `validation_never_faults` : validation fails for unknown rules, and for nothing else.
-/

namespace SmaliLint

/-! ## Forgetting that lines are not empty -/

def ReturnType.plain : ReturnType → Access.ReturnType
  | .unknown => .unknown
  | .known kind written => ⟨some kind, written.toList⟩

def Declaration.plain (d : Declaration) : Access.Declaration := ⟨d.found, d.returnType.plain, d.modifiers⟩

def Header.plain (h : Header) : Access.Header :=
  ⟨h.top.map Line.toList, h.classLine.map Line.toList, h.superLine.map Line.toList, h.sourceLine.map Line.toList,
    h.last, h.blank⟩

def Block.plain : Block → Option Access.Method
  | .before => none
  | .inside method => some ⟨true, method.line.toList, method.returnType.plain, method.sawReturn, method.hasBody⟩
  | .after line => some (.ended line.toList)

def Methods.plain (m : Methods) : Access.Methods :=
  ⟨m.block.plain, m.staticConstructor.map Line.toList, m.instanceConstructor.map Line.toList⟩

def Check.plain : Check → Access.Check
  | .header h => .header h.plain
  | .method m => .method m.plain

def Signal.plain : Signal → Access.Signal
  | .line l => .line l.toList
  | .token t => .token t
  | .finish => .finish

def Event.plain (e : Event) : Access.Event := ⟨e.signal.plain, e.check.plain, e.found⟩

namespace Access

/-! ## Asking where there is an answer -/

@[simp] theorem ok_bind {ε α β : Type} (x : α) (f : α → Except ε β) : (Except.ok x >>= f) = f x := rfl

@[simp] theorem pure_ok {ε α : Type} (x : α) : (pure x : Except ε α) = .ok x := rfl

theorem item_ofNat {α : Type} {xs : List α} {n : Nat} (h : n < xs.length) : item xs (n : Int) = .ok xs[n] := by
  change orFault .noItem xs[n]? = _
  rw [List.getElem?_eq_getElem h]
  rfl

theorem item_head (l : Line) : item l.toList 0 = .ok l.head := rfl

theorem item_last (l : Line) : item l.toList (-1) = .ok l.last := by
  change orFault .noItem l.toList.reverse[0]? = _
  rw [← List.head?_eq_getElem?, List.head?_reverse, Line.toList, List.getLast?_cons, Line.last,
    List.getLastD_eq_getLast?]
  rfl

theorem entry_eq_ok {modifiers : List Token} {t first : Token} (h : sameWord? modifiers t = some first) :
    entry modifiers t.content = .ok first := by
  rw [entry, ← sameWord?, h]
  rfl

theorem holds_eq (modifiers : List Token) (t : Token) : holds modifiers t.content = (sameWord? modifiers t).isSome := by
  rw [holds, sameWord?, List.isSome_find?]

@[simp] theorem report_toList (l : Line) (severity : Severity) (message : String) :
    report l.toList severity message = .ok (l.report severity message) := by
  rw [report, item_head, ok_bind, item_last]
  rfl

@[simp] theorem alreadyDeclared_toList (first second : Line) (entity verb : String) :
    alreadyDeclared first.toList second.toList entity verb =
      .ok (SmaliLint.alreadyDeclared first second entity verb) := by
  simp only [alreadyDeclared, report_toList]
  rfl

@[simp] theorem alreadyDeclared_single (first second : Token) (entity verb : String) :
    alreadyDeclared [first] [second] entity verb =
      .ok (SmaliLint.alreadyDeclared (.single first) (.single second) entity verb) :=
  alreadyDeclared_toList (.single first) (.single second) entity verb

@[simp] theorem reportIf_toList (condition : Bool) (l : Line) (severity : Severity) (message : String) :
    reportIf condition l.toList severity message = .ok (if condition then [l.report severity message] else []) := by
  cases condition with
  | false => rfl
  | true => simp only [reportIf, report_toList]; rfl

/-! ## The class header -/

theorem checkClassWords_toList (line : Line) (visibility : Option Token) (modifiers ts : List Token) :
    checkClassWords line.toList visibility modifiers ts =
      .ok (SmaliLint.checkClassWords line visibility modifiers ts) := by
  fun_induction SmaliLint.checkClassWords line visibility modifiers ts with
  | case1 => simp [checkClassWords]
  | case2 _ _ t ts hkind ih => simp [checkClassWords, hkind, ih]
  | case3 _ t ts hkind first ih => simp [checkClassWords, hkind, ih]
  | case4 _ t ts hkind ih => simp [checkClassWords, hkind, ih]
  | case5 _ _ t ts hkind hstatic ih => simp [checkClassWords, hkind, hstatic, ih]
  | case6 _ _ t ts hkind hstatic first hfirst ih =>
    simp [checkClassWords, hkind, hstatic, holds_eq, hfirst, entry_eq_ok hfirst, ih]
  | case7 _ _ t ts hkind hstatic hnew ih => simp [checkClassWords, hkind, hstatic, holds_eq, hnew, ih]
  | case8 _ _ t ts hkind => simp [checkClassWords, hkind]
  | case9 _ _ t ts _ _ _ _ ih => simp [checkClassWords, ih]

theorem checkClassShape_toList (line : Line) : checkClassShape line.toList = .ok (SmaliLint.checkClassShape line) := by
  have htail : line.toList.drop 1 = line.tail := rfl
  rw [checkClassShape, htail, checkClassWords_toList]
  rfl

theorem checkOperandShape_toList (operand : Operand) (line : Line) :
    checkOperandShape operand line.toList = .ok (SmaliLint.checkOperandShape operand line) := by
  rw [checkOperandShape, item_head, ok_bind]
  obtain ⟨head, tail⟩ := line
  match tail with
  | [] => rfl
  | [space] => rfl
  | space :: value :: rest => rw [if_neg (by simp [Line.toList])]; rfl

namespace Header

theorem fill_toList (place : Option Line) (line : Line) (entity : String)
    {shape : List Token → Except Fault (List Diagnostic)} {lineShape : Line → List Diagnostic}
    (hshape : shape line.toList = .ok (lineShape line)) :
    fill (place.map Line.toList) line.toList entity shape =
      .ok ((SmaliLint.Header.fill place line entity lineShape).1.map Line.toList,
        (SmaliLint.Header.fill place line entity lineShape).2) := by
  cases place with
  | none => rw [Option.map_none, fill, hshape]; rfl
  | some first => rw [Option.map_some, fill, alreadyDeclared_toList]; rfl

theorem seeDirective_plain (h : SmaliLint.Header) (line : Line) :
    seeDirective h.plain line.toList = .ok ((h.seeDirective line).1.plain, (h.seeDirective line).2) := by
  have hdirective : (Line.single line.head).headerDirective? = line.headerDirective? := rfl
  rw [seeDirective, item_head, ok_bind, hdirective, SmaliLint.Header.seeDirective]
  cases line.headerDirective? with
  | none => rfl
  | some directive =>
    cases directive with
    | class_ =>
      have hfill := fill_toList h.classLine line "Class" (checkClassShape_toList line)
      simp only [SmaliLint.Header.plain, hfill]
      rfl
    | super =>
      have hfill := fill_toList h.superLine line "Super" (checkOperandShape_toList classOperand line)
      simp only [SmaliLint.Header.plain, hfill]
      rfl
    | source =>
      have hfill := fill_toList h.sourceLine line "Source" (checkOperandShape_toList stringOperand line)
      simp only [SmaliLint.Header.plain, hfill]
      rfl
    | implements =>
      simp only [checkOperandShape_toList]
      rfl

theorem seeLine_plain (h : SmaliLint.Header) (line : Line) :
    seeLine h.plain line.toList = .ok ((h.seeLine line).1.plain, (h.seeLine line).2) := by
  rw [seeLine, seeDirective_plain, ok_bind, SmaliLint.Header.seeLine]
  cases htop : (h.seeDirective line).1.top <;> simp [SmaliLint.Header.plain, htop]

theorem missing_plain (h : SmaliLint.Header) : missing h.plain = .ok h.missing := by
  obtain ⟨top, classLine, superLine, sourceLine, last, blank⟩ := h
  cases top with
  | none => rfl
  | some top => simp [missing, SmaliLint.Header.missing, SmaliLint.Header.plain]

end Header

/-! ## Method declarations -/

theorem ofTokens_plain (brackets : List Token) (type : Token) :
    ReturnType.ofTokens brackets type = (SmaliLint.ReturnType.ofTokens brackets type).plain := by
  cases brackets with
  | nil =>
    unfold ReturnType.ofTokens SmaliLint.ReturnType.ofTokens
    by_cases hclass : type.kind = .classType
    · simp [hclass, SmaliLint.ReturnType.plain, Line.single, Line.toList]
    · by_cases hvoid : type.reads "V" <;> simp [hclass, hvoid, SmaliLint.ReturnType.plain, Line.single, Line.toList]
  | cons b bs => rfl

namespace Declaration

theorem prepend_plain (ds : List Diagnostic) (d : SmaliLint.Declaration) :
    prepend ds d.plain = (d.prepend ds).plain := rfl

theorem broken_toList (line : Line) (modifiers : List Token) (flagged : Bool) (message : String) :
    broken line.toList modifiers flagged message =
      .ok ⟨if flagged then [] else [line.last.report .error message], .unknown, modifiers⟩ := by
  cases flagged <;> simp [broken, item_last]

theorem readReturnType_toList (line : Line) (modifiers brackets : List Token) (flagged : Bool) (ts : List Token) :
    readReturnType line.toList modifiers brackets flagged ts =
      .ok (SmaliLint.Declaration.readReturnType line.last modifiers brackets flagged ts).plain := by
  fun_induction SmaliLint.Declaration.readReturnType line.last modifiers brackets flagged ts with
  | case1 => rw [readReturnType, broken_toList]; rfl
  | case2 brackets flagged t ts hbracket ih => rw [readReturnType, if_pos hbracket, ih]
  | case3 brackets flagged t ts hbracket htype =>
    rw [readReturnType, if_neg hbracket, if_pos htype, ofTokens_plain]
    rfl
  | case4 brackets flagged t ts hbracket htype ih =>
    rw [readReturnType, if_neg hbracket, if_neg htype, ih]
    rfl

theorem readParameters_toList (line : Line) (modifiers : List Token) (flagged : Bool) (ts : List Token) :
    readParameters line.toList modifiers flagged ts =
      .ok (SmaliLint.Declaration.readParameters line.last modifiers flagged ts).plain := by
  fun_induction SmaliLint.Declaration.readParameters line.last modifiers flagged ts with
  | case1 => rw [readParameters, broken_toList]; rfl
  | case2 flagged t ts hclose => rw [readParameters, if_pos hclose, readReturnType_toList]
  | case3 flagged t ts hclose htype ih => rw [readParameters, if_neg hclose, if_pos htype, ih]
  | case4 flagged t ts hclose htype ih =>
    rw [readParameters, if_neg hclose, if_neg htype, ih]
    rfl

theorem readModifiers_toList (line : Line) (visibility : Option Token) (modifiers : List Token) (afterSpace : Bool)
    (ts : List Token) :
    readModifiers line.toList visibility modifiers afterSpace ts =
      .ok (SmaliLint.Declaration.readModifiers line visibility modifiers afterSpace ts).plain := by
  fun_induction SmaliLint.Declaration.readModifiers line visibility modifiers afterSpace ts with
  | case1 => rw [readModifiers, report_toList]; rfl
  | case2 _ _ _ t ts hspace ih => simp [readModifiers, hspace, ih, prepend_plain]
  | case3 _ _ t ts hspace gap hkind first ih => simp [readModifiers, hkind, ih, prepend_plain, gap]
  | case4 _ _ t ts hspace gap hkind ih => simp [readModifiers, hkind, ih, prepend_plain, gap]
  | case5 _ _ _ t ts hspace gap hkind first hfirst ih =>
    simp [readModifiers, hkind, holds_eq, hfirst, entry_eq_ok hfirst, ih, prepend_plain, gap]
  | case6 _ _ _ t ts hspace gap hkind hnew ih => simp [readModifiers, hkind, holds_eq, hnew, ih, prepend_plain, gap]
  | case7 _ _ _ t ts hspace gap hkind => simp [readModifiers, hkind, readParameters_toList, prepend_plain, gap]
  | case8 _ _ _ t ts hspace gap _ _ _ ih => simp [readModifiers, hspace, ih, prepend_plain, gap]

theorem ofLine_toList (line : Line) : ofLine line.toList = .ok (SmaliLint.Declaration.ofLine line).plain :=
  readModifiers_toList line none [] false line.tail

theorem has_plain (d : SmaliLint.Declaration) (name : String) : has d.plain name = d.has name := rfl

end Declaration

/-! ## Method blocks -/

theorem checkReturn_plain (declared : SmaliLint.ReturnType) (t : Token) :
    checkReturn declared.plain t = .ok (SmaliLint.checkReturn declared t) := by
  cases declared with
  | unknown => rfl
  | known kind written =>
    simp only [checkReturn, SmaliLint.checkReturn, SmaliLint.ReturnType.plain]
    cases kind.instruction? with
    | none => rfl
    | some expected =>
      simp only [report_toList]
      split <;> rfl

namespace Methods

theorem seeToken_plain (m : SmaliLint.Methods) (t : Token) :
    seeToken m.plain t = .ok ((m.seeToken t).1.plain, (m.seeToken t).2) := by
  obtain ⟨block, static, instance_⟩ := m
  cases block with
  | before => rfl
  | after line => simp [seeToken, SmaliLint.Methods.seeToken, SmaliLint.Methods.plain, Block.plain, Method.ended]
  | inside method =>
    by_cases hkind : t.kind = .ret
    · simp [seeToken, SmaliLint.Methods.seeToken, SmaliLint.Methods.plain, Block.plain, hkind, checkReturn_plain]
    · simp [seeToken, SmaliLint.Methods.seeToken, SmaliLint.Methods.plain, Block.plain, hkind]

theorem addConstructor_plain (m : SmaliLint.Methods) (line : Line) (d : SmaliLint.Declaration) :
    addConstructor m.plain line.toList d.plain =
      .ok ((m.addConstructor line d).1.plain, (m.addConstructor line d).2) := by
  rw [addConstructor]
  fun_cases SmaliLint.Methods.addConstructor m line d
  all_goals simp [Declaration.has_plain, SmaliLint.Methods.plain, *]

theorem openBlock_plain (m : SmaliLint.Methods) (line : Line) :
    openBlock m.plain line.toList = .ok ((m.openBlock line).1.plain, (m.openBlock line).2) := by
  rw [openBlock, Declaration.ofLine_toList, ok_bind, addConstructor_plain, ok_bind]
  have hcurrent : m.plain.current = m.block.plain := rfl
  rw [hcurrent, SmaliLint.Methods.openBlock]
  cases m.block with
  | before => rfl
  | after ended => rfl
  | inside method => simp only [Block.plain, nested, report_toList]; rfl

theorem closeBlock_plain (m : SmaliLint.Methods) (line : Line) :
    closeBlock m.plain line.toList = .ok ((m.closeBlock line).1.plain, (m.closeBlock line).2) := by
  obtain ⟨block, static, instance_⟩ := m
  cases block with
  | before => simp [closeBlock, SmaliLint.Methods.closeBlock, SmaliLint.Methods.plain, Block.plain]
  | after ended =>
    simp [closeBlock, SmaliLint.Methods.closeBlock, SmaliLint.Methods.plain, Block.plain, Method.ended]
  | inside method => simp [closeBlock, SmaliLint.Methods.closeBlock, SmaliLint.Methods.plain, Block.plain]

theorem seeLine_plain (m : SmaliLint.Methods) (line : Line) :
    seeLine m.plain line.toList = .ok ((m.seeLine line).1.plain, (m.seeLine line).2) := by
  rw [seeLine, item_head, ok_bind, SmaliLint.Methods.seeLine, openBlock_plain, closeBlock_plain]
  split
  · rfl
  · split <;> rfl

end Methods

/-! ## Steps and runs -/

/-- **A step** finds what it asks for, and leaves a state of the same sort. -/
theorem step_plain (c : SmaliLint.Check) (s : SmaliLint.Signal) :
    Check.step c.plain s.plain = .ok ((c.step s).1.plain, (c.step s).2) := by
  cases c with
  | header h =>
    cases s with
    | line l => rw [SmaliLint.Check.plain, SmaliLint.Signal.plain, Check.step, Header.seeLine_plain]; rfl
    | token t => rfl
    | finish => rw [SmaliLint.Check.plain, SmaliLint.Signal.plain, Check.step, Header.missing_plain]; rfl
  | method m =>
    cases s with
    | line l => rw [SmaliLint.Check.plain, SmaliLint.Signal.plain, Check.step, Methods.seeLine_plain]; rfl
    | token t => rw [SmaliLint.Check.plain, SmaliLint.Signal.plain, Check.step, Methods.seeToken_plain]; rfl
    | finish => rfl

/-- A check takes the first token of every line it is shown. -/
theorem step_empty (c : Check) : c.step (.line []) = .error .noItem := by
  cases c with
  | header h => rfl
  | method m => rfl

theorem event_plain (c : SmaliLint.Check) (s : SmaliLint.Signal) :
    Check.event s.plain c.plain = .ok (c.event s).plain := by
  rw [Check.event, step_plain]
  rfl

theorem mapM_event_plain (s : SmaliLint.Signal) (checks : List SmaliLint.Check) :
    (checks.map SmaliLint.Check.plain).mapM (Check.event s.plain) =
      .ok ((checks.map (SmaliLint.Check.event s)).map SmaliLint.Event.plain) := by
  induction checks with
  | nil => rfl
  | cons c checks ih => simp [event_plain, ih]

/-- **A run** finds what it asks for at every step. -/
theorem run_plain (checks : List SmaliLint.Check) (ss : List SmaliLint.Signal) :
    run (checks.map SmaliLint.Check.plain) (ss.map SmaliLint.Signal.plain) =
      .ok ((SmaliLint.run checks ss).map SmaliLint.Event.plain) := by
  induction ss generalizing checks with
  | nil => rfl
  | cons s ss ih =>
    have hnext : ((checks.map (SmaliLint.Check.event s)).map SmaliLint.Event.plain).map (·.check) =
        ((checks.map (SmaliLint.Check.event s)).map (·.check)).map SmaliLint.Check.plain := by
      simp [SmaliLint.Event.plain]
    rw [List.map_cons, run, mapM_event_plain, ok_bind, hnext, ih, ok_bind, SmaliLint.run, List.map_append]
    rfl

/-! ## Signals -/

/-- A buffer gives the line that the assembler hands out, which has a first token. -/
theorem finished_eq (a : LineAssembler) : finished a.buffer.toList = a.flush.2.map Line.toList := by
  rw [finished, LineAssembler.flush]
  cases trim a.buffer.toList with
  | nil => rfl
  | cons t ts => rfl

theorem map_finished (a : LineAssembler) :
    ((finished a.buffer.toList).map Signal.line).toList =
      (a.flush.2.map SmaliLint.Signal.line).toList.map SmaliLint.Signal.plain := by
  rw [finished_eq]
  cases a.flush.2 with
  | none => rfl
  | some line => rfl

theorem signalsFrom_eq (a : LineAssembler) (ts : List Token) :
    signalsFrom a.buffer.toList ts = (SmaliLint.signalsFrom a ts).map SmaliLint.Signal.plain := by
  induction ts generalizing a with
  | nil =>
    rw [signalsFrom, SmaliLint.signalsFrom, List.map_append, map_finished]
    rfl
  | cons t ts ih =>
    rw [signalsFrom, SmaliLint.signalsFrom, LineAssembler.feed]
    by_cases hkind : t.kind = .newline
    · have hrest : signalsFrom [] ts = _ := ih .empty
      rw [if_pos hkind, if_pos hkind, List.map_append, map_finished, hrest]
      rfl
    · have hrest := ih ⟨a.buffer.push t⟩
      rw [Array.toList_push] at hrest
      rw [if_neg hkind, if_neg hkind, hrest]
      rfl

theorem signals_eq (ts : List Token) : signals ts = (SmaliLint.signals ts).map SmaliLint.Signal.plain :=
  signalsFrom_eq .empty ts

/-! ## Positions and rules -/

theorem item_starts {starts : Array Nat} {i : Nat} (hi : i < starts.size) :
    item starts.toList (i : Int) = .ok (starts.getD i 0) := by
  rw [item_ofNat (by simpa using hi), Array.getElem_toList, Array.getElem_eq_getD 0]

theorem firstAfter_eq_ok {starts : Array Nat} (o lo hi : Nat) (hhi : hi ≤ starts.size) :
    firstAfter starts.toList o lo hi = .ok (LineIndex.firstAfter starts o lo hi) := by
  fun_induction LineIndex.firstAfter starts o lo hi with
  | case1 lo hi hlt mid hmid ih =>
    have hentry : item starts.toList mid = .ok (starts.getD mid 0) := item_starts (by omega)
    rw [firstAfter, if_pos hlt]
    change (item starts.toList mid >>= _) = _
    rw [hentry, ok_bind, if_pos hmid]
    exact ih (by omega)
  | case2 lo hi hlt mid hmid ih =>
    have hentry : item starts.toList mid = .ok (starts.getD mid 0) := item_starts (by omega)
    rw [firstAfter, if_pos hlt]
    change (item starts.toList mid >>= _) = _
    rw [hentry, ok_bind, if_neg hmid]
    exact ih hhi
  | case3 lo hi hlt => rw [firstAfter, if_neg hlt]

/-- The first line starts at zero, so the search finds a line for every offset. -/
theorem position_eq_ok (s : Text) (offset : Int) :
    position (.ofText s) offset = .ok ((LineIndex.ofText s).position offset) := by
  let o := min offset.toNat (LineIndex.ofText s).size
  let line := (s.take o).count '\n'
  have hfound : LineIndex.firstAfter (LineIndex.ofText s).starts o 0 (LineIndex.ofText s).starts.size = line + 1 :=
    LineIndex.firstAfter_eq s o
  have hsize : line < (LineIndex.ofText s).starts.size := by
    have hle := (LineIndex.firstAfter_split (o := o) (LineIndex.starts_sorted s) 0 (LineIndex.ofText s).starts.size
      (Nat.zero_le _) (Nat.le_refl _) (by simp) (by omega)).1
    rw [hfound] at hle
    exact hle
  have hplace : ((line + 1 : Nat) : Int) - 1 = (line : Int) := by omega
  rw [position, firstAfter_eq_ok _ _ _ (Nat.le_refl _), ok_bind, hfound, hplace]
  change (item (LineIndex.ofText s).starts.toList line >>= _) = _
  rw [item_starts hsize, ok_bind, LineIndex.position, hfound]
  rfl

theorem place_eq_ok (s : Text) (n : Nat) (ls : List Lexeme) :
    place (.ofText s) n ls = .ok (SmaliLint.place (.ofText s) n ls) := by
  induction ls generalizing n with
  | nil => rfl
  | cons l ls ih =>
    simp only [place, position_eq_ok, ih, ok_bind]
    rfl

theorem tokenize_eq_ok (s : Text) : tokenize s = .ok (SmaliLint.tokenize s) := place_eq_ok s 0 (lexemes s)

theorem mapM_ruleOf {names : List String} (h : ∀ name ∈ names, name ∈ Rule.all.map Rule.name) :
    names.mapM ruleOf = .ok (names.filterMap Rule.ofName?) := by
  induction names with
  | nil => rfl
  | cons name names ih =>
    obtain ⟨r, -, rfl⟩ := List.mem_map.1 (h name List.mem_cons_self)
    have hrest := ih fun n hn => h n (List.mem_cons_of_mem _ hn)
    have hr : ruleOf r.name = .ok r := by rw [ruleOf, Rule.ofName?_name]; rfl
    rw [List.mapM_cons, hr, ok_bind, hrest, List.filterMap_cons, Rule.ofName?_name]
    rfl

/-- Every name that gets through is a rule's. -/
theorem select_some (names : List String) :
    select (some names) =
      if names.filter (· ∉ Rule.all.map Rule.name) = [] then .ok (names.filterMap Rule.ofName?)
      else .error (.unknownRules ⟨names.filter (· ∉ Rule.all.map Rule.name)⟩) := by
  by_cases hnone : names.filter (· ∉ Rule.all.map Rule.name) = []
  · have hknown : ∀ name ∈ names, name ∈ Rule.all.map Rule.name := fun name hname => by
      simpa using List.filter_eq_nil_iff.1 hnone name hname
    rw [if_pos hnone, select, mapM_ruleOf hknown, hnone]
    rfl
  · rw [if_neg hnone, select, if_neg (by simpa using hnone)]

theorem select_eq (names : Option (List String)) : select names = (Rule.select names).mapError .unknownRules := by
  cases names with
  | none => rfl
  | some names =>
    rw [select_some, Rule.select]
    simp only [Rule.isNone_ofName?]
    cases names.filter (· ∉ Rule.all.map Rule.name) with
    | nil => rfl
    | cons name rest => rfl

theorem trace_eq_ok (rules : List Rule) (source : Text) :
    trace rules (SmaliLint.tokenize source) = .ok ((SmaliLint.trace rules source).map SmaliLint.Event.plain) := by
  have hstart : rules.map Check.ofRule = (rules.map SmaliLint.Check.ofRule).map SmaliLint.Check.plain := by
    rw [List.map_map]
    refine List.map_congr_left fun r _ => ?_
    cases r <;> rfl
  rw [trace, hstart, signals_eq, run_plain]
  rfl

/-- The only thing asked for that may be missing is a rule. -/
theorem validate_eq_bind (source : Text) (names : Option (List String)) :
    validate source names = select names >>= fun rules => .ok (findings (SmaliLint.trace rules source)) := by
  have hfound : ∀ rules, ((SmaliLint.trace rules source).map SmaliLint.Event.plain).flatMap (·.found) =
      findings (SmaliLint.trace rules source) := fun _ => List.flatMap_map ..
  simp only [validate, tokenize_eq_ok, trace_eq_ok, ok_bind, pure_ok, hfound]

/-- Validation over plain lists gives what validation gives. -/
theorem validate_eq (source : Text) (names : Option (List String)) :
    validate source names = (SmaliLint.validate source names).mapError .unknownRules := by
  rw [validate_eq_bind, select_eq, SmaliLint.validate]
  cases Rule.select names with
  | error cause => rfl
  | ok rules => rfl

theorem select_eq_error_iff {names : Option (List String)} {fault : Fault} :
    select names = .error fault ↔
      ∃ given, names = some given ∧ (∃ name ∈ given, name ∉ Rule.all.map Rule.name) ∧
        fault = .unknownRules ⟨given.filter (· ∉ Rule.all.map Rule.name)⟩ := by
  cases names with
  | none => exact ⟨nofun, nofun⟩
  | some given =>
    have hunknown : (∃ name ∈ given, name ∉ Rule.all.map Rule.name) ↔
        given.filter (· ∉ Rule.all.map Rule.name) ≠ [] := by
      simp only [ne_eq, List.filter_eq_nil_iff, decide_eq_true_iff, Classical.not_forall, Classical.not_not,
        exists_prop]
    rw [select_some]
    split
    · next hnone =>
      refine ⟨nofun, ?_⟩
      rintro ⟨_, ⟨⟩, hname, -⟩
      exact absurd hnone (hunknown.1 hname)
    · next hsome =>
      constructor
      · rintro ⟨⟩
        exact ⟨given, rfl, hunknown.2 hsome, rfl⟩
      · rintro ⟨_, ⟨⟩, -, rfl⟩
        rfl

theorem validate_eq_error_iff {source : Text} {names : Option (List String)} {fault : Fault} :
    validate source names = .error fault ↔ select names = .error fault := by
  rw [validate_eq_bind]
  cases select names with
  | error cause => exact ⟨fun h => by cases h; rfl, fun h => by cases h; rfl⟩
  | ok rules => exact ⟨nofun, nofun⟩

theorem messageWithAvailable_eq (unknown : List String) :
    (UnknownRules.mk unknown).messageWithAvailable =
      "unknown rule(s): " ++ ", ".intercalate unknown ++ " (available: header, method)" := by
  have havailable : " (available: " ++ (", ".intercalate (Rule.all.map Rule.name) ++ ")") =
      " (available: header, method)" := by decide
  rw [UnknownRules.messageWithAvailable, String.append_assoc, String.append_assoc]
  exact congrArg ((UnknownRules.mk unknown).message ++ ·) havailable

/-! ## What is never empty -/

theorem Signal.filled_plain (s : SmaliLint.Signal) : Signal.Filled s.plain := by
  cases s with
  | line l => exact List.cons_ne_nil _ _
  | token t => trivial
  | finish => trivial

/-- What is kept in a place came from a line. -/
theorem ne_nil_of_mem_map {place : Option Line} {l : List Token} (h : l ∈ place.map Line.toList) : l ≠ [] := by
  obtain ⟨line, -, rfl⟩ := Option.map_eq_some_iff.1 h
  exact List.cons_ne_nil _ _

theorem ReturnType.tokens_ne_nil {type : SmaliLint.ReturnType} (h : type.plain.kind ≠ none) :
    type.plain.tokens ≠ [] := by
  cases type with
  | unknown => exact absurd rfl h
  | known kind written => exact List.cons_ne_nil _ _

theorem Method.filled_plain {block : Block} {method : Method} (h : method ∈ block.plain) :
    method.line ≠ [] ∧ (method.returnType.kind ≠ none → method.returnType.tokens ≠ []) := by
  cases block with
  | before => cases h
  | inside m =>
    cases h
    exact ⟨List.cons_ne_nil _ _, ReturnType.tokens_ne_nil⟩
  | after line =>
    cases h
    exact ⟨List.cons_ne_nil _ _, fun hkind => absurd rfl hkind⟩

theorem Methods.filled_plain (m : SmaliLint.Methods) : Methods.Filled m.plain :=
  ⟨fun _ h => (Method.filled_plain h).1, fun _ h => (Method.filled_plain h).2, fun _ => ne_nil_of_mem_map,
    fun _ => ne_nil_of_mem_map⟩

theorem Check.filled_plain (c : SmaliLint.Check) : Check.Filled c.plain := by
  cases c with
  | header h =>
    exact ⟨fun _ => ne_nil_of_mem_map, fun _ => ne_nil_of_mem_map, fun _ => ne_nil_of_mem_map,
      fun _ => ne_nil_of_mem_map⟩
  | method m => exact Methods.filled_plain m

end Access

/-- **Validation fails for unknown rules only.** Over plain lists, where a look at an empty line fails, validation gives
what it gives over lines, and every step of every check succeeds. It fails if and only if one of the given names is no
rule's, and then says which, in the order in which they were given. -/
theorem validation_never_faults (source : Text) (names : Option (List String)) :
    Access.validate source names = (validate source names).mapError .unknownRules ∧
      (∀ fault, Access.validate source names = .error fault ↔
        ∃ given, names = some given ∧ (∃ name ∈ given, name ∉ Rule.all.map Rule.name) ∧
          fault = .unknownRules ⟨given.filter (· ∉ Rule.all.map Rule.name)⟩) ∧
      (∀ unknown, (UnknownRules.mk unknown).messageWithAvailable =
        "unknown rule(s): " ++ ", ".intercalate unknown ++ " (available: header, method)") ∧
      (∃ ts, Access.tokenize source = .ok ts ∧ ∀ rules, ∃ events, Access.trace rules ts = .ok events ∧
        ∀ e ∈ events, e.signal.Filled ∧ e.check.Filled) ∧
      (∀ check, Access.Check.step check (.line []) = .error .noItem) ∧
      ∀ severity message, Access.report [] severity message = .error .noItem := by
  refine ⟨Access.validate_eq source names, fun fault => ?_, Access.messageWithAvailable_eq,
    ⟨tokenize source, Access.tokenize_eq_ok source, fun rules => ⟨_, Access.trace_eq_ok rules source, fun e he => ?_⟩⟩,
    Access.step_empty, fun _ _ => rfl⟩
  · rw [Access.validate_eq_error_iff, Access.select_eq_error_iff]
  · obtain ⟨event, -, rfl⟩ := List.mem_map.1 he
    exact ⟨Access.Signal.filled_plain event.signal, Access.Check.filled_plain event.check⟩

end SmaliLint
