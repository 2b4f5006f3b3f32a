import SmaliLint.Proofs.Position.Relocation
import SmaliLint.Proofs.Validation.Grouped
import SmaliLint.Proofs.Validation.LineByLine

/-!
# Validation does not look at positions

Lines are found by the kinds of tokens, and the checks copy positions from tokens to diagnostics and ask
nothing of them. So if every position in a text is replaced by another, the same lines and diagnostics come
out with their positions replaced (`logicalLines_relocate`, `readLines_relocate`). Each piece of state has a
`relocate` of its own, and each function of the checks a lemma that it commutes with it.
-/

namespace SmaliLint

variable (f : Position → Position)

/-! ## Lines and diagnostics -/

def Line.relocate (l : Line) : Line := ⟨l.head.relocate f, l.tail.map (Token.relocate f)⟩

def Diagnostic.relocate (d : Diagnostic) : Diagnostic := { d with span := d.span.relocate f }

@[simp] theorem Token.reads_relocate (t : Token) (word : String) : (t.relocate f).reads word = t.reads word := rfl

@[simp] theorem Token.report_relocate (t : Token) (severity : Severity) (message : String) :
    (t.relocate f).report severity message = (t.report severity message).relocate f := rfl

@[simp] theorem Line.head_relocate (l : Line) : (l.relocate f).head = l.head.relocate f := rfl

@[simp] theorem Line.tail_relocate (l : Line) : (l.relocate f).tail = l.tail.map (Token.relocate f) := rfl

theorem Line.toList_relocate (l : Line) : (l.relocate f).toList = l.toList.map (Token.relocate f) := rfl

@[simp] theorem Line.single_relocate (t : Token) : Line.single (t.relocate f) = (Line.single t).relocate f := rfl

@[simp] theorem Line.last_relocate (l : Line) : (l.relocate f).last = l.last.relocate f := by
  rw [Line.last, Line.last, Line.tail_relocate, Line.head_relocate, List.getLastD_map]

@[simp] theorem Line.report_relocate (l : Line) (severity : Severity) (message : String) :
    (l.relocate f).report severity message = (l.report severity message).relocate f := by
  rw [Line.report, Line.span, Line.last_relocate]
  rfl

@[simp] theorem alreadyDeclared_relocate (first second : Line) (entity verb : String) :
    alreadyDeclared (first.relocate f) (second.relocate f) entity verb =
      (alreadyDeclared first second entity verb).map (Diagnostic.relocate f) := by
  simp [alreadyDeclared]

/-! ## The lines of tokens -/

theorem trimAfter_relocate (held ts : List Token) :
    trimAfter (held.map (Token.relocate f)) (ts.map (Token.relocate f)) =
      (trimAfter held ts).map (Token.relocate f) := by
  fun_induction trimAfter held ts with
  | case1 => rfl
  | case2 held t ts hc ih => simp [trimAfter, hc, ih]
  | case3 held t ts hc hs ih =>
    rw [List.map_append] at ih
    simpa [trimAfter, hc, hs] using ih
  | case4 held t ts hc hs ih =>
    rw [List.map_nil] at ih
    simp [trimAfter, hc, hs, ih]

theorem trim_relocate (ts : List Token) : trim (ts.map (Token.relocate f)) = (trim ts).map (Token.relocate f) := by
  fun_induction trim ts with
  | case1 => rfl
  | case2 t ts h ih => simp [trim, h, ih]
  | case3 t ts h =>
    have hrest := trimAfter_relocate f [] ts
    rw [List.map_nil] at hrest
    simp [trim, h, hrest]

theorem Line.ofList?_relocate (ts : List Token) :
    Line.ofList? (ts.map (Token.relocate f)) = (Line.ofList? ts).map (Line.relocate f) := by
  cases ts <;> rfl

theorem splitOnP_relocate (ts : List Token) :
    (ts.map (Token.relocate f)).splitOnP (·.kind = .newline) =
      (ts.splitOnP (·.kind = .newline)).map (List.map (Token.relocate f)) := by
  induction ts with
  | nil => rfl
  | cons t ts ih =>
    rw [List.map_cons, List.splitOnP_cons_eq_if_modifyHead, List.splitOnP_cons_eq_if_modifyHead, ih,
      Token.relocate_kind]
    by_cases ht : t.kind = .newline
    · simp [ht]
    · cases ts.splitOnP (·.kind = .newline) <;> simp [ht]

/-- New positions in tokens are new positions in their lines. -/
theorem logicalLines_relocate (ts : List Token) :
    logicalLines (ts.map (Token.relocate f)) = (logicalLines ts).map (Line.relocate f) := by
  rw [logicalLines, logicalLines, splitOnP_relocate, List.filterMap_map, List.map_filterMap]
  congr 1
  funext piece
  rw [Function.comp_apply, trim_relocate, Line.ofList?_relocate]

/-! ## The shape of a line -/

@[simp] theorem unexpectedTokens_relocate (ts : List Token) :
    unexpectedTokens (ts.map (Token.relocate f)) = (unexpectedTokens ts).map (Diagnostic.relocate f) := by
  rw [unexpectedTokens, unexpectedTokens, List.map_map, List.map_map]
  rfl

theorem filter_relocate {p : Token → Bool} (hp : ∀ t, p (t.relocate f) = p t) (ts : List Token) :
    (ts.map (Token.relocate f)).filter p = (ts.filter p).map (Token.relocate f) := by
  rw [List.filter_map, show p ∘ Token.relocate f = p from funext hp]

theorem find?_reads_relocate (word : String) (ts : List Token) :
    (ts.map (Token.relocate f)).find? (·.reads word) = (ts.find? (·.reads word)).map (Token.relocate f) := by
  rw [List.find?_map]
  rfl

@[simp] theorem sameWord?_relocate (ts : List Token) (t : Token) :
    sameWord? (ts.map (Token.relocate f)) (t.relocate f) = (sameWord? ts t).map (Token.relocate f) := by
  rw [sameWord?, List.find?_map]
  rfl

@[simp] theorem modifierEntity_relocate (t : Token) : modifierEntity (t.relocate f) = modifierEntity t := rfl

theorem checkSpaceAfter_relocate (ts : List Token) :
    checkSpaceAfter (ts.map (Token.relocate f)) = (checkSpaceAfter ts).map (Diagnostic.relocate f) := by
  cases ts with
  | nil => rfl
  | cons t ts => by_cases ht : t.kind = .space <;> simp [checkSpaceAfter, ht]

theorem checkClassWords_relocate (line : Line) (visibility : Option Token) (modifiers ts : List Token) :
    checkClassWords (line.relocate f) (visibility.map (Token.relocate f)) (modifiers.map (Token.relocate f))
        (ts.map (Token.relocate f)) =
      (checkClassWords line visibility modifiers ts).map (Diagnostic.relocate f) := by
  fun_induction checkClassWords line visibility modifiers ts with
  | case8 visibility modifiers t ts hk =>
    simp only [List.map_cons, checkClassWords, Token.relocate_kind, hk]
    rw [filter_relocate f fun _ => rfl, unexpectedTokens_relocate]
  | case1 | case2 | case3 | case4 | case5 | case6 | case7 | case9 => simp_all [checkClassWords]

theorem checkClassShape_relocate (line : Line) :
    checkClassShape (line.relocate f) = (checkClassShape line).map (Diagnostic.relocate f) := by
  have hwords := checkClassWords_relocate f line none [] line.tail
  rw [Option.map_none, List.map_nil] at hwords
  rw [checkClassShape, checkClassShape, Line.tail_relocate, checkSpaceAfter_relocate, hwords, List.map_append]

theorem checkOperandShape_relocate (operand : Operand) (line : Line) :
    checkOperandShape operand (line.relocate f) = (checkOperandShape operand line).map (Diagnostic.relocate f) := by
  unfold checkOperandShape
  rw [Line.tail_relocate]
  match line.tail with
  | [] => simp
  | [t] => simp
  | space :: value :: rest =>
    have hspace := checkSpaceAfter_relocate f [space]
    by_cases hv : value.kind = operand.kind <;> simp_all

/-! ## The header -/

def Header.relocate (h : Header) : Header :=
  { h with
    top := h.top.map (Line.relocate f)
    classLine := h.classLine.map (Line.relocate f)
    superLine := h.superLine.map (Line.relocate f)
    sourceLine := h.sourceLine.map (Line.relocate f)
    last := h.last.map (Token.relocate f) }

namespace Header

theorem seeToken_relocate (h : Header) (t : Token) :
    (h.relocate f).seeToken (t.relocate f) = (h.seeToken t).relocate f := by
  have hnewline : (h.last.map (Token.relocate f)).any (·.kind = .newline) = h.last.any (·.kind = .newline) := by
    cases h.last <;> rfl
  have hkind : (t.relocate f).kind = t.kind := rfl
  simp only [seeToken, relocate, hnewline, hkind]
  split <;> rfl

theorem fill_relocate (place : Option Line) (line : Line) (entity : String) {shape : Line → List Diagnostic}
    (hshape : shape (line.relocate f) = (shape line).map (Diagnostic.relocate f)) :
    fill (place.map (Line.relocate f)) (line.relocate f) entity shape =
      ((fill place line entity shape).1.map (Line.relocate f),
        (fill place line entity shape).2.map (Diagnostic.relocate f)) := by
  cases place with
  | none => simp [fill, hshape]
  | some first => simp [fill]

theorem seeDirective_relocate (h : Header) (line : Line) :
    (h.relocate f).seeDirective (line.relocate f) =
      ((h.seeDirective line).1.relocate f, (h.seeDirective line).2.map (Diagnostic.relocate f)) := by
  have hdirective : (line.relocate f).headerDirective? = line.headerDirective? := rfl
  unfold seeDirective
  rw [hdirective]
  cases line.headerDirective? with
  | none => rfl
  | some d =>
    cases d with
    | class_ =>
      simp only [relocate, fill_relocate f h.classLine line "Class" (checkClassShape_relocate f line)]
    | super =>
      simp only [relocate,
        fill_relocate f h.superLine line "Super" (checkOperandShape_relocate f classOperand line)]
    | source =>
      simp only [relocate,
        fill_relocate f h.sourceLine line "Source" (checkOperandShape_relocate f stringOperand line)]
    | implements => simp only [checkOperandShape_relocate]

theorem seeLine_relocate (h : Header) (line : Line) :
    (h.relocate f).seeLine (line.relocate f) =
      ((h.seeLine line).1.relocate f, (h.seeLine line).2.map (Diagnostic.relocate f)) := by
  unfold seeLine
  rw [seeDirective_relocate]
  cases hr : h.seeDirective line with
  | mk r found => cases ht : r.top <;> simp [relocate, ht]

theorem missing_relocate (h : Header) : (h.relocate f).missing = h.missing.map (Diagnostic.relocate f) := by
  unfold missing
  cases ht : h.top with
  | none => simp [relocate, ht]
  | some top => cases hc : h.classLine <;> cases hs : h.superLine <;> simp [relocate, ht, hc, hs]

end Header

/-! ## Declarations -/

def ReturnType.relocate : ReturnType → ReturnType
  | .unknown => .unknown
  | .known kind written => .known kind (written.relocate f)

def Declaration.relocate (d : Declaration) : Declaration :=
  ⟨d.found.map (Diagnostic.relocate f), d.returnType.relocate f, d.modifiers.map (Token.relocate f)⟩

@[simp] theorem ReturnType.ofTokens_relocate (brackets : List Token) (type : Token) :
    ofTokens (brackets.map (Token.relocate f)) (type.relocate f) = (ofTokens brackets type).relocate f := by
  cases brackets with
  | cons b bs => simp [ofTokens, relocate, Line.relocate]
  | nil =>
    by_cases hk : type.kind = .classType
    · simp [ofTokens, relocate, hk]
    · by_cases hv : type.reads "V" = true <;> simp [ofTokens, relocate, hk, hv]

namespace Declaration

@[simp] theorem prepend_relocate (ds : List Diagnostic) (d : Declaration) :
    (d.prepend ds).relocate f = (d.relocate f).prepend (ds.map (Diagnostic.relocate f)) := by
  simp [prepend, relocate]

@[simp] theorem has_relocate (d : Declaration) (name : String) : (d.relocate f).has name = d.has name := by
  rw [has, has, relocate, List.any_map]
  rfl

theorem readReturnType_relocate (last : Token) (modifiers brackets : List Token) (flagged : Bool) (ts : List Token) :
    readReturnType (last.relocate f) (modifiers.map (Token.relocate f)) (brackets.map (Token.relocate f)) flagged
        (ts.map (Token.relocate f)) =
      (readReturnType last modifiers brackets flagged ts).relocate f := by
  fun_induction readReturnType last modifiers brackets flagged ts with
  | case1 brackets flagged => cases flagged <;> simp [readReturnType, relocate, ReturnType.relocate]
  | case2 brackets flagged t ts hk ih =>
    rw [List.map_append] at ih
    simpa [readReturnType, hk] using ih
  | case3 brackets flagged t ts hk hb =>
    have hrest := filter_relocate f (p := (·.kind ≠ .space)) (fun _ => rfl) ts
    simp only [List.map_cons, readReturnType, Token.relocate_kind, hk, hb, if_true, if_false, hrest,
      unexpectedTokens_relocate, ReturnType.ofTokens_relocate]
    rfl
  | case4 brackets flagged t ts hk hb ih => simp [readReturnType, hk, hb, ih]

theorem readParameters_relocate (last : Token) (modifiers : List Token) (flagged : Bool) (ts : List Token) :
    readParameters (last.relocate f) (modifiers.map (Token.relocate f)) flagged (ts.map (Token.relocate f)) =
      (readParameters last modifiers flagged ts).relocate f := by
  fun_induction readParameters last modifiers flagged ts with
  | case1 flagged => cases flagged <;> simp [readParameters, relocate, ReturnType.relocate]
  | case2 flagged t ts hk =>
    have htype := readReturnType_relocate f last modifiers [] false ts
    simpa [readParameters, hk] using htype
  | case3 flagged t ts hk hb ih => simpa [readParameters, hk, hb] using ih
  | case4 flagged t ts hk hb ih => simp [readParameters, hk, hb, ih]

theorem checkName_relocate (modifiers : List Token) (nameToken : Token) :
    checkName (modifiers.map (Token.relocate f)) (nameToken.relocate f) =
      (checkName modifiers nameToken).map (Diagnostic.relocate f) := by
  unfold checkName
  rw [find?_reads_relocate, find?_reads_relocate, Token.relocate_content]
  cases modifiers.find? (·.reads "constructor") with
  | none =>
    dsimp only [Option.map_none]
    split
    · rfl
    · split <;> rfl
  | some constructor =>
    cases modifiers.find? (·.reads "static") with
    | none =>
      dsimp only [Option.map_none, Option.map_some]
      split <;> rfl
    | some static =>
      dsimp only [Option.map_some]
      split <;> rfl

theorem readModifiers_relocate (line : Line) (visibility : Option Token) (modifiers : List Token)
    (afterSpace : Bool) (ts : List Token) :
    readModifiers (line.relocate f) (visibility.map (Token.relocate f)) (modifiers.map (Token.relocate f)) afterSpace
        (ts.map (Token.relocate f)) =
      (readModifiers line visibility modifiers afterSpace ts).relocate f := by
  have hgap : ∀ (afterSpace : Bool) (t : Token),
      (if afterSpace then [] else [(t.relocate f).report .error "Space expected."]) =
        (if afterSpace then [] else [t.report .error "Space expected."]).map (Diagnostic.relocate f) := by
    intro afterSpace t
    cases afterSpace <;> rfl
  fun_induction readModifiers line visibility modifiers afterSpace ts with
  | case1 => simp [readModifiers, relocate, ReturnType.relocate]
  | case2 visibility modifiers afterSpace t ts hk ih =>
    by_cases hs : t.reads " " = true <;> simp [readModifiers, hk, hs, ih]
  | case3 modifiers afterSpace t ts hs gap hk first ih =>
    simp only [List.map_cons, readModifiers, Token.relocate_kind, hk, reduceCtorEq, if_false, Option.map_some, hgap,
      Line.single_relocate, alreadyDeclared_relocate, ← List.map_append, prepend_relocate] at ih ⊢
    rw [ih]
  | case4 modifiers afterSpace t ts hs gap hk ih =>
    simp only [List.map_cons, readModifiers, Token.relocate_kind, hk, reduceCtorEq, if_false, Option.map_none, hgap,
      prepend_relocate]
    exact congrArg (prepend _) ih
  | case5 visibility modifiers afterSpace t ts hs gap hk first hsame ih =>
    simp only [List.map_cons, readModifiers, Token.relocate_kind, hk, reduceCtorEq, if_false, sameWord?_relocate,
      hsame, Option.map_some, hgap, Line.single_relocate, modifierEntity_relocate, alreadyDeclared_relocate,
      ← List.map_append, prepend_relocate]
    rw [ih]
  | case6 visibility modifiers afterSpace t ts hs gap hk hsame ih =>
    simp only [List.map_cons, readModifiers, Token.relocate_kind, hk, reduceCtorEq, if_false, sameWord?_relocate,
      hsame, Option.map_none, hgap, prepend_relocate]
    rw [List.map_append] at ih
    exact congrArg (prepend _) ih
  | case7 visibility modifiers afterSpace t ts hs gap hk =>
    simp only [List.map_cons, readModifiers, Token.relocate_kind, hk, reduceCtorEq, if_false, Line.last_relocate,
      hgap, checkName_relocate, ← List.map_append, prepend_relocate]
    rw [readParameters_relocate]
  | case8 visibility modifiers afterSpace t ts hs gap hv hm hn ih =>
    simp only [List.map_cons, readModifiers, Token.relocate_kind, hs, if_false, prepend_relocate]
    cases afterSpace <;> simp [ih, gap]

theorem ofLine_relocate (line : Line) : ofLine (line.relocate f) = (ofLine line).relocate f :=
  readModifiers_relocate f line none [] false line.tail

end Declaration

/-! ## Method blocks -/

def Method.relocate (m : Method) : Method :=
  { m with line := m.line.relocate f, returnType := m.returnType.relocate f }

def Block.relocate : Block → Block
  | .before => .before
  | .inside method => .inside (method.relocate f)
  | .after line => .after (line.relocate f)

def Methods.relocate (m : Methods) : Methods :=
  ⟨m.block.relocate f, m.staticConstructor.map (Line.relocate f), m.instanceConstructor.map (Line.relocate f)⟩

theorem checkReturn_relocate (declared : ReturnType) (t : Token) :
    checkReturn (declared.relocate f) (t.relocate f) = (checkReturn declared t).map (Diagnostic.relocate f) := by
  cases declared with
  | unknown => rfl
  | known kind written =>
    unfold checkReturn
    simp only [ReturnType.relocate]
    cases kind.instruction? with
    | none => rfl
    | some expected => by_cases ht : t.reads expected = true <;> simp [ht]

namespace Methods

theorem seeToken_relocate (m : Methods) (t : Token) :
    (m.relocate f).seeToken (t.relocate f) =
      ((m.seeToken t).1.relocate f, (m.seeToken t).2.map (Diagnostic.relocate f)) := by
  by_cases ht : t.kind = .ret
  · cases hb : m.block with
    | inside method =>
      simp [seeToken, relocate, Block.relocate, Method.relocate, hb, ht, checkReturn_relocate]
    | before => simp [seeToken, relocate, Block.relocate, hb]
    | after line => simp [seeToken, relocate, Block.relocate, hb]
  · rw [seeToken_of_ne_ret m ht, seeToken_of_ne_ret _ (by simpa using ht)]
    rfl

theorem addConstructor_relocate (m : Methods) (line : Line) (d : Declaration) :
    (m.relocate f).addConstructor (line.relocate f) (d.relocate f) =
      ((m.addConstructor line d).1.relocate f, (m.addConstructor line d).2.map (Diagnostic.relocate f)) := by
  unfold addConstructor
  rw [Declaration.has_relocate, Declaration.has_relocate]
  split
  · rfl
  · split
    · cases hs : m.staticConstructor <;> simp [relocate, hs]
    · cases hi : m.instanceConstructor <;> simp [relocate, hi]

theorem openBlock_relocate (m : Methods) (line : Line) :
    (m.relocate f).openBlock (line.relocate f) =
      ((m.openBlock line).1.relocate f, (m.openBlock line).2.map (Diagnostic.relocate f)) := by
  unfold openBlock
  simp only [Declaration.ofLine_relocate, addConstructor_relocate, Declaration.has_relocate]
  cases hb : m.block <;> simp [relocate, Block.relocate, Method.relocate, Declaration.relocate, hb]

theorem closeBlock_relocate (m : Methods) (line : Line) :
    (m.relocate f).closeBlock (line.relocate f) =
      ((m.closeBlock line).1.relocate f, (m.closeBlock line).2.map (Diagnostic.relocate f)) := by
  unfold closeBlock
  cases hb : m.block with
  | before => simp [relocate, Block.relocate, hb]
  | after ended => simp [relocate, Block.relocate, hb]
  | inside method =>
    by_cases hm : (method.hasBody && !method.sawReturn) = true <;>
      simp [relocate, Block.relocate, Method.relocate, hb, hm]

theorem seeLine_relocate (m : Methods) (line : Line) :
    (m.relocate f).seeLine (line.relocate f) =
      ((m.seeLine line).1.relocate f, (m.seeLine line).2.map (Diagnostic.relocate f)) := by
  unfold seeLine
  rw [Line.head_relocate, Token.relocate_kind, Token.reads_relocate]
  split
  · rfl
  · split
    · exact openBlock_relocate f m line
    · exact closeBlock_relocate f m line

end Methods

/-! ## Checks and readings -/

def Check.relocate : Check → Check
  | .header h => .header (h.relocate f)
  | .method m => .method (m.relocate f)

def Signal.relocate : Signal → Signal
  | .line l => .line (l.relocate f)
  | .token t => .token (t.relocate f)
  | .finish => .finish

/-- **A step of a check commutes with relocation.** -/
theorem Check.step_relocate (c : Check) (s : Signal) :
    (c.relocate f).step (s.relocate f) = ((c.step s).1.relocate f, (c.step s).2.map (Diagnostic.relocate f)) := by
  cases c with
  | header h =>
    cases s with
    | line l => simp only [relocate, Signal.relocate, step, Header.seeLine_relocate]
    | token t => simp only [relocate, Signal.relocate, step, Header.seeToken_relocate, List.map_nil]
    | finish => simp only [relocate, Signal.relocate, step, Header.missing_relocate]
  | method m =>
    cases s with
    | line l => simp only [relocate, Signal.relocate, step, Methods.seeLine_relocate]
    | token t => simp only [relocate, Signal.relocate, step, Methods.seeToken_relocate]
    | finish => rfl

theorem Check.ofRule_relocate (r : Rule) : (ofRule r).relocate f = ofRule r := by
  cases r <;> rfl

theorem findings_run_relocate (checks : List Check) (ss : List Signal) :
    findings (run (checks.map (Check.relocate f)) (ss.map (Signal.relocate f))) =
      (findings (run checks ss)).map (Diagnostic.relocate f) := by
  induction ss generalizing checks with
  | nil => rfl
  | cons s ss ih =>
    have hnext : (checks.map (Check.relocate f)).map (fun c => (c.step (s.relocate f)).1) =
        (checks.map fun c => (c.step s).1).map (Check.relocate f) := by
      simp [Check.step_relocate]
    rw [List.map_cons, findings_run_cons, findings_run_cons, hnext, ih, List.map_append, List.flatMap_map,
      List.map_flatMap]
    simp only [Check.step_relocate]

theorem Line.schedule_relocate (l : Line) : (l.relocate f).schedule = l.schedule.map (Signal.relocate f) := by
  rw [Line.schedule, Line.schedule, Line.toList_relocate, filter_relocate f fun _ => rfl, List.map_append,
    List.map_map, List.map_map]
  rfl

/-- **Validation does not look at positions.** New positions in the lines of a text lead to the same
diagnostics at the new positions. -/
theorem readLines_relocate (rules : List Rule) (lines : List Line) :
    Reading.readLines (rules.map Check.ofRule) (lines.map (Line.relocate f)) =
      (Reading.readLines (rules.map Check.ofRule) lines).map (Diagnostic.relocate f) := by
  have hchecks : rules.map Check.ofRule = (rules.map Check.ofRule).map (Check.relocate f) := by
    rw [List.map_map]
    exact List.map_congr_left fun r _ => (Check.ofRule_relocate f r).symm
  have hsignals : (lines.map (Line.relocate f)).flatMap Line.schedule ++ [.finish] =
      (lines.flatMap Line.schedule ++ [Signal.finish]).map (Signal.relocate f) := by
    rw [List.map_append, List.map_flatMap, List.flatMap_map]
    simp only [Line.schedule_relocate]
    rfl
  rw [readLines_eq_findings, readLines_eq_findings, hsignals, ← findings_run_relocate, ← hchecks]

end SmaliLint
