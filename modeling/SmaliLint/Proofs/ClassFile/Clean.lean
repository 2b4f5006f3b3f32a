import SmaliLint.Proofs.ClassFile.Header
import SmaliLint.Proofs.Method.Silence

/-!
# Nothing is found in well-formed class files

* `MethodHead.ofLine_line` : the declarations are read as they were meant, and nothing is wrong with them;
* `Methods.RoomFor` : there are places for the constructors that are still to come; `MethodBlock.silent`,
  `silent_methods` : while there are, nothing is said to a method, and to methods one after the other;
* `well_formed_class_file_clean` : so no check finds anything;
* `Counter.file` : a file with a constructor, a method that returns an array and an abstract one.
-/

namespace SmaliLint

/-! ## Declarations -/

theorem spaced_tokens (ls : List Lexeme) : Spaced (ls.map Lexeme.token) ((Lexeme.spaced ls).map Lexeme.token) := by
  induction ls with
  | nil => exact .nil
  | cons l ls ih => exact .cons rfl rfl ih

theorem returnType_ofTokens (t : TypeName) : ∃ written, ReturnType.ofTokens
    ((List.replicate t.brackets ⟨.arrayOp, ['[']⟩).map Lexeme.token) t.base.lexeme.token = .known t.returnKind written := by
  obtain ⟨brackets, base⟩ := t
  cases brackets with
  | succ n => exact ⟨_, rfl⟩
  | zero =>
    cases base with
    | named name => exact ⟨_, rfl⟩
    | builtin letter known =>
      refine ⟨.single (Lexeme.token ⟨.builtinType, [letter]⟩), ?_⟩
      have hreads : (Lexeme.token ⟨.builtinType, [letter]⟩).reads "V" = decide (letter = 'V') := by
        rw [Bool.eq_iff_iff]; simp [Token.reads, Lexeme.token]
      have hkind : ¬ (Lexeme.token ⟨.builtinType, [letter]⟩).kind = .classType := by
        intro hclass
        cases hclass
      show ReturnType.ofTokens [] (Lexeme.token ⟨.builtinType, [letter]⟩) = _
      rw [ReturnType.ofTokens, if_neg hkind, hreads, TypeName.returnKind]
      by_cases hv : letter = 'V' <;> simp [hv]

namespace MethodHead

def nameToken (h : MethodHead) : Token := Lexeme.token ⟨.methodName, h.name ++ ['(']⟩

theorem declarationShape (h : MethodHead) :
    DeclarationShape h.line h.flags.tokens h.nameToken
      ((List.replicate h.returnType.brackets ⟨.arrayOp, ['[']⟩).map Lexeme.token) h.returnType.base.lexeme.token where
  tail := by
    refine ⟨(Lexeme.spaced h.flags.lexemes).map Lexeme.token, Lexeme.space.token,
      (h.parameters.flatMap TypeName.lexemes).map Lexeme.token, Lexeme.token ⟨.paren, [')']⟩, spaced_tokens _, ?_, rfl, rfl,
      rfl, rfl, ?_⟩
    · simp [line, lexemes, TypeName.lexemes, nameToken]
    · intro t ht
      obtain ⟨l, hl, rfl⟩ := List.mem_map.1 ht
      obtain ⟨type, -, hl⟩ := List.mem_flatMap.1 hl
      exact type_kind type l hl
  words_kind := h.flags.kind_of_mem_tokens
  words_distinct := h.flags.flagWords
  name_kind := rfl
  brackets_kind := by
    intro t ht
    obtain ⟨l, hl, rfl⟩ := List.mem_map.1 ht
    rw [(List.mem_replicate.1 hl).2]
    rfl
  type_kind := baseType_kind h.returnType.base

theorem find?_reads_isSome (f : AccessFlags) (w : String) :
    (f.modifierTokens.find? (·.reads w)).isSome = true ↔ w ∈ f.modifiers := by
  rw [List.find?_isSome, ← List.any_eq_true, f.any_reads, List.contains_iff_mem]

theorem checkName_eq_nil (h : MethodHead) : Declaration.checkName h.flags.modifierTokens h.nameToken = [] := by
  have hname : Text.dropSuffix '(' h.nameToken.content = h.name := by
    simp [Text.dropSuffix, nameToken, Lexeme.token]
  have hnamed := h.named
  simp only [← find?_reads_isSome] at hnamed
  unfold Declaration.checkName
  rw [hname]
  split
  next hconstructor hstatic =>
    rw [hconstructor, hstatic] at hnamed
    exact if_pos hnamed
  next hconstructor hstatic =>
    rw [hconstructor, hstatic] at hnamed
    exact if_pos hnamed
  next hconstructor =>
    rw [hconstructor] at hnamed
    obtain ⟨hinit, hclinit⟩ := hnamed
    exact (if_neg hinit).trans (if_neg hclinit)

/-- **The declaration is read as it was meant**, and nothing is wrong with it. -/
theorem ofLine_line (h : MethodHead) :
    ∃ written, Declaration.ofLine h.line = ⟨[], .known h.returnType.returnKind written, h.flags.modifierTokens⟩ := by
  obtain ⟨written, hwritten⟩ := returnType_ofTokens h.returnType
  refine ⟨written, ?_⟩
  rw [h.declarationShape.ofLine_eq, h.flags.filter_modifier, checkName_eq_nil, hwritten]

theorem has_line (h : MethodHead) (w : String) : (Declaration.ofLine h.line).has w = h.flags.modifiers.contains w := by
  obtain ⟨written, hline⟩ := h.ofLine_line
  rw [hline]
  exact h.flags.any_reads w

theorem opensMethod_line (h : MethodHead) : h.line.opensMethod = true := rfl

end MethodHead

/-! ## Places for constructors -/

namespace Methods

/-- The constructors that have been seen and those of the methods to come are at most one of each kind. -/
def RoomFor (m : Methods) (bs : List MethodBlock) : Prop :=
  ∀ static, (m.place static).toList.length + (bs.filter (·.head.declaresConstructor static)).length ≤ 1

/-- Room does not depend on the block that is open. -/
theorem RoomFor.withBlock {m : Methods} {bs : List MethodBlock} (h : m.RoomFor bs) (b : Block) :
    { m with block := b }.RoomFor bs := h

theorem RoomFor.tail {m : Methods} {b : MethodBlock} {bs : List MethodBlock} (h : m.RoomFor (b :: bs)) : m.RoomFor bs := by
  intro static
  have hsub := (List.sublist_cons_self b bs).filter (·.head.declaresConstructor static)
  exact Nat.le_trans (Nat.add_le_add_left hsub.length_le _) (h static)

/-- A constructor that there is room for is the only one of its kind. -/
theorem RoomFor.only {m : Methods} {b : MethodBlock} {bs : List MethodBlock} (h : m.RoomFor (b :: bs)) (static : Bool)
    (hb : b.head.declaresConstructor static = true) :
    m.place static = none ∧ bs.filter (·.head.declaresConstructor static) = [] := by
  have hroom := h static
  rw [List.filter_cons, if_pos hb, List.length_cons] at hroom
  refine ⟨?_, List.eq_nil_of_length_eq_zero (by omega)⟩
  cases hplace : m.place static with
  | none => rfl
  | some l =>
    rw [hplace, Option.toList_some, List.length_singleton] at hroom
    omega

/-- A constructor that there is room for takes its place, and leaves room for the others. -/
theorem RoomFor.addConstructor {m : Methods} {b : MethodBlock} {bs : List MethodBlock} (h : m.RoomFor (b :: bs)) :
    (m.addConstructor b.head.line (.ofLine b.head.line)).2 = [] ∧
      (m.addConstructor b.head.line (.ofLine b.head.line)).1.RoomFor bs := by
  unfold Methods.addConstructor
  rw [MethodHead.has_line, MethodHead.has_line]
  cases hc : b.head.flags.modifiers.contains "constructor" with
  | false => exact ⟨rfl, h.tail⟩
  | true =>
    cases hs : b.head.flags.modifiers.contains "static" with
    | true =>
      obtain ⟨hplace, hrest⟩ := h.only true (by rw [MethodHead.declaresConstructor, hc, hs]; rfl)
      have hnone : m.staticConstructor = none := hplace
      rw [hnone]
      refine ⟨rfl, fun static => ?_⟩
      cases static with
      | false => exact h.tail false
      | true =>
        rw [hrest]
        exact Nat.le_refl 1
    | false =>
      obtain ⟨hplace, hrest⟩ := h.only false (by rw [MethodHead.declaresConstructor, hc, hs]; rfl)
      have hnone : m.instanceConstructor = none := hplace
      rw [hnone]
      refine ⟨rfl, fun static => ?_⟩
      cases static with
      | false =>
        rw [hrest]
        exact Nat.le_refl 1
      | true => exact h.tail true

end Methods

/-! ## Methods -/

namespace MethodBlock

def bodyLines (b : MethodBlock) : List Line := b.body.filterMap readLine?

def logicalLines (b : MethodBlock) : List Line := b.head.line :: (b.bodyLines ++ [endLine])

theorem filterMap_readLine? (b : MethodBlock) : b.lines.filterMap readLine? = b.logicalLines := by
  unfold lines logicalLines bodyLines
  rw [List.filterMap_cons_some b.head.readLine?_text, List.filterMap_append,
    List.filterMap_cons_some readLine?_endMethod, List.filterMap_nil]

theorem isBody (b : MethodBlock) : ∀ l ∈ b.bodyLines, l.IsBody b.head.returnType.returnKind := by
  intro l hl
  obtain ⟨s, hs, hread⟩ := List.mem_filterMap.1 hl
  exact isBody_of_wellFormed (b.wellFormed s hs) hread

theorem headerDirective?_logicalLines (b : MethodBlock) : ∀ l ∈ b.logicalLines, l.headerDirective? = none :=
  List.forall_mem_cons.2 ⟨rfl, List.forall_mem_append.2 ⟨fun l hl => (b.isBody l hl).notHeader,
    List.forall_mem_singleton.2 rfl⟩⟩

/-- The return instructions of the body are those that the type asks for. -/
theorem reads_instruction (b : MethodBlock) : ∀ l ∈ b.bodyLines, ∀ t ∈ l.returns,
    ∀ w ∈ b.head.returnType.returnKind.instruction?, t.reads w = true := by
  intro l hl t ht w hw
  obtain ⟨v, hv, hcontent⟩ := (b.isBody l hl).returns t ht
  have hsame : v = w := by
    revert hv hw
    cases b.head.returnType.returnKind <;> simp +contextual [ReturnKind.instruction?, ReturnKind.mnemonics]
  simp [Token.reads, hcontent, hsame]

theorem hasReturn_of_hasBody (b : MethodBlock) (h : b.head.line.hasBody = true) : b.bodyLines.any Line.hasReturn = true := by
  unfold Line.hasBody at h
  rw [← Declaration.has_ofLine, ← Declaration.has_ofLine, MethodHead.has_line, MethodHead.has_line] at h
  have hbody : "abstract" ∉ b.head.flags.modifiers ∧ "native" ∉ b.head.flags.modifiers := by simpa using h
  obtain ⟨s, hs, hreturn⟩ := b.returns hbody.1 hbody.2
  obtain ⟨l, hread, -, hl⟩ := readLine?_returnLine hreturn
  exact List.any_eq_true.2 ⟨l, List.mem_filterMap.2 ⟨s, hs, hread⟩, hl⟩

/-- **Nothing is said to a method**, if there is room for the constructor that it may be. -/
theorem silent (b : MethodBlock) {bs : List MethodBlock} {m : Methods} (hm : m.Outside) (hroom : m.RoomFor (b :: bs)) :
    ∃ m', m.Silent b.logicalLines m' ∧ m'.Outside ∧ m'.RoomFor bs := by
  obtain ⟨written, hline⟩ := b.head.ofLine_line
  obtain ⟨hplace, hroom⟩ := hroom.addConstructor
  have htype : (Declaration.ofLine b.head.line).returnType = .known b.head.returnType.returnKind written := by rw [hline]
  have hmethod := Methods.silent_method hm b.head.opensMethod_line (k := endLine) rfl rfl (by rw [hline]) hplace htype
    (fun l hl => (b.isBody l hl).notMethod) b.reads_instruction b.hasReturn_of_hasBody
  exact ⟨_, hmethod, Methods.outside_after _ _, hroom.withBlock _⟩

end MethodBlock

/-- **Nothing is said to methods one after the other** that there is room for. -/
theorem silent_methods {bs : List MethodBlock} {m : Methods} (hm : m.Outside) (hroom : m.RoomFor bs) :
    ∃ m', m.Silent (bs.flatMap MethodBlock.logicalLines) m' := by
  induction bs generalizing m with
  | nil => exact ⟨m, .nil m⟩
  | cons b bs ih =>
    obtain ⟨m₁, hb, hm₁, hroom₁⟩ := b.silent hm hroom
    obtain ⟨m₂, hbs⟩ := ih hm₁ hroom₁
    exact ⟨m₂, hb.append hbs⟩

/-! ## Files -/

namespace ClassFile

def logicalLines (f : ClassFile) : List Line := f.headerLogicalLines ++ f.methods.flatMap MethodBlock.logicalLines

theorem filterMap_readLine? (f : ClassFile) : f.lines.filterMap readLine? = f.logicalLines := by
  unfold lines logicalLines
  rw [List.filterMap_append, filterMap_readLine?_header]
  congr 1
  induction f.methods with
  | nil => rfl
  | cons b bs ih => rw [List.flatMap_cons, List.filterMap_append, b.filterMap_readLine?, ih, List.flatMap_cons]

theorem headerDirective?_methods (f : ClassFile) :
    ∀ l ∈ f.methods.flatMap MethodBlock.logicalLines, l.headerDirective? = none :=
  List.forall_mem_flatMap.2 fun b _ => b.headerDirective?_logicalLines

theorem findings_header (f : ClassFile) (hlines : ∀ l ∈ f.logicalLines, l.Trimmed) :
    findings (run [Check.ofRule .header] (f.logicalLines.flatMap Line.schedule ++ [.finish])) = [] := by
  show findings (run [.header .empty] _) = []
  rw [findings_run_header, Header.readLines_eq_nil_iff hlines, Header.accepts_empty_iff]
  exact .inr (f.headerShape f.headerDirective?_methods)

theorem findings_methods (f : ClassFile) :
    findings (run [Check.ofRule .method] (f.logicalLines.flatMap Line.schedule ++ [.finish])) = [] := by
  have hroom : Methods.empty.RoomFor f.methods := by
    intro static
    have hplace : Methods.empty.place static = none := by cases static <;> rfl
    rw [hplace, Option.toList_none, List.length_nil, Nat.zero_add]
    exact f.constructors static
  obtain ⟨m, hmethods⟩ := silent_methods Methods.outside_empty hroom
  have hheader := Methods.silent_outside Methods.outside_empty f.not_isMethod_headerLogicalLines
  exact Methods.findings_run_of_silent (hheader.append hmethods)

/-- No check finds anything in the file, however its lines end. -/
theorem findings_trace_eq_nil (f : ClassFile) {s : Text} (hs : Text.Written f.lines s) (rules : List Rule) :
    findings (trace rules s) = [] := by
  have hlines : SmaliLint.logicalLines (unplaced s) = f.logicalLines := by
    rw [hs.logicalLines_eq f.plain, filterMap_readLine?]
  rw [findings_trace_eq_nil_iff, hlines]
  intro r _
  cases r with
  | header =>
    refine f.findings_header fun l hl => ?_
    rw [← hlines] at hl
    exact trimmed_of_mem_logicalLines hl
  | method => exact f.findings_methods

end ClassFile

/-- **Nothing is found in a well-formed class file**: not by any check, and not by all of them together, however its lines
end. -/
theorem well_formed_class_file_clean (f : ClassFile) (s : Text) (hs : Text.Written f.lines s) :
    validate s none = .ok [] ∧ ∀ rules : List Rule, validate s (some (rules.map Rule.name)) = .ok [] := by
  refine ⟨?_, fun rules => ?_⟩
  · have hall : validate s none = .ok (findings (trace Rule.all s)) := rfl
    rw [hall, f.findings_trace_eq_nil hs]
  · rw [validate_names, f.findings_trace_eq_nil hs]

/-! ## A file -/

namespace Counter

theorem returnFree_register : Text.ReturnFree " p1".toList := by
  have hregister : firstToken "p1".toList = (.register, 2) := by decide +kernel
  have hlast : lexemes "p1".toList = [⟨.register, "p1".toList⟩] :=
    lexemes_last (l := ⟨.register, "p1".toList⟩) hregister
  have hread : lexemes (' ' :: "p1".toList) = .space :: lexemes "p1".toList := lexemes_space (by decide)
  rw [returnFree_iff]
  show ∀ t ∈ (lexemes (' ' :: "p1".toList)).map Lexeme.token, _
  rw [hread, hlast]
  decide

theorem returnLine_void : ReturnLine .void "    return-void".toList := by
  have hfree : Text.ReturnFree [] := returnFree_iff.2 (by simp [unplaced, lexemes_nil])
  exact ⟨"    ".toList, "return-void", [], rfl, by decide, by decide, by simp, by decide, hfree⟩

theorem returnLine_object : ReturnLine .reference "    return-object p1".toList :=
  ⟨"    ".toList, "return-object", " p1".toList, rfl, by decide, by decide, by simp, by decide, returnFree_register⟩

theorem otherLine_locals : OtherLine "    .locals 1".toList := by
  have hlocals : Lexeme.StopsAt ⟨.directive, ".locals".toList⟩ ' ' := by decide +kernel
  have hone : firstToken "1".toList = (.number, 1) := by decide +kernel
  have hread : unplaced "    .locals 1".toList = Lexeme.token ⟨.space, "    ".toList⟩ ::
      Lexeme.token ⟨.directive, ".locals".toList⟩ :: Lexeme.space.token :: [Lexeme.token ⟨.number, "1".toList⟩] := by
    show (lexemes ("    ".toList ++ (".locals".toList ++ ' ' :: "1".toList))).map Lexeme.token = _
    rw [lexemes_blanks (by decide) (by decide) (by decide), lexemes_word hlocals, lexemes_space (by decide),
      lexemes_last (l := ⟨.number, "1".toList⟩) hone]
    rfl
  rw [otherLine_iff, returnFree_iff, hread]
  decide

def clinit : MethodBlock where
  head :=
    { flags := ⟨none, ["static", "constructor"], by decide, by decide, by decide⟩
      name := "<clinit>".toList
      parameters := []
      returnType := ⟨0, .builtin 'V' (by decide)⟩
      nonempty := by decide
      valid := by decide
      named := by decide }
  body := ["    .locals 1".toList, "    return-void".toList]
  wellFormed := by
    exact List.forall_mem_cons.2 ⟨.inr otherLine_locals, List.forall_mem_singleton.2 (.inl returnLine_void)⟩
  returns := by
    intro _ _
    exact ⟨_, List.mem_cons_of_mem _ List.mem_cons_self, returnLine_void⟩

/-- A method that returns an array of arrays. -/
def counts : MethodBlock where
  head :=
    { flags := ⟨some "public", ["final"], by decide, by decide, by decide⟩
      name := "counts".toList
      parameters := [⟨1, .builtin 'I' (by decide)⟩, ⟨0, .named ⟨"java/lang/String".toList, by decide⟩⟩]
      returnType := ⟨2, .builtin 'J' (by decide)⟩
      nonempty := by decide
      valid := by decide
      named := by decide }
  body := ["    return-object p1".toList]
  wellFormed := by
    exact List.forall_mem_singleton.2 (.inl returnLine_object)
  returns := by
    intro _ _
    exact ⟨_, List.mem_cons_self, returnLine_object⟩

/-- A method without a body. -/
def size : MethodBlock where
  head :=
    { flags := ⟨none, ["abstract"], by decide, by decide, by decide⟩
      name := "size".toList
      parameters := []
      returnType := ⟨0, .builtin 'I' (by decide)⟩
      nonempty := by decide
      valid := by decide
      named := by decide }
  body := []
  wellFormed := by simp
  returns := by simp

def file : ClassFile where
  flags := ⟨some "public", ["abstract"], by decide, by decide, by decide⟩
  name := ⟨"app/Counter".toList, by decide⟩
  superName := ⟨"java/lang/Object".toList, by decide⟩
  source := some "Counter.java".toList
  interfaces := [⟨"java/lang/Runnable".toList, by decide⟩]
  methods := [clinit, counts, size]
  notStatic := by decide
  sourceValid := by decide
  constructors := by decide

def text : Text :=
  [".class public abstract Lapp/Counter;",
    ".super Ljava/lang/Object;",
    ".source \"Counter.java\"",
    ".implements Ljava/lang/Runnable;",
    ".method static constructor <clinit>()V",
    "    .locals 1",
    "    return-void",
    ".end method",
    ".method public final counts([ILjava/lang/String;)[[J",
    "    return-object p1",
    ".end method",
    ".method abstract size()I",
    ".end method"].flatMap fun line => line.toList ++ ['\n']

theorem written_text : Text.Written file.lines text := by
  have htext : text = file.lines.flatMap (· ++ ['\n']) := by decide +kernel
  rw [htext]
  exact Text.written_lineFeeds file.lines

end Counter

theorem well_formed_class_file_clean_counter :
    validate Counter.text none = .ok [] ∧ validate Counter.text (some ["method", "header"]) = .ok [] := by
  obtain ⟨hall, hnamed⟩ := well_formed_class_file_clean Counter.file Counter.text Counter.written_text
  exact ⟨hall, hnamed [.method, .header]⟩

end SmaliLint
