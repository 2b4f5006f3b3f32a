import SmaliLint.Proofs.ClassFile.Tokens
import SmaliLint.Proofs.Method.Declaration
import SmaliLint.Proofs.Method.History
import SmaliLint.Proofs.Validation.Unplaced

/-!
# The logical lines of well-formed class files

* `ClassFile.plain` : no line of a file holds anything of a line end;
* `ClassFile.filterMap_readLine?_header`, `MethodHead.readLine?_text`, `readLine?_endMethod` : the lines of the header,
  and those around a body;
* `Line.IsBody`, `isBody_of_wellFormed` : what matters of the lines of a body; `readLine?_returnLine` : its returns.
-/

namespace SmaliLint
open Text (Plain)
open Vocabulary (nameChar visibilities modifiers)

/-! ## Texts without line ends -/

theorem plain_iff {s : Text} : Plain s ↔ ∀ c ∈ s, c ≠ '\r' ∧ c ≠ '\n' := by
  constructor
  · rintro ⟨hr, hn⟩ c hc
    exact ⟨fun h => hr (h ▸ hc), fun h => hn (h ▸ hc)⟩
  · intro h
    exact ⟨fun hr => (h _ hr).1 rfl, fun hn => (h _ hn).2 rfl⟩

theorem plain_append {s t : Text} (hs : Plain s) (ht : Plain t) : Plain (s ++ t) :=
  plain_iff.2 (List.forall_mem_append.2 ⟨plain_iff.1 hs, plain_iff.1 ht⟩)

theorem plain_cons {c : Char} {s : Text} (hc : c ≠ '\r' ∧ c ≠ '\n') (hs : Plain s) : Plain (c :: s) :=
  plain_iff.2 (List.forall_mem_cons.2 ⟨hc, plain_iff.1 hs⟩)

instance (s : Text) : Decidable (Plain s) := inferInstanceAs (Decidable (_ ∧ _))

theorem plain_name {extra : String} (hr : nameChar extra '\r' = false) (hn : nameChar extra '\n' = false) {s : Text}
    (hs : ∀ c ∈ s, nameChar extra c = true) : Plain s :=
  plain_iff.2 fun c hc => ⟨ne_of_nameChar (hs c hc) hr, ne_of_nameChar (hs c hc) hn⟩

theorem plain_className (n : ClassName) : Plain n.text :=
  plain_cons (by decide) (plain_append (plain_name (by decide) (by decide) n.valid) (by decide))

theorem plain_type (t : TypeName) : Plain t.text := by
  refine plain_append (plain_iff.2 fun c hc => ?_) ?_
  · rw [(List.mem_replicate.1 hc).2]
    decide
  · cases t.base with
    | builtin letter known =>
      have hletters : ∀ c ∈ typeLetters.toList, Plain [c] := by decide
      exact hletters letter known
    | named name => exact plain_className name

theorem plain_flags (f : AccessFlags) : Plain f.text := by
  have hvisibilities : ∀ w ∈ visibilities, Plain (' ' :: w.toList) := by decide
  have hmodifiers : ∀ w ∈ modifiers, Plain (' ' :: w.toList) := by decide
  refine plain_iff.2 (List.forall_mem_flatMap.2 fun w hw => plain_iff.1 ?_)
  rcases List.mem_append.1 hw with hw | hw
  · exact hvisibilities w (f.visible w (by simpa using hw))
  · exact hmodifiers w (f.known w hw)

theorem plain_methodHead (h : MethodHead) : Plain h.text := by
  have hname : Plain h.name := plain_name (by decide) (by decide) h.valid
  have hparameters : Plain (h.parameters.flatMap TypeName.text) :=
    plain_iff.2 (List.forall_mem_flatMap.2 fun t _ => plain_iff.1 (plain_type t))
  refine plain_append (by decide) (plain_append (plain_flags h.flags) (plain_cons (by decide) ?_))
  exact plain_append (plain_append hname (by decide))
    (plain_append hparameters (plain_cons (by decide) (plain_type h.returnType)))

theorem plain_body {kind : ReturnKind} {s : Text} (h : ReturnLine kind s ∨ OtherLine s) : Plain s := by
  rcases h with h | h
  · obtain ⟨indent, mnemonic, operands, rfl, hindent, hmnemonic, -, hoperands, -⟩ := h.exists_parts
    have hwords : ∀ kind : ReturnKind, ∀ w ∈ kind.mnemonics, Plain w.toList := by
      intro kind
      cases kind <;> decide
    refine plain_append (plain_iff.2 fun c hc => ?_) (plain_append (hwords kind mnemonic hmnemonic) hoperands)
    rcases hindent c hc with rfl | rfl <;> decide
  · exact h.plain

theorem MethodBlock.plain (m : MethodBlock) : ∀ line ∈ m.lines, Plain line :=
  List.forall_mem_cons.2 ⟨plain_methodHead m.head,
    List.forall_mem_append.2 ⟨fun s hs => plain_body (m.wellFormed s hs), List.forall_mem_singleton.2 (by decide)⟩⟩

theorem ClassFile.plain (f : ClassFile) : ∀ line ∈ f.lines, Plain line := by
  have hclass : Plain f.classText :=
    plain_append (by decide) (plain_append (plain_flags f.flags) (plain_cons (by decide) (plain_className f.name)))
  have hsuper : Plain (".super".toList ++ ' ' :: f.superName.text) :=
    plain_append (by decide) (plain_cons (by decide) (plain_className f.superName))
  refine List.forall_mem_append.2 ⟨List.forall_mem_cons.2 ⟨hclass, List.forall_mem_cons.2 ⟨hsuper,
    List.forall_mem_append.2 ⟨?_, ?_⟩⟩⟩, List.forall_mem_flatMap.2 fun m _ => m.plain⟩
  · intro line hline
    obtain ⟨s, hs, rfl⟩ := List.mem_map.1 hline
    have hvalid : Plain s := by
      refine plain_iff.2 fun c hc => ?_
      have hno := f.sourceValid s (by simpa using hs) c hc
      constructor <;> · rintro rfl; exact hno (by decide)
    exact plain_append (by decide) (plain_cons (by decide) (plain_cons (by decide) (plain_append hvalid (by decide))))
  · intro line hline
    obtain ⟨n, -, rfl⟩ := List.mem_map.1 hline
    exact plain_append (by decide) (plain_cons (by decide) (plain_className n))

/-! ## Lines of known tokens -/

def Lexeme.Solid (l : Lexeme) : Prop := l.kind ≠ .comment ∧ l.kind ≠ .space

theorem readLine?_of_lexemes {s : Text} {first last : Lexeme} {ls : List Lexeme} (h : lexemes s = first :: (ls ++ [last]))
    (hfirst : first.Solid) (hls : ∀ l ∈ ls, l.kind ≠ .comment) (hlast : last.Solid) :
    readLine? s = some ⟨first.token, (ls ++ [last]).map Lexeme.token⟩ := by
  have htrim : trim (unplaced s) = first.token :: (ls ++ [last]).map Lexeme.token := by
    have hkinds : ∀ t ∈ ls.map Lexeme.token, t.kind ≠ .comment := by
      intro t ht
      obtain ⟨l, hl, rfl⟩ := List.mem_map.1 ht
      exact hls l hl
    have hself : trim (first.token :: (ls.map Lexeme.token ++ [last.token])) = _ := trim_eq_self hfirst hkinds hlast
    rw [unplaced, h]
    simpa using hself
  rw [readLine?, htrim]
  rfl

def endLine : Line := ⟨Lexeme.token ⟨.method, ".end method".toList⟩, []⟩

theorem readLine?_endMethod : readLine? ".end method".toList = some endLine := by
  have hfirst : firstToken ".end method".toList = (.method, 11) := by decide +kernel
  have hread : lexemes (Lexeme.mk .method ".end method".toList).content = [⟨.method, ".end method".toList⟩] :=
    lexemes_last hfirst
  unfold readLine? unplaced
  rw [hread]
  rfl

/-! ## Header lines -/

def ClassName.lexeme (n : ClassName) : Lexeme := ⟨.classType, n.text⟩

/-- A directive, a space and an operand. -/
def operandLine (w : String) (operand : Lexeme) : Line :=
  ⟨Lexeme.token ⟨.directive, w.toList⟩, [Lexeme.space.token, operand.token]⟩

theorem readLine?_operand {w : String} (hw : w ∈ [".class", ".super", ".source", ".implements"]) {b : Text}
    (hb : b.Unindented) {operand : Lexeme} (hread : lexemes b = [operand]) (hsolid : operand.Solid) :
    readLine? (w.toList ++ ' ' :: b) = some (operandLine w operand) := by
  have hlexemes : lexemes (w.toList ++ ' ' :: b) = ⟨.directive, w.toList⟩ :: ([.space] ++ [operand]) := by
    rw [lexemes_operand hw hb, hread]
    rfl
  exact readLine?_of_lexemes hlexemes ⟨nofun, nofun⟩ (by decide) hsolid

theorem spaced_kind (f : AccessFlags) : ∀ l ∈ Lexeme.spaced f.lexemes, l.kind ≠ .comment := by
  refine List.forall_mem_flatMap.2 fun l hl => List.forall_mem_cons.2 ⟨by decide, List.forall_mem_singleton.2 ?_⟩
  rcases List.mem_append.1 hl with hl | hl
  · obtain ⟨w, -, rfl⟩ := List.mem_map.1 hl
    exact nofun
  · obtain ⟨w, -, rfl⟩ := List.mem_map.1 hl
    exact nofun

namespace ClassFile

def classLine (f : ClassFile) : Line :=
  ⟨Lexeme.token ⟨.directive, ".class".toList⟩,
    (Lexeme.spaced f.flags.lexemes ++ [Lexeme.space] ++ [f.name.lexeme]).map Lexeme.token⟩

def sourceLine (s : Text) : Line := operandLine ".source" ⟨.string, '"' :: (s ++ ['"'])⟩

theorem readLine?_classText (f : ClassFile) : readLine? f.classText = some f.classLine := by
  have hread := lexemes_classText f
  have hlexemes : lexemes f.classText =
      ⟨.directive, ".class".toList⟩ :: (Lexeme.spaced f.flags.lexemes ++ [.space] ++ [f.name.lexeme]) := by
    rw [hread]
    simp [ClassName.lexeme]
  refine readLine?_of_lexemes hlexemes ⟨nofun, nofun⟩ ?_ ⟨nofun, nofun⟩
  exact List.forall_mem_append.2 ⟨spaced_kind f.flags, by decide⟩

theorem readLine?_className {w : String} (hw : w ∈ [".class", ".super", ".source", ".implements"]) (n : ClassName) :
    readLine? (w.toList ++ ' ' :: n.text) = some (operandLine w n.lexeme) :=
  readLine?_operand hw (unindented_className n) (lexemes_className n) ⟨nofun, nofun⟩

theorem readLine?_sourceText {s : Text} (hs : ∀ c ∈ s, c ∉ "\"\\\r\n".toList) :
    readLine? (sourceText s) = some (sourceLine s) := by
  refine readLine?_operand (by decide) ?_ (lexemes_quoted hs) ⟨nofun, nofun⟩
  show ∀ c ∈ some '"', c ≠ ' ' ∧ c ≠ '\t'
  decide

def headerLogicalLines (f : ClassFile) : List Line :=
  f.classLine :: operandLine ".super" f.superName.lexeme ::
    (f.source.toList.map sourceLine ++ f.interfaces.map fun n => operandLine ".implements" n.lexeme)

theorem filterMap_readLine?_header (f : ClassFile) : f.headerLines.filterMap readLine? = f.headerLogicalLines := by
  have hsuper : readLine? (".super".toList ++ ' ' :: f.superName.text) = some (operandLine ".super" f.superName.lexeme) :=
    readLine?_className (by decide) _
  have hsource : (f.source.toList.map sourceText).filterMap readLine? = f.source.toList.map sourceLine := by
    cases hs : f.source with
    | none => rfl
    | some s => exact List.filterMap_cons_some (readLine?_sourceText (f.sourceValid s hs))
  have himplements : (f.interfaces.map fun n => ".implements".toList ++ ' ' :: n.text).filterMap readLine? =
      f.interfaces.map fun n => operandLine ".implements" n.lexeme := by
    induction f.interfaces with
    | nil => rfl
    | cons n ns ih => rw [List.map_cons, List.filterMap_cons_some (readLine?_className (by decide) n), ih, List.map_cons]
  unfold headerLines headerLogicalLines
  rw [List.filterMap_cons_some (readLine?_classText f), List.filterMap_cons_some hsuper, List.filterMap_append, hsource,
    himplements]

end ClassFile

/-! ## Methods -/

theorem baseType_solid (t : BaseType) : t.lexeme.Solid := by
  cases t <;> exact ⟨nofun, nofun⟩

theorem baseType_kind (t : BaseType) : t.lexeme.kind = .builtinType ∨ t.lexeme.kind = .classType := by
  cases t with
  | builtin => exact .inl rfl
  | named => exact .inr rfl

theorem type_kind (t : TypeName) :
    ∀ l ∈ t.lexemes, l.kind = .builtinType ∨ l.kind = .classType ∨ l.kind = .arrayOp := by
  refine List.forall_mem_append.2 ⟨fun l hl => ?_, List.forall_mem_singleton.2 ?_⟩
  · rw [(List.mem_replicate.1 hl).2]
    exact .inr (.inr rfl)
  · exact (baseType_kind t.base).imp_right .inl

namespace MethodHead

def line (h : MethodHead) : Line :=
  ⟨Lexeme.token ⟨.method, ".method".toList⟩, h.lexemes.tail.map Lexeme.token⟩

theorem readLine?_text (h : MethodHead) : readLine? h.text = some h.line := by
  have hsplit : h.lexemes.tail =
      Lexeme.spaced h.flags.lexemes ++ .space :: ⟨.methodName, h.name ++ ['(']⟩ ::
        (h.parameters.flatMap TypeName.lexemes ++ ⟨.paren, [')']⟩ ::
          List.replicate h.returnType.brackets ⟨.arrayOp, ['[']⟩) ++ [h.returnType.base.lexeme] := by
    simp [lexemes, TypeName.lexemes]
  have hread : SmaliLint.lexemes h.text = ⟨.method, ".method".toList⟩ :: h.lexemes.tail := lexemes_methodHead h
  rw [hsplit] at hread
  unfold line
  rw [hsplit]
  refine readLine?_of_lexemes hread ⟨nofun, nofun⟩ ?_ (baseType_solid _)
  have hparameters : ∀ l ∈ h.parameters.flatMap TypeName.lexemes, l.kind ≠ .comment := by
    refine List.forall_mem_flatMap.2 fun t _ l hl => ?_
    rcases type_kind t l hl with h | h | h <;> simp [h]
  refine List.forall_mem_append.2 ⟨spaced_kind h.flags, List.forall_mem_cons.2 ⟨nofun, List.forall_mem_cons.2 ⟨nofun,
    List.forall_mem_append.2 ⟨hparameters, List.forall_mem_cons.2 ⟨nofun, fun l hl => ?_⟩⟩⟩⟩⟩
  rw [(List.mem_replicate.1 hl).2]
  exact nofun

end MethodHead

/-! ## Bodies -/

/-- A line of a body: it is no directive, and its return instructions are allowed. -/
structure Line.IsBody (kind : ReturnKind) (l : Line) : Prop where
  notMethod : l.isMethod = false
  notHeader : l.headerDirective? = none
  returns : ∀ t ∈ l.returns, ∃ w ∈ kind.mnemonics, t.content = String.toList w

/-- Whether a text holds a return instruction does not depend on where it stands. -/
theorem returnFree_iff {s : Text} : s.ReturnFree ↔ ∀ t ∈ unplaced s, t.kind ≠ .ret := by
  rw [← relocate_tokenize, List.forall_mem_map]
  rfl

/-- Nor does it matter for what it starts with. -/
theorem otherLine_iff {s : Text} : OtherLine s ↔ Plain s ∧ s.ReturnFree ∧
    ∀ t, (unplaced s).find? (fun t => t.kind ≠ .space ∧ t.kind ≠ .comment) = some t →
      t.kind ≠ .method ∧ (Line.single t).headerDirective? = none := by
  rw [← relocate_tokenize, List.find?_map]
  constructor
  · rintro ⟨hplain, hfree, hneutral⟩
    refine ⟨hplain, hfree, fun t ht => ?_⟩
    obtain ⟨u, hu, rfl⟩ := Option.map_eq_some_iff.1 ht
    exact hneutral u hu
  · rintro ⟨hplain, hfree, hneutral⟩
    refine ⟨hplain, hfree, fun u hu => ?_⟩
    exact hneutral (u.relocate fun _ => .origin) (Option.map_eq_some_iff.2 ⟨u, hu, rfl⟩)

/-- The returns of a line are those of its text. -/
theorem returns_readLine? {s : Text} {l : Line} (h : readLine? s = some l) :
    l.returns = (unplaced s).filter (·.kind = .ret) := by
  unfold Line.returns
  rw [Line.toList_of_ofList? h]
  refine filter_trim (fun t ht => ?_) (unplaced s)
  have hkind : t.kind = .ret := of_decide_eq_true ht
  rw [hkind]
  decide

/-- A line starts with the first token of its text that is neither a comment nor a space. -/
theorem head_readLine? {s : Text} {l : Line} (h : readLine? s = some l) :
    (unplaced s).find? (fun t => t.kind ≠ .space ∧ t.kind ≠ .comment) = some l.head := by
  rw [← trim_head?, ← Line.toList_of_ofList? h]
  rfl

theorem isBody_of_otherLine {kind : ReturnKind} {s : Text} (hs : OtherLine s) {l : Line} (h : readLine? s = some l) :
    l.IsBody kind := by
  obtain ⟨-, hfree, hneutral⟩ := otherLine_iff.1 hs
  obtain ⟨hmethod, hheader⟩ := hneutral l.head (head_readLine? h)
  have hnone : l.returns = [] := by
    rw [returns_readLine? h, List.filter_eq_nil_iff]
    intro t ht
    simpa using returnFree_iff.1 hfree t ht
  exact ⟨decide_eq_false hmethod, hheader, by simp [hnone]⟩

theorem lexemes_returnLine {kind : ReturnKind} {s : Text} (hs : ReturnLine kind s) :
    ∃ indent mnemonic operands, lexemes s = indent ++ ⟨.ret, String.toList mnemonic⟩ :: lexemes operands ∧
      (∀ l ∈ indent, l.kind = .space) ∧ mnemonic ∈ kind.mnemonics ∧ operands.ReturnFree := by
  obtain ⟨indent, w, operands, rfl, hindent, hw, hoperands, -, hfree⟩ := hs.exists_parts
  have hread := lexemes_mnemonic hw hoperands
  cases indent with
  | nil => exact ⟨[], w, operands, hread, by simp, hw, hfree⟩
  | cons c indent =>
    have hwords : ∀ kind : ReturnKind, ∀ w ∈ kind.mnemonics, w.toList ≠ [] ∧ Text.Unindented w.toList := by
      intro kind
      cases kind <;> decide
    obtain ⟨hne, hstart⟩ := hwords kind w hw
    refine ⟨[⟨.space, c :: indent⟩], w, operands, ?_, by simp, hw, hfree⟩
    rw [lexemes_blanks (List.cons_ne_nil c indent) hindent (unindented_append hne hstart operands), hread]
    rfl

/-- A return line is read as a return instruction that the type allows, and has no other. -/
theorem readLine?_returnLine {kind : ReturnKind} {s : Text} (hs : ReturnLine kind s) :
    ∃ l, readLine? s = some l ∧ l.IsBody kind ∧ l.hasReturn = true := by
  obtain ⟨indent, w, operands, hread, hindent, hw, hfree⟩ := lexemes_returnLine hs
  have hunplaced : unplaced s = indent.map Lexeme.token ++ Lexeme.token ⟨.ret, w.toList⟩ :: unplaced operands := by
    unfold unplaced
    rw [hread, List.map_append, List.map_cons]
  have hspaces : ∀ t ∈ indent.map Lexeme.token, t.kind = .space := by
    intro t ht
    obtain ⟨l, hl, rfl⟩ := List.mem_map.1 ht
    exact hindent l hl
  have hfirst : (trim (unplaced s)).head? = some (Lexeme.token ⟨.ret, w.toList⟩) := by
    rw [trim_head?, hunplaced, List.find?_append, List.find?_eq_none.2, Option.none_or, List.find?_cons_of_pos]
    · rfl
    · intro t ht
      simp [hspaces t ht]
  obtain ⟨rest, hrest⟩ := List.head?_eq_some_iff.1 hfirst
  have hline : readLine? s = some ⟨Lexeme.token ⟨.ret, w.toList⟩, rest⟩ := by
    rw [readLine?, hrest]
    rfl
  have hreturns : Line.returns ⟨Lexeme.token ⟨.ret, w.toList⟩, rest⟩ = [Lexeme.token ⟨.ret, w.toList⟩] := by
    rw [returns_readLine? hline, hunplaced, List.filter_append, List.filter_eq_nil_iff.2, List.nil_append,
      List.filter_cons_of_pos, List.filter_eq_nil_iff.2]
    · intro t ht
      simpa using returnFree_iff.1 hfree t ht
    · rfl
    · intro t ht
      simp [hspaces t ht]
  refine ⟨_, hline, ⟨rfl, rfl, ?_⟩, rfl⟩
  rw [hreturns]
  exact List.forall_mem_singleton.2 ⟨w, hw, rfl⟩

theorem isBody_of_wellFormed {kind : ReturnKind} {s : Text} (hs : ReturnLine kind s ∨ OtherLine s) {l : Line}
    (h : readLine? s = some l) : l.IsBody kind := by
  rcases hs with hs | hs
  · obtain ⟨l', hline, hbody, -⟩ := readLine?_returnLine hs
    rw [h] at hline
    cases hline
    exact hbody
  · exact isBody_of_otherLine hs h

end SmaliLint
