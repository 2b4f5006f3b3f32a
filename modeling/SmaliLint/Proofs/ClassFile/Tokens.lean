import SmaliLint.Proofs.ClassFile.Syntax

/-!
# The tokens of well-formed class files

Every line of a well-formed class file is read as it was meant: modifiers, names and types are tokens of their own.

* `lexemes_spaced` : words after single spaces; `lexemes_types` : types one after the other;
* `lexemes_classText`, `lexemes_operand`, `lexemes_methodHead`, `lexemes_mnemonic` : the lines.
-/

namespace SmaliLint
open Vocabulary (nameChar visibilities modifiers)

/-! ## Words after spaces -/

def Lexeme.space : Lexeme := ⟨.space, [' ']⟩

/-- The word is read as it stands between spaces. -/
def Lexeme.IsWord (l : Lexeme) : Prop := l.StopsAt ' ' ∧ Text.Unindented l.content

instance (l : Lexeme) : Decidable l.IsWord := inferInstanceAs (Decidable (_ ∧ _))

theorem isWord_visibility : ∀ w ∈ visibilities, Lexeme.IsWord ⟨.visibility, w.toList⟩ := by decide +kernel

theorem isWord_modifier : ∀ w ∈ modifiers, Lexeme.IsWord ⟨.modifier, w.toList⟩ := by decide +kernel

theorem isWord_directive : ∀ w ∈ [".class", ".super", ".source", ".implements"],
    Lexeme.IsWord ⟨.directive, w.toList⟩ := by decide +kernel

theorem isWord_method : Lexeme.IsWord ⟨.method, ".method".toList⟩ := by decide +kernel

theorem lexemes_space {b : Text} (hb : b.Unindented) : lexemes (' ' :: b) = .space :: lexemes b := by
  have hread : lexemes ([' '] ++ b) = ⟨.space, [' ']⟩ :: lexemes b := lexemes_blanks (by simp) (by simp) hb
  exact hread

theorem unindented_append {w : Text} (hne : w ≠ []) (hw : w.Unindented) (b : Text) : Text.Unindented (w ++ b) := by
  obtain ⟨c, rest, rfl⟩ := List.exists_cons_of_ne_nil hne
  exact hw

theorem Lexeme.StopsAt.ne_nil {l : Lexeme} {c : Char} (h : l.StopsAt c) : l.content ≠ [] := by
  have hpos := firstToken_pos l.content
  rw [h.1] at hpos
  exact List.ne_nil_of_length_pos hpos

/-- The lexemes, each after a space. -/
def Lexeme.spaced (ls : List Lexeme) : List Lexeme := ls.flatMap fun l => [.space, l]

theorem lexemes_spaced {ls : List Lexeme} (hls : ∀ l ∈ ls, l.IsWord) {b : Text} (hb : b.Unindented) :
    lexemes (ls.flatMap (fun l => ' ' :: l.content) ++ ' ' :: b) = Lexeme.spaced ls ++ .space :: lexemes b := by
  induction ls with
  | nil => exact lexemes_space hb
  | cons l ls ih =>
    obtain ⟨⟨hstops, hword⟩, hls⟩ := List.forall_mem_cons.1 hls
    obtain ⟨rest, hrest⟩ : ∃ rest, ls.flatMap (fun l => ' ' :: l.content) ++ ' ' :: b = ' ' :: rest := by
      cases ls with
      | nil => exact ⟨b, rfl⟩
      | cons m ls => exact ⟨_, rfl⟩
    have hindent := unindented_append hstops.ne_nil hword (' ' :: rest)
    have htail := ih hls
    rw [hrest] at htail
    rw [List.flatMap_cons, List.append_assoc, hrest, List.cons_append, lexemes_space hindent, lexemes_word hstops,
      htail]
    rfl

/-! ## Types -/

def BaseType.lexeme : BaseType → Lexeme
  | .builtin letter _ => ⟨.builtinType, [letter]⟩
  | .named name => ⟨.classType, name.text⟩

namespace TypeName

def lexemes (t : TypeName) : List Lexeme := List.replicate t.brackets ⟨.arrayOp, ['[']⟩ ++ [t.base.lexeme]

theorem nameless_text (t : TypeName) : t.text.Nameless := by
  refine List.forall_mem_append.2 ⟨fun c hc => ?_, ?_⟩
  · rw [(List.mem_replicate.1 hc).2]
    decide
  · cases t.base with
    | builtin letter known => exact List.forall_mem_singleton.2 (nameless_letter letter known)
    | named name => exact nameless_classType name.valid

end TypeName

theorem lexemes_base (t : BaseType) {b : Text} (hb : b.Nameless) : lexemes (t.text ++ b) = t.lexeme :: lexemes b := by
  cases t with
  | builtin letter known => exact lexemes_letter known hb
  | named name => exact lexemes_classType name.valid hb

theorem lexemes_type (t : TypeName) {b : Text} (hb : b.Nameless) : lexemes (t.text ++ b) = t.lexemes ++ lexemes b := by
  unfold TypeName.text TypeName.lexemes
  rw [List.append_assoc]
  induction t.brackets with
  | zero => exact lexemes_base t.base hb
  | succ n ih =>
    rw [List.replicate_succ, List.replicate_succ, List.cons_append, lexemes_bracket, ih]
    rfl

theorem lexemes_types (ts : List TypeName) {b : Text} (hb : b.Nameless) :
    lexemes (ts.flatMap TypeName.text ++ b) = ts.flatMap TypeName.lexemes ++ lexemes b := by
  induction ts with
  | nil => rfl
  | cons t ts ih =>
    have hrest : Text.Nameless (ts.flatMap TypeName.text ++ b) := by
      refine List.forall_mem_append.2 ⟨List.forall_mem_flatMap.2 fun u _ => u.nameless_text, hb⟩
    rw [List.flatMap_cons, List.append_assoc, lexemes_type t hrest, ih, List.flatMap_cons, List.append_assoc]

/-! ## Header lines -/

namespace AccessFlags

def lexemes (f : AccessFlags) : List Lexeme :=
  (f.visibility.toList.map fun w => ⟨.visibility, w.toList⟩) ++ f.modifiers.map fun w => ⟨.modifier, w.toList⟩

theorem text_eq (f : AccessFlags) : f.text = f.lexemes.flatMap fun l => ' ' :: l.content := by
  unfold text words lexemes
  rw [List.flatMap_append, List.flatMap_append, List.flatMap_map, List.flatMap_map]

theorem isWord (f : AccessFlags) : ∀ l ∈ f.lexemes, l.IsWord := by
  refine List.forall_mem_append.2 ⟨?_, ?_⟩
  · intro l hl
    obtain ⟨w, hw, rfl⟩ := List.mem_map.1 hl
    exact isWord_visibility w (f.visible w (by simpa using hw))
  · intro l hl
    obtain ⟨w, hw, rfl⟩ := List.mem_map.1 hl
    exact isWord_modifier w (f.known w hw)

end AccessFlags

theorem lexemes_directive {l : Lexeme} (hl : l.IsWord) (f : AccessFlags) {b : Text} (hb : b.Unindented) :
    lexemes (l.content ++ (f.text ++ ' ' :: b)) = l :: (Lexeme.spaced f.lexemes ++ .space :: lexemes b) := by
  obtain ⟨rest, hrest⟩ : ∃ rest, f.text ++ ' ' :: b = ' ' :: rest := by
    rw [f.text_eq]
    cases f.lexemes with
    | nil => exact ⟨b, rfl⟩
    | cons m ls => exact ⟨_, rfl⟩
  rw [hrest, lexemes_word hl.1, ← hrest, f.text_eq, lexemes_spaced f.isWord hb]

theorem unindented_className (n : ClassName) : n.text.Unindented := by
  show ∀ c ∈ some 'L', c ≠ ' ' ∧ c ≠ '\t'
  decide

theorem lexemes_className (n : ClassName) : lexemes n.text = [⟨.classType, n.text⟩] := by
  have hread := lexemes_classType n.valid (b := []) (by simp [Text.Nameless])
  rwa [List.append_nil, lexemes_nil] at hread

theorem lexemes_classText (f : ClassFile) :
    lexemes f.classText =
      ⟨.directive, ".class".toList⟩ :: (Lexeme.spaced f.flags.lexemes ++ [.space, ⟨.classType, f.name.text⟩]) := by
  have hword := isWord_directive ".class" (by simp)
  have hread := lexemes_directive hword f.flags (unindented_className f.name)
  rwa [lexemes_className] at hread

/-- A directive, a space and an operand. -/
theorem lexemes_operand {w : String} (hw : w ∈ [".class", ".super", ".source", ".implements"]) {b : Text}
    (hb : b.Unindented) : lexemes (w.toList ++ ' ' :: b) = ⟨.directive, w.toList⟩ :: .space :: lexemes b := by
  have hread := lexemes_word (isWord_directive w hw).1 b
  rwa [lexemes_space hb] at hread

/-! ## Methods -/

def MethodHead.lexemes (h : MethodHead) : List Lexeme :=
  ⟨.method, ".method".toList⟩ :: (Lexeme.spaced h.flags.lexemes ++ .space :: ⟨.methodName, h.name ++ ['(']⟩ ::
    (h.parameters.flatMap TypeName.lexemes ++ ⟨.paren, [')']⟩ :: h.returnType.lexemes))

theorem lexemes_methodHead (h : MethodHead) : lexemes h.text = h.lexemes := by
  have hindent : Text.Unindented (h.name ++ ['('] ++ (h.parameters.flatMap TypeName.text ++ ')' :: h.returnType.text)) := by
    rw [List.append_assoc]
    refine unindented_append h.nonempty (fun c hc => ?_) _
    have hvalid := h.valid c (List.mem_of_mem_head? hc)
    exact ⟨ne_of_nameChar hvalid (by decide), ne_of_nameChar hvalid (by decide)⟩
  have hreturn : lexemes h.returnType.text = h.returnType.lexemes := by
    have hread := lexemes_type h.returnType (b := []) (by simp [Text.Nameless])
    rwa [List.append_nil, lexemes_nil, List.append_nil] at hread
  have hnameless : Text.Nameless (')' :: h.returnType.text) :=
    List.forall_mem_cons.2 ⟨by decide, h.returnType.nameless_text⟩
  have hread := lexemes_directive isWord_method h.flags hindent
  rw [lexemes_methodName h.nonempty h.valid, lexemes_types h.parameters hnameless, lexemes_close, hreturn] at hread
  exact hread

theorem stopsAt_mnemonic : ∀ w ∈ ["return", "return-void", "return-object", "return-wide"], ∀ c ∈ [' ', '\t'],
    Lexeme.StopsAt ⟨.ret, w.toList⟩ c := by decide +kernel

/-- A return instruction is read as one, whatever operands it has. -/
theorem lexemes_mnemonic {kind : ReturnKind} {w : String} (hw : w ∈ kind.mnemonics) {operands : Text}
    (hoperands : ∀ c ∈ operands.head?, c = ' ' ∨ c = '\t') :
    lexemes (w.toList ++ operands) = ⟨.ret, w.toList⟩ :: lexemes operands := by
  have hknown : w ∈ ["return", "return-void", "return-object", "return-wide"] := by
    cases kind <;> simp [ReturnKind.mnemonics] at hw <;> simp [hw]
  cases operands with
  | nil =>
    have hread := lexemes_last (stopsAt_mnemonic w hknown ' ' (by simp)).1
    rwa [List.append_nil, lexemes_nil]
  | cons c operands =>
    have hc : c ∈ [' ', '\t'] := by simpa using hoperands c rfl
    exact lexemes_word (stopsAt_mnemonic w hknown c hc) operands

end SmaliLint
