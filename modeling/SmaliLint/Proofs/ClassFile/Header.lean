import SmaliLint.Proofs.ClassFile.Lines

/-!
# The headers of well-formed class files

* `AccessFlags.flagWords` : no visibility and no modifier of a declaration stands twice; `flagWords_paddedTokens` : nor do
  they with spaces between them;
* `ClassFile.headerShape` : the header is one that is accepted.
-/

namespace SmaliLint

/-! ## Visibility and modifiers -/

/-- Words with a space after each. -/
def paddedTokens (ls : List Lexeme) : List Token := ls.flatMap fun l => [l.token, Lexeme.space.token]

/-- Words after spaces and a last space are a space and then words before spaces. -/
theorem map_token_spaced (ls : List Lexeme) :
    (Lexeme.spaced ls ++ [Lexeme.space]).map Lexeme.token = Lexeme.space.token :: paddedTokens ls := by
  induction ls with
  | nil => rfl
  | cons l ls ih =>
    show Lexeme.space.token :: l.token :: (Lexeme.spaced ls ++ [Lexeme.space]).map Lexeme.token = _
    rw [ih]
    rfl

theorem filter_paddedTokens {p : Token → Bool} (hp : p Lexeme.space.token = false) (ls : List Lexeme) :
    (paddedTokens ls).filter p = (ls.map Lexeme.token).filter p := by
  induction ls with
  | nil => rfl
  | cons l ls ih =>
    show List.filter p (l.token :: Lexeme.space.token :: paddedTokens ls) = _
    rw [List.filter_cons, List.filter_cons_of_neg (by simp [hp]), ih, List.map_cons, List.filter_cons]

theorem flagWords_paddedTokens {ls : List Lexeme} (h : FlagWords none [] (ls.map Lexeme.token)) :
    FlagWords none [] (paddedTokens ls) := by
  obtain ⟨hkinds, hvisible, hdistinct⟩ := h
  refine ⟨?_, ?_, ?_⟩
  · refine List.forall_mem_flatMap.2 fun l hl => List.forall_mem_cons.2 ⟨?_, List.forall_mem_singleton.2 (.inl rfl)⟩
    exact hkinds l.token (List.mem_map_of_mem hl)
  · rwa [filter_paddedTokens (by decide)]
  · rwa [filter_paddedTokens (by decide)]

namespace AccessFlags

def tokens (f : AccessFlags) : List Token := f.lexemes.map Lexeme.token

def modifierTokens (f : AccessFlags) : List Token := f.modifiers.map fun w => Lexeme.token ⟨.modifier, w.toList⟩

theorem tokens_eq (f : AccessFlags) :
    f.tokens = (f.visibility.toList.map fun w => Lexeme.token ⟨.visibility, w.toList⟩) ++ f.modifierTokens := by
  unfold tokens lexemes modifierTokens
  rw [List.map_append, List.map_map, List.map_map]
  rfl

theorem kind_of_mem_tokens (f : AccessFlags) : ∀ t ∈ f.tokens, t.kind = .visibility ∨ t.kind = .modifier := by
  rw [tokens_eq]
  refine List.forall_mem_append.2 ⟨fun t ht => ?_, fun t ht => ?_⟩
  · obtain ⟨w, -, rfl⟩ := List.mem_map.1 ht
    exact .inl rfl
  · obtain ⟨w, -, rfl⟩ := List.mem_map.1 ht
    exact .inr rfl

theorem filter_modifier (f : AccessFlags) : f.tokens.filter (·.kind = .modifier) = f.modifierTokens := by
  rw [tokens_eq, List.filter_append, List.filter_eq_nil_iff.2, List.nil_append, List.filter_eq_self.2]
  · intro t ht
    obtain ⟨w, -, rfl⟩ := List.mem_map.1 ht
    rfl
  · intro t ht
    obtain ⟨w, -, rfl⟩ := List.mem_map.1 ht
    exact nofun

theorem filter_visibility (f : AccessFlags) : (f.tokens.filter (·.kind = .visibility)).length ≤ 1 := by
  have hmodifiers : f.modifierTokens.filter (·.kind = .visibility) = [] := by
    rw [List.filter_eq_nil_iff]
    intro t ht
    obtain ⟨w, -, rfl⟩ := List.mem_map.1 ht
    exact nofun
  rw [tokens_eq, List.filter_append, hmodifiers, List.append_nil]
  refine Nat.le_trans (List.length_filter_le _ _) ?_
  cases f.visibility <;> simp

/-- **No visibility and no modifier stands twice.** -/
theorem flagWords (f : AccessFlags) : FlagWords none [] f.tokens := by
  refine ⟨fun t ht => .inr (f.kind_of_mem_tokens t ht), f.filter_visibility, ?_⟩
  rw [List.nil_append, filter_modifier, modifierTokens, List.map_map]
  exact f.distinct.map fun w v h => String.toList_inj.1 h

theorem any_reads (f : AccessFlags) (w : String) : f.modifierTokens.any (·.reads w) = f.modifiers.contains w := by
  unfold modifierTokens
  rw [List.any_map, List.contains_eq_any_beq]
  congr 1
  funext v
  show (v.toList == w.toList) = (w == v)
  rw [Bool.eq_iff_iff, beq_iff_eq, beq_iff_eq, String.toList_inj, eq_comm]

end AccessFlags

/-! ## The header -/

namespace ClassFile

theorem classLine_tail (f : ClassFile) :
    f.classLine.tail = Lexeme.space.token :: (paddedTokens f.flags.lexemes ++ [f.name.lexeme.token]) := by
  unfold classLine
  rw [List.map_append, map_token_spaced]
  rfl

theorem notStatic_tokens (f : ClassFile) :
    ∀ t ∈ paddedTokens f.flags.lexemes, t.kind = .modifier → t.reads "static" = false := by
  intro t ht hkind
  have hmem : t ∈ (paddedTokens f.flags.lexemes).filter (·.kind = .modifier) :=
    List.mem_filter.2 ⟨ht, decide_eq_true hkind⟩
  rw [filter_paddedTokens (by decide)] at hmem
  have hany := f.flags.any_reads "static"
  rw [← AccessFlags.filter_modifier, List.contains_eq_mem, decide_eq_false f.notStatic, List.any_eq_false] at hany
  simpa using hany t hmem

theorem classShape_classLine (f : ClassFile) : f.classLine.ClassShape := by
  obtain ⟨hkinds, hvisible, hdistinct⟩ := flagWords_paddedTokens f.flags.flagWords
  exact ⟨_, _, _, f.classLine_tail, rfl, rfl, hkinds, hvisible, hdistinct, f.notStatic_tokens⟩

theorem headerDirective?_classLine (f : ClassFile) : f.classLine.headerDirective? = some .class_ := rfl

theorem headerDirective?_super (l : Lexeme) : (operandLine ".super" l).headerDirective? = some .super := rfl

theorem headerDirective?_source (s : Text) : (sourceLine s).headerDirective? = some .source := rfl

theorem headerDirective?_implements (l : Lexeme) : (operandLine ".implements" l).headerDirective? = some .implements := rfl

theorem linesOf_map {α : Type} {g : α → Line} {e : HeaderDirective} (hg : ∀ x, (g x).headerDirective? = some e)
    (d : HeaderDirective) (xs : List α) : linesOf d (xs.map g) = if e = d then xs.map g else [] := by
  rw [linesOf_eq]
  by_cases hd : e = d
  · rw [if_pos hd, List.filter_eq_self]
    intro l hl
    obtain ⟨x, -, rfl⟩ := List.mem_map.1 hl
    simp [hg, hd]
  · rw [if_neg hd, List.filter_eq_nil_iff]
    intro l hl
    obtain ⟨x, -, rfl⟩ := List.mem_map.1 hl
    simp [hg, hd]

theorem linesOf_headerLogicalLines (f : ClassFile) (d : HeaderDirective) :
    linesOf d f.headerLogicalLines = match d with
      | .class_ => [f.classLine]
      | .super => [operandLine ".super" f.superName.lexeme]
      | .source => f.source.toList.map sourceLine
      | .implements => f.interfaces.map fun n => operandLine ".implements" n.lexeme := by
  unfold headerLogicalLines
  rw [linesOf_cons, linesOf_cons, linesOf_append, linesOf_map headerDirective?_source,
    linesOf_map fun n : ClassName => headerDirective?_implements n.lexeme, headerDirective?_classLine,
    headerDirective?_super]
  cases d <;> simp only [reduceCtorEq, Option.some.injEq, if_true, if_false, List.append_nil, List.nil_append]

/-- **The header is one that is accepted**, whatever lines without a header directive come after it. -/
theorem headerShape (f : ClassFile) {ls : List Line} (hls : ∀ l ∈ ls, l.headerDirective? = none) :
    HeaderShape (f.headerLogicalLines ++ ls) := by
  have hlines : ∀ d, linesOf d (f.headerLogicalLines ++ ls) = linesOf d f.headerLogicalLines := by
    intro d
    have hnone : linesOf d ls = [] := by
      rw [linesOf_eq]
      exact List.filter_eq_nil_iff.2 fun l hl => by simp [hls l hl]
    rw [linesOf_append, hnone, List.append_nil]
  refine ⟨⟨f.classLine, ?_, f.classShape_classLine⟩,
    ⟨operandLine ".super" f.superName.lexeme, ?_, _, _, rfl, rfl, rfl⟩, ⟨?_, ?_⟩, ?_⟩
  · rw [hlines, linesOf_headerLogicalLines]
  · rw [hlines, linesOf_headerLogicalLines]
  · rw [hlines, linesOf_headerLogicalLines, List.length_map]
    cases f.source <;> simp
  · rw [hlines, linesOf_headerLogicalLines]
    intro l hl
    obtain ⟨s, -, rfl⟩ := List.mem_map.1 hl
    exact ⟨_, _, rfl, rfl, rfl⟩
  · rw [hlines, linesOf_headerLogicalLines]
    intro l hl
    obtain ⟨n, -, rfl⟩ := List.mem_map.1 hl
    exact ⟨_, _, rfl, rfl, rfl⟩

theorem not_isMethod_headerLogicalLines (f : ClassFile) : ∀ l ∈ f.headerLogicalLines, l.isMethod = false := by
  refine List.forall_mem_cons.2 ⟨rfl, List.forall_mem_cons.2 ⟨rfl, List.forall_mem_append.2 ⟨?_, ?_⟩⟩⟩
  · intro l hl
    obtain ⟨s, -, rfl⟩ := List.mem_map.1 hl
    rfl
  · intro l hl
    obtain ⟨n, -, rfl⟩ := List.mem_map.1 hl
    rfl

end ClassFile

end SmaliLint
