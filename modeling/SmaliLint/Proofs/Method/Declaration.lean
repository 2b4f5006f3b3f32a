import SmaliLint.Method.Declaration
import SmaliLint.Proofs.Header.Acceptance

/-!
# Declarations that are in order

How a declaration is read that has its parts in order: words after single spaces, the name, parameters, the closing
parenthesis and a type.

* `Spaced ws ts` : the tokens `ts` are the words `ws`, each after a single space; `readModifiers_spaced` : how they are
  read;
* `readParameters_types`, `readReturnType_type` : the parameters and the type;
* `DeclarationShape`, `DeclarationShape.ofLine_eq` : the whole declaration, in which nothing but the name may be wrong.
-/

namespace SmaliLint

/-- Words that each stand after a single space. -/
inductive Spaced : List Token → List Token → Prop
  | nil : Spaced [] []
  | cons {space w : Token} {ws ts : List Token} : space.kind = .space → space.reads " " = true → Spaced ws ts →
      Spaced (w :: ws) (space :: w :: ts)

namespace Declaration

theorem prepend_nil (d : Declaration) : d.prepend [] = d := rfl

/-! ## Words -/

theorem readModifiers_space (line : Line) (visibility : Option Token) (modifiers : List Token) (afterSpace : Bool)
    {t : Token} (ht : t.kind = .space) (hone : t.reads " " = true) (ts : List Token) :
    readModifiers line visibility modifiers afterSpace (t :: ts) = readModifiers line visibility modifiers true ts := by
  rw [readModifiers, if_pos ht, if_pos hone, prepend_nil]

theorem readModifiers_spaced (line : Line) {ws ts : List Token} (h : Spaced ws ts) {visibility : Option Token}
    {modifiers : List Token} (hwords : ∀ t ∈ ws, t.kind = .visibility ∨ t.kind = .modifier)
    (hflags : FlagWords visibility modifiers ws) (afterSpace : Bool) (rest : List Token) :
    ∃ visibility' afterSpace', readModifiers line visibility modifiers afterSpace (ts ++ rest) =
      readModifiers line visibility' (modifiers ++ ws.filter (·.kind = .modifier)) afterSpace' rest := by
  induction h generalizing visibility modifiers afterSpace with
  | nil => exact ⟨visibility, afterSpace, by simp⟩
  | @cons space w ws ts hspace hone _ ih =>
    obtain ⟨hw, hwords⟩ := List.forall_mem_cons.1 hwords
    rw [List.cons_append, List.cons_append, readModifiers_space line visibility modifiers afterSpace hspace hone]
    rcases hw with hw | hw
    · obtain ⟨rfl, hrest⟩ := (flagWords_cons_visibility hw).1 hflags
      obtain ⟨visibility', afterSpace', hread⟩ := ih hwords hrest false
      refine ⟨visibility', afterSpace', ?_⟩
      rw [readModifiers, if_neg (by simp [hw])]
      simp only [hw, if_true, prepend_nil, hread]
      simp [hw]
    · have hflags := (flagWords_cons_modifier hw).1 hflags
      obtain ⟨visibility', afterSpace', hread⟩ := ih hwords hflags false
      refine ⟨visibility', afterSpace', ?_⟩
      rw [readModifiers, if_neg (by simp [hw])]
      simp only [hw, sameWord?_of_flagWords hflags, if_true, prepend_nil, hread]
      simp [hw]

/-! ## Types -/

theorem readReturnType_type (last : Token) (modifiers : List Token) {brackets : List Token} {type : Token}
    (hbrackets : ∀ t ∈ brackets, t.kind = .arrayOp) (htype : type.kind = .builtinType ∨ type.kind = .classType)
    (before : List Token) (flagged : Bool) :
    readReturnType last modifiers before flagged (brackets ++ [type]) =
      ⟨[], .ofTokens (before ++ brackets) type, modifiers⟩ := by
  induction brackets generalizing before with
  | nil =>
    have hkind : type.kind ≠ .arrayOp := by rcases htype with h | h <;> simp [h]
    rw [List.nil_append, readReturnType, if_neg hkind, if_pos htype, List.append_nil]
    rfl
  | cons b brackets ih =>
    obtain ⟨hb, hbrackets⟩ := List.forall_mem_cons.1 hbrackets
    rw [List.cons_append, readReturnType, if_pos hb, ih hbrackets, List.append_assoc, List.singleton_append]

theorem readParameters_types (last : Token) (modifiers : List Token) {parameters : List Token} {close : Token}
    (hparameters : ∀ t ∈ parameters, t.kind = .builtinType ∨ t.kind = .classType ∨ t.kind = .arrayOp)
    (hclose : close.kind = .paren ∧ close.reads ")" = true) (flagged : Bool) (rest : List Token) :
    readParameters last modifiers flagged (parameters ++ close :: rest) =
      readReturnType last modifiers [] false rest := by
  induction parameters with
  | nil => rw [List.nil_append, readParameters, if_pos hclose]
  | cons t parameters ih =>
    obtain ⟨ht, hparameters⟩ := List.forall_mem_cons.1 hparameters
    have hparen : ¬ (t.kind = .paren ∧ t.reads ")" = true) := by
      rintro ⟨hkind, -⟩
      simp [hkind] at ht
    rw [List.cons_append, readParameters, if_neg hparen, if_pos ht, ih hparameters]

end Declaration

/-! ## The whole declaration -/

/-- The parts of a declaration, in order. -/
structure DeclarationShape (line : Line) (words : List Token) (name : Token) (brackets : List Token) (type : Token) :
    Prop where
  tail : ∃ spaced space parameters close, Spaced words spaced ∧
    line.tail = spaced ++ space :: name :: (parameters ++ close :: (brackets ++ [type])) ∧
    space.kind = .space ∧ space.reads " " = true ∧ close.kind = .paren ∧ close.reads ")" = true ∧
    ∀ t ∈ parameters, t.kind = .builtinType ∨ t.kind = .classType ∨ t.kind = .arrayOp
  words_kind : ∀ t ∈ words, t.kind = .visibility ∨ t.kind = .modifier
  words_distinct : FlagWords none [] words
  name_kind : name.kind = .methodName
  brackets_kind : ∀ t ∈ brackets, t.kind = .arrayOp
  type_kind : type.kind = .builtinType ∨ type.kind = .classType

/-- **A declaration whose parts are in order** can only have the wrong name. -/
theorem DeclarationShape.ofLine_eq {line : Line} {words brackets : List Token} {name type : Token}
    (h : DeclarationShape line words name brackets type) :
    Declaration.ofLine line =
      ⟨Declaration.checkName (words.filter (·.kind = .modifier)) name, .ofTokens brackets type,
        words.filter (·.kind = .modifier)⟩ := by
  obtain ⟨spaced, space, parameters, close, hspaced, htail, hspace, hone, hclose, hreads, hparameters⟩ := h.tail
  obtain ⟨visibility, afterSpace, hwords⟩ := Declaration.readModifiers_spaced line hspaced h.words_kind h.words_distinct false
    (space :: name :: (parameters ++ close :: (brackets ++ [type])))
  rw [Declaration.ofLine, htail, hwords, Declaration.readModifiers_space _ _ _ _ hspace hone, Declaration.readModifiers,
    if_neg (by simp [h.name_kind])]
  simp only [h.name_kind, if_true, List.nil_append]
  rw [Declaration.readParameters_types _ _ hparameters ⟨hclose, hreads⟩,
    Declaration.readReturnType_type _ _ h.brackets_kind h.type_kind, List.nil_append]
  simp [Declaration.prepend]

end SmaliLint
