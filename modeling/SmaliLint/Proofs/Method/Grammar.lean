import SmaliLint.Proofs.Lexer.Spacing
import SmaliLint.Proofs.Method.Declaration
import SmaliLint.Proofs.Method.Reading
import SmaliLint.Proofs.Method.Silence
import SmaliLint.Proofs.Validation.Severity

/-!
# The grammar of declarations

Nothing is found in a declaration just if it has its parts in order and is named as its modifiers ask for.

* `readReturnType_silent`, `readParameters_silent`, `readModifiers_silent` : the parts that were there if nothing was
  found in the reading of them; `Heading` : the words and the name;
* `ProperName`, `checkName_eq_nil_iff` : the name;
* `Line.IsDeclaration`, `found_ofLine_eq_nil_iff` : the grammar, for the lines of a text;
* `Methods.HasRoom`, `Methods.declare` : what a check of methods finds in a declaration besides, a constructor that was
  there before; `declaration_grammar` : the declarations in which it finds nothing.
-/

namespace SmaliLint

namespace Declaration

/-! ## Types -/

theorem readReturnType_silent {last : Token} {modifiers brackets ts : List Token}
    (h : (readReturnType last modifiers brackets false ts).found = []) :
    ∃ more type rest, ts = more ++ type :: rest ∧ (∀ t ∈ more, t.kind = .arrayOp) ∧
      (type.kind = .builtinType ∨ type.kind = .classType) ∧ ∀ t ∈ rest, t.kind = .space := by
  induction ts generalizing brackets with
  | nil => simp [readReturnType] at h
  | cons t ts ih =>
    rw [readReturnType] at h
    split at h
    next harray =>
      obtain ⟨more, type, rest, rfl, hmore, htype, hrest⟩ := ih h
      exact ⟨t :: more, type, rest, rfl, List.forall_mem_cons.2 ⟨harray, hmore⟩, htype, hrest⟩
    next =>
      split at h
      next htype =>
        have hspaces := unexpectedTokens_eq_nil_iff.1 h
        exact ⟨[], t, ts, rfl, by simp, htype, by simpa using hspaces⟩
      next => simp [prepend] at h

theorem readParameters_silent {last : Token} {modifiers ts : List Token}
    (h : (readParameters last modifiers false ts).found = []) :
    ∃ parameters close rest, ts = parameters ++ close :: rest ∧
      (∀ t ∈ parameters, t.kind = .builtinType ∨ t.kind = .classType ∨ t.kind = .arrayOp) ∧
      (close.kind = .paren ∧ close.reads ")" = true) ∧ (readReturnType last modifiers [] false rest).found = [] := by
  induction ts with
  | nil => simp [readParameters] at h
  | cons t ts ih =>
    rw [readParameters] at h
    split at h
    next hclose => exact ⟨[], t, ts, rfl, by simp, hclose, h⟩
    next =>
      split at h
      next ht =>
        obtain ⟨parameters, close, rest, rfl, hparameters, hclose, hrest⟩ := ih h
        exact ⟨t :: parameters, close, rest, rfl, List.forall_mem_cons.2 ⟨ht, hparameters⟩, hclose, hrest⟩
      next => simp [prepend] at h

/-! ## Words and the name -/

/-- The tokens are words in order, each after a single space, then a name after one, and `rest`. The visibility and the
modifiers that stand before them count. -/
structure Heading (visibility : Option Token) (modifiers ts words : List Token) (name : Token) (rest : List Token) :
    Prop where
  tokens : ∃ spaced space, Spaced words spaced ∧ ts = spaced ++ space :: name :: rest ∧ space.kind = .space ∧
    space.reads " " = true
  words_kind : ∀ t ∈ words, t.kind = .visibility ∨ t.kind = .modifier
  words_distinct : FlagWords visibility modifiers words
  name_kind : name.kind = .methodName

theorem Heading.cons {visibility visibility' : Option Token} {modifiers modifiers' ts words rest : List Token}
    {space w name : Token} (hspace : space.kind = .space) (hone : space.reads " " = true)
    (hw : w.kind = .visibility ∨ w.kind = .modifier) (h : Heading visibility' modifiers' ts words name rest)
    (hdistinct : FlagWords visibility modifiers (w :: words)) :
    Heading visibility modifiers (space :: w :: ts) (w :: words) name rest := by
  obtain ⟨spaced, last, hspaced, rfl, hlast⟩ := h.tokens
  exact ⟨⟨space :: w :: spaced, last, .cons hspace hone hspaced, rfl, hlast⟩,
    List.forall_mem_cons.2 ⟨hw, h.words_kind⟩, hdistinct, h.name_kind⟩

/-- A word that does not stand after a space is reported. -/
theorem readModifiers_gap (line : Line) (visibility : Option Token) (modifiers : List Token) {t : Token}
    (ht : t.kind ≠ .space) (ts : List Token) : (readModifiers line visibility modifiers false (t :: ts)).found ≠ [] := by
  rw [readModifiers, if_neg ht]
  dsimp only
  split
  next => split <;> simp [prepend]
  next => split <;> simp [prepend]
  next => simp [prepend]
  next => simp [prepend]

/-- A first token in which nothing is found is a single space. -/
theorem readModifiers_first {line : Line} {visibility : Option Token} {modifiers : List Token} {t : Token}
    {ts : List Token} (h : (readModifiers line visibility modifiers false (t :: ts)).found = []) :
    t.kind = .space ∧ t.reads " " = true ∧ (readModifiers line visibility modifiers true ts).found = [] := by
  by_cases hspace : t.kind = .space
  · rw [readModifiers, if_pos hspace] at h
    obtain ⟨hsingle, hrest⟩ := List.append_eq_nil_iff.1 h
    by_cases hone : t.reads " " = true
    · exact ⟨hspace, hone, hrest⟩
    · simp [hone] at hsingle
  · exact absurd h (readModifiers_gap line visibility modifiers hspace ts)

/-- **The words before the name.** Spaces stand apart, so each word has one before it, and the reading goes on two tokens
further. -/
theorem readModifiers_silent (line : Line) : ∀ (ts : List Token) {visibility : Option Token} {modifiers : List Token},
    SpacesApart ts → (modifiers.map (·.content)).Nodup → (readModifiers line visibility modifiers false ts).found = [] →
      ∃ words name rest, Heading visibility modifiers ts words name rest ∧
        checkName (modifiers ++ words.filter (·.kind = .modifier)) name = [] ∧
        (readParameters line.last (modifiers ++ words.filter (·.kind = .modifier)) false rest).found = []
  | [], _, _, _, _, h => by simp [readModifiers] at h
  | [t], _, _, _, _, h => by
    obtain ⟨-, -, hrest⟩ := readModifiers_first h
    simp [readModifiers] at hrest
  | space :: w :: ts, visibility, modifiers, hapart, hnodup, h => by
    obtain ⟨hspace, hone, hrest⟩ := readModifiers_first h
    obtain ⟨hnext, hapart⟩ := List.isChain_cons.1 hapart
    have hw : w.kind ≠ .space := hnext w rfl hspace
    have hapart : SpacesApart ts := (List.isChain_cons.1 hapart).2
    rw [readModifiers, if_neg hw] at hrest
    simp only [if_true, List.nil_append] at hrest
    split at hrest
    next hkind =>
      split at hrest
      next => simp [prepend, alreadyDeclared] at hrest
      next =>
        obtain ⟨words, name, rest, hheading, hname, hrest⟩ := readModifiers_silent line ts hapart hnodup hrest
        have hdistinct := (flagWords_cons_visibility hkind).2 ⟨rfl, hheading.words_distinct⟩
        refine ⟨w :: words, name, rest, hheading.cons hspace hone (.inl hkind) hdistinct, ?_⟩
        rw [List.filter_cons_of_neg (by simp [hkind])]
        exact ⟨hname, hrest⟩
    next hkind =>
      split at hrest
      next => simp [prepend, alreadyDeclared] at hrest
      next hfresh =>
        have hfresh : ∀ t ∈ modifiers, t.content ≠ w.content := by simpa [sameWord?] using hfresh
        have hnodup : ((modifiers ++ [w]).map (·.content)).Nodup := by
          rw [List.map_append, List.nodup_append]
          exact ⟨hnodup, by simp, by simpa using hfresh⟩
        obtain ⟨words, name, rest, hheading, hname, hrest⟩ := readModifiers_silent line ts hapart hnodup hrest
        have hdistinct := (flagWords_cons_modifier hkind).2 hheading.words_distinct
        refine ⟨w :: words, name, rest, hheading.cons hspace hone (.inr hkind) hdistinct, ?_⟩
        rw [List.append_assoc, List.singleton_append] at hname hrest
        rw [List.filter_cons_of_pos (by simp [hkind])]
        exact ⟨hname, hrest⟩
    next hkind =>
      obtain ⟨hname, hrest⟩ := List.append_eq_nil_iff.1 hrest
      have hnone : FlagWords visibility modifiers [] := ⟨by simp, by cases visibility <;> simp, by simpa using hnodup⟩
      refine ⟨[], w, ts, ⟨⟨[], space, .nil, rfl, hspace, hone⟩, by simp, hnone, hkind⟩, ?_⟩
      simpa using ⟨hname, hrest⟩
    next => simp [prepend] at hrest

end Declaration

/-! ## The name -/

/-- How a method is named: `<clinit>` if it is a static constructor, `<init>` if it is another constructor, and neither
if it is none. The token of a name ends in the parenthesis. -/
def ProperName (words : List Token) (name : Token) : Prop :=
  if hasModifier words "constructor" then
    if hasModifier words "static" then name.reads "<clinit>(" = true else name.reads "<init>(" = true
  else name.reads "<init>(" = false ∧ name.reads "<clinit>(" = false

theorem find?_reads_filter (words : List Token) (name : String) :
    ((words.filter (·.kind = .modifier)).find? (·.reads name)).isSome = hasModifier words name := by
  rw [Bool.eq_iff_iff, List.find?_isSome]
  simp [hasModifier, and_assoc]

theorem Declaration.checkName_eq_nil_iff {words : List Token} {name : Token} {w : Text}
    (hname : name.content = w ++ ['(']) :
    checkName (words.filter (·.kind = .modifier)) name = [] ↔ ProperName words name := by
  have hdrop : Text.dropSuffix '(' name.content = w := by simp [Text.dropSuffix, hname]
  have hreads : ∀ {word : String} {v : Text}, word.toList = v ++ ['('] → name.reads word = decide (w = v) := by
    intro word v hword
    rw [Token.reads, hname, hword, Bool.eq_iff_iff, beq_iff_eq, List.append_left_inj, decide_eq_true_iff]
  have hinit : name.reads "<init>(" = decide (w = "<init>".toList) := hreads (by decide)
  have hclinit : name.reads "<clinit>(" = decide (w = "<clinit>".toList) := hreads (by decide)
  have hone : ∀ (p : Prop) [Decidable p] (d : Diagnostic) (ds : List Diagnostic),
      (if p then [] else d :: ds) = [] ↔ decide p = true := by
    intro p _ d ds
    by_cases hp : p <;> simp [hp]
  have hneither : ∀ (p q : Prop) [Decidable p] [Decidable q] (d e : Diagnostic),
      (if p then [d] else if q then [e] else []) = [] ↔ decide p = false ∧ decide q = false := by
    intro p q _ _ d e
    by_cases hp : p <;> by_cases hq : q <;> simp [hp, hq]
  unfold checkName ProperName
  rw [hdrop, hinit, hclinit, ← find?_reads_filter, ← find?_reads_filter]
  cases (words.filter (·.kind = .modifier)).find? (·.reads "constructor") with
  | none => exact hneither _ _ _ _
  | some constructor =>
    cases (words.filter (·.kind = .modifier)).find? (·.reads "static") with
    | none => exact hone _ _ _
    | some static => exact hone _ _ _

/-- The name of a method is followed by a parenthesis. -/
theorem content_of_methodName {source : Text} {t : Token} (ht : t ∈ tokenize source) (hk : t.kind = .methodName) :
    ∃ w, t.content = w ++ ['('] := by
  obtain ⟨before, after, hstands⟩ := exists_standsIn ht
  have hrule : ⟨.methodName, .seq (.plus (.char (Vocabulary.nameChar "$<>_"))) (.word "(")⟩ ∈ Vocabulary.tokenRules := by
    simp [Vocabulary.tokenRules]
  obtain ⟨hmatch, -⟩ := hstands.matches_rule (hk ▸ hrule)
  obtain ⟨w, hw, -⟩ := matches_name_iff.1 hmatch
  exact ⟨w, hw⟩

/-! ## The whole declaration -/

/-- The line is a declaration in order: words, of which none says what another one does, the name that they ask for,
parameters and a type. -/
def Line.IsDeclaration (l : Line) : Prop :=
  ∃ words name brackets type, DeclarationShape l words name brackets type ∧ ProperName words name

/-- The parts of a declaration in which nothing is found. -/
theorem Declaration.shape_of_silent {l : Line} (hapart : SpacesApart l.toList) (htrimmed : l.Trimmed)
    (h : (ofLine l).found = []) : ∃ words name brackets type, DeclarationShape l words name brackets type := by
  have htail : SpacesApart l.tail := (List.isChain_cons.1 hapart).2
  obtain ⟨words, name, rest, hheading, -, hrest⟩ := readModifiers_silent l l.tail htail (by simp) h
  obtain ⟨spaced, space, hspaced, htokens, hspace⟩ := hheading.tokens
  obtain ⟨parameters, close, rest, rfl, hparameters, hclose, hrest⟩ := readParameters_silent hrest
  obtain ⟨brackets, type, rest, rfl, hbrackets, htype, hspaces⟩ := readReturnType_silent hrest
  obtain rfl : rest = [] := by
    cases hr : rest.getLast? with
    | none => exact List.getLast?_eq_none_iff.1 hr
    | some t =>
      refine absurd (hspaces t (List.mem_of_getLast? hr)) (htrimmed t ?_)
      rw [Line.toList, htokens]
      simp [List.getLast?_cons, List.getLast?_append, hr]
  exact ⟨words, name, brackets, type,
    ⟨⟨spaced, space, parameters, close, hspaced, htokens, hspace.1, hspace.2, hclose.1, hclose.2, hparameters⟩,
      hheading.words_kind, hheading.words_distinct, hheading.name_kind, hbrackets, htype⟩⟩

theorem DeclarationShape.name_mem {l : Line} {words brackets : List Token} {name type : Token}
    (h : DeclarationShape l words name brackets type) : name ∈ l.toList := by
  obtain ⟨spaced, space, parameters, close, -, htail, -⟩ := h.tail
  rw [Line.toList, htail]
  simp

/-- **The declarations of a text in which nothing is found** are those of the grammar. -/
theorem Declaration.found_ofLine_eq_nil_iff {source : Text} {l : Line} (hl : l ∈ logicalLines (tokenize source)) :
    (ofLine l).found = [] ↔ l.IsDeclaration := by
  have hfound : ∀ {words brackets : List Token} {name type : Token}, DeclarationShape l words name brackets type →
      ((ofLine l).found = [] ↔ ProperName words name) := by
    intro words brackets name type hshape
    obtain ⟨w, hw⟩ := content_of_methodName (mem_of_mem_logicalLines hl name hshape.name_mem) hshape.name_kind
    rw [hshape.ofLine_eq]
    exact checkName_eq_nil_iff hw
  constructor
  · intro h
    obtain ⟨words, name, brackets, type, hshape⟩ :=
      shape_of_silent (spacesApart_of_mem_logicalLines hl) (trimmed_of_mem_logicalLines hl) h
    exact ⟨words, name, brackets, type, hshape, (hfound hshape).1 h⟩
  · rintro ⟨words, name, brackets, type, hshape, hname⟩
    exact (hfound hshape).2 hname

/-! ## Constructors -/

namespace Methods

/-- The line does not declare a constructor, or the place for one of its kind is free. -/
def HasRoom (m : Methods) (l : Line) : Prop :=
  l.hasModifier "constructor" = true → m.place (l.hasModifier "static") = none

/-- What a check of methods reads off a declaration: a constructor is held against the one that was there before. -/
def declare (m : Methods) (l : Line) : Declaration :=
  let d := Declaration.ofLine l
  { d with found := d.found ++ (m.addConstructor l d).2 }

theorem addConstructor_eq_nil_iff (m : Methods) (l : Line) : (m.addConstructor l (.ofLine l)).2 = [] ↔ m.HasRoom l := by
  unfold addConstructor HasRoom place
  rw [Declaration.has_ofLine, Declaration.has_ofLine]
  cases l.hasModifier "constructor" with
  | false => simp
  | true =>
    cases l.hasModifier "static" with
    | true => cases m.staticConstructor <;> simp [alreadyDeclared]
    | false => cases m.instanceConstructor <;> simp [alreadyDeclared]

/-- Outside a method, what is said to a declaration is what is found in it. -/
theorem Outside.seeLine_eq {m : Methods} (hm : m.Outside) {l : Line} (hl : l.opensMethod = true) :
    (m.seeLine l).2 = (m.declare l).found := by
  rw [seeLine_of_opensMethod m hl]
  unfold openBlock
  dsimp only
  split
  next method hinside => exact absurd hinside (hm method)
  next => rfl

end Methods

/-- **The grammar of declarations.** Nothing is found in a `.method` line just if it has the shape of a declaration and
there is room for the constructor that it may declare. Its return type is then that of its last tokens; and from no line
whatever comes no return type without an error. -/
theorem declaration_grammar :
    (∀ (source : Text) (l : Line), l ∈ logicalLines (tokenize source) → l.opensMethod = true → ∀ m : Methods,
      ((m.declare l).found = [] ↔ m.HasRoom l ∧ l.IsDeclaration) ∧
        (m.Outside → (m.seeLine l).2 = (m.declare l).found)) ∧
      (∀ (l : Line) (words brackets : List Token) (name type : Token), DeclarationShape l words name brackets type →
        ∀ m : Methods, ∃ written,
          (m.declare l).returnType = .known (.ofTokens brackets type) written ∧ written.toList = brackets ++ [type]) ∧
      ∀ (l : Line) (m : Methods), (m.declare l).returnType = .unknown → ∃ d ∈ (m.declare l).found, d.severity = .error := by
  refine ⟨fun source l hl hopens m => ⟨?_, fun hm => hm.seeLine_eq hopens⟩, ?_, ?_⟩
  · show (Declaration.ofLine l).found ++ (m.addConstructor l (.ofLine l)).2 = [] ↔ _
    rw [List.append_eq_nil_iff, Declaration.found_ofLine_eq_nil_iff hl, m.addConstructor_eq_nil_iff, and_comm]
  · intro l words brackets name type hshape m
    obtain ⟨written, hwritten, htokens⟩ := ReturnType.ofTokens_eq brackets type
    refine ⟨written, ?_, htokens⟩
    show (Declaration.ofLine l).returnType = _
    rw [hshape.ofLine_eq, hwritten]
  · intro l m hunknown
    obtain ⟨d, hd, herror, -⟩ := Declaration.blamed_of_ofLine l hunknown
    exact ⟨d, List.mem_append_left _ hd, herror⟩

/-- A static constructor in order, which a check that has seen one before refuses. -/
theorem declaration_grammar_clinit :
    ∃ l ∈ logicalLines (tokenize ".method public static constructor <clinit>([ILa;)V # once".toList),
      l.opensMethod = true ∧ l.IsDeclaration ∧ (Methods.empty.declare l).found = [] ∧
        (Methods.declare { Methods.empty with staticConstructor := some l } l).found ≠ [] := by
  let source := ".method public static constructor <clinit>([ILa;)V # once".toList
  have hfacts : (logicalLines (tokenize source)).map (fun l => (l.opensMethod, (Methods.empty.declare l).found,
      l.hasModifier "constructor", l.hasModifier "static")) = [(true, [], true, true)] := by decide +kernel
  obtain ⟨l, hlines, hl⟩ := List.map_eq_singleton_iff.1 hfacts
  simp only [Prod.mk.injEq] at hl
  obtain ⟨hopens, hfound, hconstructor, hstatic⟩ := hl
  have hmem : l ∈ logicalLines (tokenize source) := hlines ▸ List.mem_singleton_self l
  have hgrammar := declaration_grammar.1 source l hmem hopens
  refine ⟨l, hmem, hopens, ((hgrammar .empty).1.1 hfound).2, hfound, fun hagain => ?_⟩
  have hroom := ((hgrammar { Methods.empty with staticConstructor := some l }).1.1 hagain).1 hconstructor
  rw [hstatic] at hroom
  cases hroom

end SmaliLint
