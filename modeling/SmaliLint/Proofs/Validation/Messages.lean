import SmaliLint.Proofs.Validation.Grouped

/-!
# Messages

A thing that is there twice gets a hint and an error whose messages name it and end in the same words. In the header a
directive is said to be `declared` twice and a word of a line to be `defined` twice; among methods it is the other way
round, constructors are `defined` and words are `declared`. So the two can be told apart by how their messages end.

* `repeatMessages`, `Diagnostic.repeats` : the messages about a thing that is there twice; `Unrepeated verb ds` : none of
  `ds` has one;
* `Avoids endings ds` : no message of `ds` ends in one of the given ways; `Avoids.unrepeated`, `Avoids.not_missing` :
  then none of them is one of the messages that end so;
* `avoids_checkClassShape`, `avoids_checkOperandShape` : the shape of a header line repeats no directive and misses none;
* `Declaration.avoids_readModifiers`, `Methods.avoids_seeToken`, `Methods.avoids_closeBlock` : the words of a declaration,
  a return and the end of a method repeat no constructor.
-/

namespace SmaliLint

/-! ## Repetitions -/

/-- The messages about a thing that is there twice. -/
def repeatMessages (entity verb : String) : List String := [s!"{entity} {verb} here.", s!"{entity} already {verb}."]

/-- Whether the diagnostic is one of a pair about a thing that is there twice. -/
def Diagnostic.repeats (entity verb : String) (d : Diagnostic) : Bool := d.message ∈ repeatMessages entity verb

/-- Nothing is said to be there twice in the given word. -/
def Unrepeated (verb : String) (ds : List Diagnostic) : Prop := ∀ d ∈ ds, ∀ entity, d.repeats entity verb = false

theorem repeats_alreadyDeclared (first second : Line) (entity verb : String) :
    ∀ d ∈ alreadyDeclared first second entity verb, d.repeats entity verb = true := by
  simp [alreadyDeclared, Diagnostic.repeats, repeatMessages, Line.report]

/-! ## How messages end -/

/-- Whether a message ends in one of the given ways. -/
def endsIn (endings : List Text) (message : String) : Bool := endings.any (·.isSuffixOf message.toList)

/-- No message ends in one of the given ways. -/
def Avoids (endings : List Text) (ds : List Diagnostic) : Prop := ∀ d ∈ ds, endsIn endings d.message = false

/-- How the messages about a thing that is there twice end. -/
def repeatEndings (verb : String) : List Text := [s!" {verb} here.".toList, s!" already {verb}.".toList]

/-- A text that ends in `tail` ends in another text only if one of them ends in the other. -/
theorem not_suffix_append {s text tail : List Char} (hs : ¬ s <:+ tail) (htail : ¬ tail <:+ s) : ¬ s <:+ text ++ tail := by
  intro h
  rcases Nat.le_total s.length tail.length with hle | hle
  · exact hs (List.suffix_of_suffix_length_le h (List.suffix_append text tail) hle)
  · exact htail (List.suffix_of_suffix_length_le (List.suffix_append text tail) h hle)

theorem endsIn_eq_false_iff {endings : List Text} {message : String} :
    endsIn endings message = false ↔ ∀ s ∈ endings, ¬ s <:+ message.toList := by
  simp only [endsIn, List.any_eq_false, List.isSuffixOf_iff_suffix]

section Avoids
variable {endings : List Text} {ds es : List Diagnostic} {span : Span} {severity : Severity} {message : String}

theorem avoids_nil : Avoids endings [] := List.forall_mem_nil _

theorem Avoids.append (hds : Avoids endings ds) (hes : Avoids endings es) : Avoids endings (ds ++ es) :=
  List.forall_mem_append.2 ⟨hds, hes⟩

theorem Avoids.cons (h : endsIn endings message = false) (hds : Avoids endings ds) :
    Avoids endings (⟨span, severity, message⟩ :: ds) :=
  List.forall_mem_cons.2 ⟨h, hds⟩

theorem avoids_single (h : endsIn endings message = false) : Avoids endings [⟨span, severity, message⟩] :=
  .cons h avoids_nil

/-- A message in fixed words. It is taken by its characters, so that they need not be read off its bytes. -/
theorem Avoids.fixed {cs : List Char} (h : endings.any (·.isSuffixOf cs) = false) (hds : Avoids endings ds) :
    Avoids endings (⟨span, severity, String.ofList cs⟩ :: ds) := by
  refine .cons ?_ hds
  rw [endsIn, String.toList_ofList]
  exact h

theorem endsIn_append (text tail : Text) (hmessage : message.toList = text ++ tail)
    (h : ∀ s ∈ endings, ¬ s <:+ tail ∧ ¬ tail <:+ s) : endsIn endings message = false := by
  refine endsIn_eq_false_iff.2 fun s hs => ?_
  rw [hmessage]
  exact not_suffix_append (h s hs).1 (h s hs).2

/-- What is said of a thing that is there twice ends in other ways, whatever the thing is. -/
theorem avoids_alreadyDeclared {verb : String} (first second : Line) (entity : String)
    (h : ∀ tail ∈ repeatEndings verb, ∀ s ∈ endings, ¬ s <:+ tail ∧ ¬ tail <:+ s) :
    Avoids endings (alreadyDeclared first second entity verb) := by
  have hends : ∀ tail ∈ repeatEndings verb, ∀ message : String, message.toList = entity.toList ++ tail →
      endsIn endings message = false :=
    fun tail htail message hmessage => endsIn_append entity.toList tail hmessage (h tail htail)
  obtain ⟨hhere, hends⟩ := List.forall_mem_cons.1 hends
  obtain ⟨halready, -⟩ := List.forall_mem_cons.1 hends
  exact .cons (hhere _ (by simp [toString])) (avoids_single (halready _ (by simp [toString])))

theorem Avoids.mono {fewer : List Text} (h : Avoids endings ds) (hsub : fewer ⊆ endings) : Avoids fewer ds := by
  intro d hd
  exact endsIn_eq_false_iff.2 fun s hs => endsIn_eq_false_iff.1 (h d hd) s (hsub hs)

theorem Avoids.unrepeated {verb : String} (h : Avoids endings ds) (hends : repeatEndings verb ⊆ endings) :
    Unrepeated verb ds := by
  intro d hd entity
  have hno := endsIn_eq_false_iff.1 (h d hd)
  refine decide_eq_false fun hmessage => ?_
  simp only [repeatMessages, List.mem_cons, List.not_mem_nil, or_false] at hmessage
  rcases hmessage with hmessage | hmessage
  · refine hno s!" {verb} here.".toList (hends (by simp [repeatEndings])) ⟨entity.toList, ?_⟩
    simp [hmessage, toString]
  · refine hno s!" already {verb}.".toList (hends (by simp [repeatEndings])) ⟨entity.toList, ?_⟩
    simp [hmessage, toString]

end Avoids

theorem avoids_unexpectedTokens {endings : List Text} (h : endsIn endings "New line expected." = false) (ts : List Token) :
    Avoids endings (unexpectedTokens ts) := by
  induction ts with
  | nil => exact avoids_nil
  | cons t ts ih => exact .cons h ih

/-! ## Header lines -/

/-- What a text without a class line is told at its end, and one without a super line. -/
def missingMessages : List String :=
  ["Missing class directive.", "Missing super directive.\nExtend 'Ljava/lang/Object;' by default."]

/-- How these messages end. -/
def missingEndings : List Text := [" directive.".toList, " default.".toList]

/-- How the messages end that say of a directive that it is there twice, or not at all. -/
def headerEndings : List Text := repeatEndings "declared" ++ missingEndings

theorem Avoids.not_missing {ds : List Diagnostic} (h : Avoids missingEndings ds) :
    ∀ d ∈ ds, d.message ∉ missingMessages := by
  have hends : ∀ message ∈ missingMessages, endsIn missingEndings message = true := by decide
  intro d hd hmessage
  have hfalse := (h d hd).symm.trans (hends d.message hmessage)
  cases hfalse

theorem avoids_checkSpaceAfter (ts : List Token) : Avoids headerEndings (checkSpaceAfter ts) := by
  unfold checkSpaceAfter
  split
  · exact avoids_nil
  · split
    · exact avoids_nil
    · exact .fixed (by decide) avoids_nil

theorem avoids_checkClassWords (line : Line) (visibility : Option Token) (modifiers ts : List Token) :
    Avoids headerEndings (checkClassWords line visibility modifiers ts) := by
  have hdefined : ∀ (first second : Line) (entity : String),
      Avoids headerEndings (alreadyDeclared first second entity "defined") :=
    fun first second entity => avoids_alreadyDeclared first second entity (by decide)
  fun_induction checkClassWords line visibility modifiers ts with
  | case1 => exact .fixed (by decide) avoids_nil
  | case2 => assumption
  | case3 => exact (hdefined _ _ _).append ‹_›
  | case4 => assumption
  | case5 => exact .fixed (by decide) ‹_›
  | case6 => exact (hdefined _ _ _).append ‹_›
  | case7 => assumption
  | case8 => exact avoids_unexpectedTokens (by decide) _
  | case9 => exact .fixed (by decide) ‹_›

theorem avoids_checkClassShape (line : Line) : Avoids headerEndings (checkClassShape line) :=
  (avoids_checkSpaceAfter _).append (avoids_checkClassWords _ _ _ _)

theorem avoids_checkOperandShape {operand : Operand} (h : endsIn headerEndings operand.expected = false)
    (line : Line) : Avoids headerEndings (checkOperandShape operand line) := by
  unfold checkOperandShape
  split
  · refine ((avoids_checkSpaceAfter _).append ?_).append (avoids_unexpectedTokens (by decide) _)
    split
    · exact avoids_nil
    · exact avoids_single h
  · -- The usage ends in a quotation mark, whatever the line starts with.
    exact avoids_single (endsIn_append _ "'".toList String.toList_append (by decide))

theorem Header.avoids_missing (h : Header) : Avoids (repeatEndings "declared") h.missing := by
  unfold missing
  split
  · exact avoids_nil
  · refine .append ?_ ?_
    · split
      · exact .fixed (by decide) avoids_nil
      · exact avoids_nil
    · split
      · exact .fixed (by decide) avoids_nil
      · exact avoids_nil

/-! ## Method lines -/

namespace Declaration

theorem avoids_prepend {endings : List Text} {ds : List Diagnostic} {d : Declaration} (hds : Avoids endings ds)
    (hd : Avoids endings d.found) : Avoids endings (d.prepend ds).found :=
  hds.append hd

theorem avoids_readReturnType (last : Token) (modifiers brackets : List Token) (flagged : Bool)
    (ts : List Token) : Avoids (repeatEndings "defined") (readReturnType last modifiers brackets flagged ts).found := by
  fun_induction readReturnType last modifiers brackets flagged ts with
  | case1 brackets flagged =>
    cases flagged
    · exact .fixed (by decide) avoids_nil
    · exact avoids_nil
  | case2 => assumption
  | case3 => exact avoids_unexpectedTokens (by decide) _
  | case4 => exact avoids_prepend (.fixed (by decide) avoids_nil) ‹_›

theorem avoids_readParameters (last : Token) (modifiers : List Token) (flagged : Bool) (ts : List Token) :
    Avoids (repeatEndings "defined") (readParameters last modifiers flagged ts).found := by
  fun_induction readParameters last modifiers flagged ts with
  | case1 flagged =>
    cases flagged
    · exact .fixed (by decide) avoids_nil
    · exact avoids_nil
  | case2 => exact avoids_readReturnType _ _ _ _ _
  | case3 => assumption
  | case4 => exact avoids_prepend (.fixed (by decide) avoids_nil) ‹_›

theorem avoids_checkName (modifiers : List Token) (nameToken : Token) :
    Avoids (repeatEndings "defined") (checkName modifiers nameToken) := by
  fun_cases checkName modifiers nameToken with
  | case1 => exact avoids_nil
  | case2 => exact .fixed (by decide) (.fixed (by decide) (.fixed (by decide) avoids_nil))
  | case3 => exact avoids_nil
  | case4 => exact .fixed (by decide) (.fixed (by decide) avoids_nil)
  | case5 => exact .fixed (by decide) avoids_nil
  | case6 => exact .fixed (by decide) avoids_nil
  | case7 => exact avoids_nil

theorem avoids_readModifiers (line : Line) (visibility : Option Token) (modifiers : List Token)
    (afterSpace : Bool) (ts : List Token) :
    Avoids (repeatEndings "defined") (readModifiers line visibility modifiers afterSpace ts).found := by
  have hgap : ∀ (afterSpace : Bool) (t : Token),
      Avoids (repeatEndings "defined") (if afterSpace then [] else [t.report .error "Space expected."]) := by
    intro afterSpace t
    cases afterSpace
    · exact .fixed (by decide) avoids_nil
    · exact avoids_nil
  have hdeclared : ∀ (first second : Line) (entity : String),
      Avoids (repeatEndings "defined") (alreadyDeclared first second entity "declared") :=
    fun first second entity => avoids_alreadyDeclared first second entity (by decide)
  fun_induction readModifiers line visibility modifiers afterSpace ts with
  | case1 => exact .fixed (by decide) avoids_nil
  | case2 visibility modifiers afterSpace t ts hspace ih =>
    refine avoids_prepend ?_ ih
    split
    · exact avoids_nil
    · exact .fixed (by decide) avoids_nil
  | case3 => exact avoids_prepend ((hgap _ _).append (hdeclared _ _ _)) ‹_›
  | case4 => exact avoids_prepend (hgap _ _) ‹_›
  | case5 => exact avoids_prepend ((hgap _ _).append (hdeclared _ _ _)) ‹_›
  | case6 => exact avoids_prepend (hgap _ _) ‹_›
  | case7 =>
    exact avoids_prepend ((hgap _ _).append (avoids_checkName _ _)) (avoids_readParameters _ _ _ _)
  | case8 => exact avoids_prepend ((hgap _ _).append (.fixed (by decide) avoids_nil)) ‹_›

end Declaration

theorem avoids_checkReturn (declared : ReturnType) (t : Token) :
    Avoids (repeatEndings "defined") (checkReturn declared t) := by
  cases declared with
  | unknown => exact .fixed (by decide) avoids_nil
  | known kind written =>
    unfold checkReturn
    dsimp only
    split
    · exact avoids_nil
    · split
      · exact avoids_nil
      · -- Behind the instruction, whichever it is, the message goes on.
        refine .fixed (by decide) (avoids_single ?_)
        exact endsIn_append _ "' expected.".toList String.toList_append (by decide)

namespace Methods

theorem avoids_seeToken (m : Methods) (t : Token) : Avoids (repeatEndings "defined") (m.seeToken t).2 := by
  unfold seeToken
  split
  · split
    · exact avoids_checkReturn _ _
    · exact avoids_nil
  · exact avoids_nil

theorem avoids_closeBlock (m : Methods) (line : Line) : Avoids (repeatEndings "defined") (m.closeBlock line).2 := by
  unfold closeBlock
  split
  · exact .fixed (by decide) avoids_nil
  · exact .fixed (by decide) (.fixed (by decide) avoids_nil)
  · dsimp only
    split
    · exact .fixed (by decide) avoids_nil
    · exact avoids_nil

end Methods

end SmaliLint
