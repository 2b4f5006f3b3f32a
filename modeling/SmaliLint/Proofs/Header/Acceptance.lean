import Mathlib.Tactic.MkIffOfInductiveProp
import SmaliLint.Proofs.Validation.Grouped
import SmaliLint.Proofs.Validation.LineByLine
import SmaliLint.Proofs.Validation.Run

/-!
# The headers in which nothing is found

* `Line.StartsWith` : the first token of a line is a header directive; `Line.headerDirective?_eq_some_iff` : that is how
  header lines are recognised;
* `Line.ClassShape`, `Line.OperandShape` : what a header line should look like; `checkClassShape_eq_nil_iff`,
  `checkOperandShape_eq_nil_iff` : these are the lines in whose shape nothing is found;
* `Header.readLines` : a check of headers that is shown lines only; `findings_run_header` : a run is such a check;
* `Header.Accepts` : what the lines to come may be, given those seen; `Header.readLines_eq_nil_iff` : that is so, by
  induction on them, with `Header.accepts_cons` as the step;
* `HeaderShape`, `header_acceptance` : the same for all lines of a text.
-/

namespace SmaliLint

/-! ## The directive of a line -/

/-- The text of a directive. -/
def HeaderDirective.word : HeaderDirective → String
  | .class_ => ".class"
  | .super => ".super"
  | .source => ".source"
  | .implements => ".implements"

/-- The first token of the line is a directive of that text. -/
def Line.StartsWith (d : HeaderDirective) (l : Line) : Prop :=
  l.head.kind = .directive ∧ l.head.content = d.word.toList

instance (d : HeaderDirective) (l : Line) : Decidable (l.StartsWith d) := inferInstanceAs (Decidable (_ ∧ _))

theorem Line.headerDirective?_eq_some_iff {l : Line} {d : HeaderDirective} :
    l.headerDirective? = some d ↔ l.StartsWith d := by
  have hreads : ∀ word, l.head.reads word = true ↔ l.head.content = word.toList := fun _ => beq_iff_eq
  unfold headerDirective? StartsWith
  simp only [hreads]
  cases d <;> simp only [HeaderDirective.word] <;> split_ifs <;> simp_all

/-! ## The shape of a line -/

/-- A directive, a space, any number of spaces, at most one visibility and modifiers that all differ, none of them
`static`, and the name of a class. -/
def Line.ClassShape (l : Line) : Prop :=
  ∃ space words name, l.tail = space :: (words ++ [name]) ∧ space.kind = .space ∧ name.kind = .classType ∧
    (∀ t ∈ words, t.kind = .space ∨ t.kind = .visibility ∨ t.kind = .modifier) ∧
    (words.filter (·.kind = .visibility)).length ≤ 1 ∧
    ((words.filter (·.kind = .modifier)).map (·.content)).Nodup ∧
    ∀ t ∈ words, t.kind = .modifier → t.reads "static" = false

/-- A directive, a space and a token of the given kind. -/
def Line.OperandShape (kind : TokenKind) (l : Line) : Prop :=
  ∃ space value, l.tail = [space, value] ∧ space.kind = .space ∧ value.kind = kind

/-- Logical lines do not end in a space. -/
def Line.Trimmed (l : Line) : Prop := ∀ t, l.toList.getLast? = some t → t.kind ≠ .space

theorem trimmed_of_mem_logicalLines {ts : List Token} {l : Line} (h : l ∈ logicalLines ts) : l.Trimmed := by
  obtain ⟨piece, -, -, htrim⟩ := exists_piece h
  unfold Line.Trimmed
  rw [← htrim]
  exact trim_getLast? piece

theorem checkSpaceAfter_eq_nil_iff {ts : List Token} :
    checkSpaceAfter ts = [] ↔ ∀ t, ts.head? = some t → t.kind = .space := by
  cases ts with
  | nil => simp [checkSpaceAfter]
  | cons t ts => by_cases ht : t.kind = .space <;> simp [checkSpaceAfter, ht]

theorem unexpectedTokens_eq_nil_iff {ts : List Token} : unexpectedTokens ts = [] ↔ ts = [] := List.map_eq_nil_iff

theorem checkOperandShape_eq_nil_iff {operand : Operand} {l : Line} :
    checkOperandShape operand l = [] ↔ l.OperandShape operand.kind := by
  unfold checkOperandShape Line.OperandShape
  match l.tail with
  | [] => simp
  | [t] => simp
  | space :: value :: rest =>
    have hshape : (∃ a b, space :: value :: rest = [a, b] ∧ a.kind = .space ∧ b.kind = operand.kind) ↔
        space.kind = .space ∧ value.kind = operand.kind ∧ rest = [] := by
      constructor
      · rintro ⟨_, _, ⟨rfl, rfl, rfl⟩, ha, hb⟩
        exact ⟨ha, hb, rfl⟩
      · rintro ⟨ha, hb, rfl⟩
        exact ⟨space, value, rfl, ha, hb⟩
    rw [hshape]
    by_cases hv : value.kind = operand.kind
    · simp [hv, checkSpaceAfter_eq_nil_iff, unexpectedTokens_eq_nil_iff]
    · simp [hv]

/-- Words in which no visibility and no modifier stands twice, given those before them. -/
structure FlagWords (visibility : Option Token) (modifiers words : List Token) : Prop where
  kinds : ∀ t ∈ words, t.kind = .space ∨ t.kind = .visibility ∨ t.kind = .modifier
  visible : (visibility.toList ++ words.filter (·.kind = .visibility)).length ≤ 1
  distinct : ((modifiers ++ words.filter (·.kind = .modifier)).map (·.content)).Nodup

section FlagWords
variable {visibility : Option Token} {modifiers words : List Token} {t : Token}

theorem flagWords_cons_space (ht : t.kind = .space) :
    FlagWords visibility modifiers (t :: words) ↔ FlagWords visibility modifiers words := by
  constructor
  · rintro ⟨hkinds, hvisible, hdistinct⟩
    exact ⟨(List.forall_mem_cons.1 hkinds).2, by simpa [ht] using hvisible, by simpa [ht] using hdistinct⟩
  · rintro ⟨hkinds, hvisible, hdistinct⟩
    exact ⟨List.forall_mem_cons.2 ⟨.inl ht, hkinds⟩, by simpa [ht] using hvisible, by simpa [ht] using hdistinct⟩

theorem flagWords_cons_visibility (ht : t.kind = .visibility) :
    FlagWords visibility modifiers (t :: words) ↔ visibility = none ∧ FlagWords (some t) modifiers words := by
  constructor
  · rintro ⟨hkinds, hvisible, hdistinct⟩
    cases visibility with
    | some first => simp [ht] at hvisible
    | none =>
      exact ⟨rfl, (List.forall_mem_cons.1 hkinds).2, by simpa [ht] using hvisible, by simpa [ht] using hdistinct⟩
  · rintro ⟨rfl, hkinds, hvisible, hdistinct⟩
    exact ⟨List.forall_mem_cons.2 ⟨.inr (.inl ht), hkinds⟩, by simpa [ht] using hvisible, by simpa [ht] using hdistinct⟩

theorem flagWords_cons_modifier (ht : t.kind = .modifier) :
    FlagWords visibility modifiers (t :: words) ↔ FlagWords visibility (modifiers ++ [t]) words := by
  constructor
  · rintro ⟨hkinds, hvisible, hdistinct⟩
    exact ⟨(List.forall_mem_cons.1 hkinds).2, by simpa [ht] using hvisible, by simpa [ht] using hdistinct⟩
  · rintro ⟨hkinds, hvisible, hdistinct⟩
    exact ⟨List.forall_mem_cons.2 ⟨.inr (.inr ht), hkinds⟩, by simpa [ht] using hvisible, by simpa [ht] using hdistinct⟩

/-- A modifier that is there already is one too many. -/
theorem sameWord?_of_flagWords (h : FlagWords visibility (modifiers ++ [t]) words) : sameWord? modifiers t = none := by
  cases hsame : sameWord? modifiers t with
  | none => rfl
  | some first =>
    have hcontent : first.content = t.content := by simpa using List.find?_some hsame
    have hdistinct := h.distinct
    rw [List.map_append, List.map_append, List.append_assoc, List.nodup_append] at hdistinct
    refine absurd hcontent (hdistinct.2.2 first.content ?_ t.content (by simp))
    exact List.mem_map_of_mem (List.mem_of_find?_eq_some hsame)

end FlagWords

/-- The tokens after `.class` are words, none of them `static`, a name, and maybe spaces. -/
def ClassTail (visibility : Option Token) (modifiers ts : List Token) : Prop :=
  ∃ words name rest, ts = words ++ name :: rest ∧ FlagWords visibility modifiers words ∧
    (∀ t ∈ words, t.kind = .modifier → t.reads "static" = false) ∧ name.kind = .classType ∧ ∀ t ∈ rest, t.kind = .space

section ClassTail
variable {visibility : Option Token} {modifiers ts : List Token} {t : Token}

theorem classTail_cons (ht : t.kind ≠ .classType) :
    ClassTail visibility modifiers (t :: ts) ↔
      (t.kind = .modifier → t.reads "static" = false) ∧
        ∃ words name rest, ts = words ++ name :: rest ∧ FlagWords visibility modifiers (t :: words) ∧
          (∀ t ∈ words, t.kind = .modifier → t.reads "static" = false) ∧ name.kind = .classType ∧
          ∀ t ∈ rest, t.kind = .space := by
  constructor
  · rintro ⟨words, name, rest, hsplit, hwords, hstatic, hname, hrest⟩
    cases words with
    | nil =>
      obtain ⟨rfl, -⟩ := List.cons.inj hsplit
      exact absurd hname ht
    | cons w words =>
      obtain ⟨rfl, hts⟩ := List.cons.inj hsplit
      obtain ⟨hfirst, hstatic⟩ := List.forall_mem_cons.1 hstatic
      exact ⟨hfirst, words, name, rest, hts, hwords, hstatic, hname, hrest⟩
  · rintro ⟨hfirst, words, name, rest, rfl, hwords, hstatic, hname, hrest⟩
    exact ⟨t :: words, name, rest, rfl, hwords, List.forall_mem_cons.2 ⟨hfirst, hstatic⟩, hname, hrest⟩

theorem classTail_cons_space (ht : t.kind = .space) :
    ClassTail visibility modifiers (t :: ts) ↔ ClassTail visibility modifiers ts := by
  rw [classTail_cons (by simp [ht]), and_iff_right (by simp [ht])]
  simp only [flagWords_cons_space ht]
  rfl

theorem classTail_cons_visibility (ht : t.kind = .visibility) :
    ClassTail visibility modifiers (t :: ts) ↔ visibility = none ∧ ClassTail (some t) modifiers ts := by
  rw [classTail_cons (by simp [ht]), and_iff_right (by simp [ht])]
  simp only [flagWords_cons_visibility ht, ClassTail]
  grind

theorem classTail_cons_modifier (ht : t.kind = .modifier) :
    ClassTail visibility modifiers (t :: ts) ↔
      t.reads "static" = false ∧ ClassTail visibility (modifiers ++ [t]) ts := by
  rw [classTail_cons (by simp [ht])]
  simp only [flagWords_cons_modifier ht, ht, forall_const]
  rfl

theorem not_classTail_of_sameWord {first : Token} (h : sameWord? modifiers t = some first) :
    ¬ ClassTail visibility (modifiers ++ [t]) ts := by
  rintro ⟨words, -, -, -, hwords, -⟩
  rw [sameWord?_of_flagWords hwords] at h
  cases h

theorem classTail_cons_classType (ht : t.kind = .classType) (hmodifiers : (modifiers.map (·.content)).Nodup) :
    ClassTail visibility modifiers (t :: ts) ↔ ∀ u ∈ ts, u.kind = .space := by
  constructor
  · rintro ⟨words, name, rest, hsplit, hwords, -, -, hrest⟩
    cases words with
    | nil =>
      obtain ⟨rfl, rfl⟩ := List.cons.inj hsplit
      exact hrest
    | cons w words =>
      obtain ⟨rfl, -⟩ := List.cons.inj hsplit
      simpa [ht] using hwords.kinds t List.mem_cons_self
  · intro hrest
    refine ⟨[], t, ts, rfl, ⟨by simp, ?_, by simpa using hmodifiers⟩, by simp, ht, hrest⟩
    cases visibility <;> simp

end ClassTail

theorem checkClassWords_eq_nil_iff (line : Line) (visibility : Option Token) (modifiers ts : List Token) :
    (modifiers.map (·.content)).Nodup →
      (checkClassWords line visibility modifiers ts = [] ↔ ClassTail visibility modifiers ts) := by
  fun_induction checkClassWords line visibility modifiers ts with
  | case1 => simp [ClassTail]
  | case2 visibility modifiers t ts ht ih => rwa [classTail_cons_space ht]
  | case3 modifiers t ts ht first _ => simp [alreadyDeclared, classTail_cons_visibility ht]
  | case4 modifiers t ts ht ih => rwa [classTail_cons_visibility ht, and_iff_right rfl]
  | case5 visibility modifiers t ts ht hstatic _ => simp [classTail_cons_modifier ht, hstatic]
  | case6 visibility modifiers t ts ht hstatic first hfirst _ =>
    simp [alreadyDeclared, classTail_cons_modifier ht, not_classTail_of_sameWord hfirst]
  | case7 visibility modifiers t ts ht hstatic hnone ih =>
    intro hmodifiers
    have hfresh : ∀ u ∈ modifiers, u.content ≠ t.content := by simpa [sameWord?] using hnone
    rw [classTail_cons_modifier ht, and_iff_right (by simpa using hstatic)]
    refine ih ?_
    rw [List.map_append, List.nodup_append]
    exact ⟨hmodifiers, by simp, by simpa using hfresh⟩
  | case8 visibility modifiers t ts ht =>
    intro hmodifiers
    rw [classTail_cons_classType ht hmodifiers, unexpectedTokens_eq_nil_iff]
    simp
  | case9 visibility modifiers t ts hspace hvisibility hmodifier hclass _ =>
    have hno : ¬ ClassTail visibility modifiers (t :: ts) := by
      rw [classTail_cons hclass]
      rintro ⟨-, words, -, -, -, hwords, -⟩
      rcases hwords.kinds t List.mem_cons_self with h | h | h
      · exact hspace h
      · exact hvisibility h
      · exact hmodifier h
    simp [hno]

/-- **A class line is in order just if it has the shape of one.** -/
theorem checkClassShape_eq_nil_iff {l : Line} (hl : l.Trimmed) : checkClassShape l = [] ↔ l.ClassShape := by
  have hwords := checkClassWords_eq_nil_iff l none [] l.tail (by simp)
  rw [checkClassShape, List.append_eq_nil_iff, hwords, checkSpaceAfter_eq_nil_iff]
  constructor
  · rintro ⟨hspace, words, name, rest, htail, hwords, hstatic, hname, hrest⟩
    obtain rfl : rest = [] := by
      cases hr : rest.getLast? with
      | none => exact List.getLast?_eq_none_iff.1 hr
      | some t =>
        refine absurd (hrest t (List.mem_of_getLast? hr)) (hl t ?_)
        rw [Line.toList, htail]
        simp [List.getLast?_cons, List.getLast?_append, hr]
    cases words with
    | nil =>
      have := hspace name (by rw [htail]; rfl)
      simp [hname] at this
    | cons space words =>
      have hs : space.kind = .space := hspace space (by rw [htail]; rfl)
      obtain ⟨hkinds, hvisible, hdistinct⟩ := (flagWords_cons_space hs).1 hwords
      exact ⟨space, words, name, htail, hs, hname, hkinds, hvisible, hdistinct, (List.forall_mem_cons.1 hstatic).2⟩
  · rintro ⟨space, words, name, htail, hs, hname, hkinds, hvisible, hdistinct, hstatic⟩
    have hwords : FlagWords none [] (space :: words) := (flagWords_cons_space hs).2 ⟨hkinds, hvisible, hdistinct⟩
    exact ⟨by simp [htail, hs], space :: words, name, [], htail, hwords,
      List.forall_mem_cons.2 ⟨by simp [hs], hstatic⟩, hname, by simp⟩

/-! ## Lines only -/

/-- What is found in the lines to come and at their end. -/
def Header.readLines (h : Header) : List Line → List Diagnostic
  | [] => h.missing
  | l :: ls => (h.seeLine l).2 ++ (h.seeLine l).1.readLines ls

theorem findings_run_header_tokens (h : Header) (ts : List Token) (ss : List Signal) :
    findings (run [.header h] (ts.map .token ++ ss)) = findings (run [.header h] ss) := by
  induction ts generalizing h with
  | nil => rfl
  | cons t ts ih =>
    rw [List.map_cons, List.cons_append, findings_run_cons]
    show findings (run [.header (h.seeToken t)] (ts.map .token ++ ss)) = _
    rw [ih]
    have hessence : [Check.header (h.seeToken t)].map Check.essence = [Check.header h].map Check.essence := rfl
    exact findings_run_essence hessence ss

theorem findings_run_header (h : Header) (ls : List Line) :
    findings (run [.header h] (ls.flatMap Line.schedule ++ [.finish])) = h.readLines ls := by
  induction ls generalizing h with
  | nil => simp [run, findings, Check.event, Check.step, Header.readLines]
  | cons l ls ih =>
    rw [List.flatMap_cons, Line.schedule, List.append_assoc, List.append_assoc, findings_run_header_tokens,
      List.singleton_append, findings_run_cons, Header.readLines, ← ih]
    simp [Check.step]

theorem findings_trace_header (source : Text) :
    findings (trace [.header] source) = Header.empty.readLines (logicalLines (tokenize source)) := by
  rw [trace, ← findings_run_audible, audible_signals]
  exact findings_run_header .empty _

/-! ## The lines to come -/

/-- The lines of a directive that may stand once, given the line that has taken its place. -/
def Slot (shape : Line → Prop) : Option Line → List Line → Prop
  | _, [] => True
  | none, [l] => shape l
  | _, _ => False

theorem slot_cons {shape : Line → Prop} {place : Option Line} {l : Line} {ls : List Line} :
    Slot shape place (l :: ls) ↔ place = none ∧ shape l ∧ Slot shape (some l) ls := by
  cases place <;> cases ls <;> simp [Slot]

/-- A line that takes its place. -/
theorem slot_fill {P : Line → Prop} {shape : Line → List Diagnostic} {l : Line} (hshape : shape l = [] ↔ P l)
    (place : Option Line) (entity : String) (ls : List Line) :
    Slot P place (l :: ls) ↔
      (Header.fill place l entity shape).2 = [] ∧ Slot P (Header.fill place l entity shape).1 ls := by
  rw [slot_cons]
  cases place with
  | none => simp [Header.fill, hshape]
  | some first => simp [Header.fill, alreadyDeclared]

theorem Header.isSome_fill (place : Option Line) (l : Line) (entity : String) (shape : Line → List Diagnostic) :
    (fill place l entity shape).1.isSome = true := by
  cases place <;> rfl

/-- The lines that start with the given directive. -/
def linesOf (d : HeaderDirective) (ls : List Line) : List Line := ls.filter (·.StartsWith d)

theorem linesOf_eq (d : HeaderDirective) (ls : List Line) : linesOf d ls = ls.filter (·.headerDirective? = some d) := by
  simp only [linesOf, Line.headerDirective?_eq_some_iff]

theorem linesOf_cons (d : HeaderDirective) (l : Line) (ls : List Line) :
    linesOf d (l :: ls) = if l.headerDirective? = some d then l :: linesOf d ls else linesOf d ls := by
  simp [linesOf_eq, List.filter_cons]

theorem linesOf_append (d : HeaderDirective) (ls ks : List Line) : linesOf d (ls ++ ks) = linesOf d ls ++ linesOf d ks :=
  List.filter_append ls ks

/-- What the lines to come may be: each shape is right, no place is taken twice, and class and superclass are there at
the end unless there is no line at all. -/
@[mk_iff] structure Header.Accepts (h : Header) (ls : List Line) : Prop where
  classLine : Slot Line.ClassShape h.classLine (linesOf .class_ ls)
  superLine : Slot (Line.OperandShape .classType) h.superLine (linesOf .super ls)
  sourceLine : Slot (Line.OperandShape .string) h.sourceLine (linesOf .source ls)
  implements : ∀ l ∈ linesOf .implements ls, l.OperandShape .classType
  complete : (h.top = none ∧ ls = []) ∨
    (h.classLine.isSome ∨ linesOf .class_ ls ≠ []) ∧ (h.superLine.isSome ∨ linesOf .super ls ≠ [])

namespace Header

theorem missing_eq_nil_iff {h : Header} : h.missing = [] ↔ h.Accepts [] := by
  have hmissing : h.missing = [] ↔ h.top = none ∨ h.classLine.isSome ∧ h.superLine.isSome := by
    unfold missing
    cases h.top with
    | none => simp
    | some top => cases h.classLine <;> cases h.superLine <;> simp
  rw [hmissing]
  constructor
  · intro hc
    refine ⟨trivial, trivial, trivial, by simp [linesOf], by simpa [linesOf] using hc⟩
  · rintro ⟨-, -, -, -, hc⟩
    simpa [linesOf] using hc

/-- **One line.** -/
theorem accepts_cons {h : Header} {l : Line} (hl : l.Trimmed) {ls : List Line} :
    h.Accepts (l :: ls) ↔ (h.seeLine l).2 = [] ∧ (h.seeLine l).1.Accepts ls := by
  have hnamed : checkOperandShape classOperand l = [] ↔ l.OperandShape .classType := checkOperandShape_eq_nil_iff
  have hquoted : checkOperandShape stringOperand l = [] ↔ l.OperandShape .string := checkOperandShape_eq_nil_iff
  have hclass := slot_fill (checkClassShape_eq_nil_iff hl) h.classLine "Class"
  have hsuper := slot_fill hnamed h.superLine "Super"
  have hsource := slot_fill hquoted h.sourceLine "Source"
  unfold seeLine seeDirective
  cases hd : l.headerDirective? with
  | none => simp [accepts_iff, linesOf_cons, hd]
  | some d =>
    cases d with
    | class_ => simp [accepts_iff, linesOf_cons, hd, hclass, isSome_fill, and_assoc]
    | super => simp [accepts_iff, linesOf_cons, hd, hsuper, isSome_fill, and_assoc, and_left_comm]
    | source => simp [accepts_iff, linesOf_cons, hd, hsource, and_assoc, and_left_comm]
    | implements => simp [accepts_iff, linesOf_cons, hd, hnamed, and_assoc, and_left_comm]

theorem readLines_eq_nil_iff {h : Header} {ls : List Line} (hls : ∀ l ∈ ls, l.Trimmed) :
    h.readLines ls = [] ↔ h.Accepts ls := by
  induction ls generalizing h with
  | nil => exact missing_eq_nil_iff
  | cons l ls ih =>
    obtain ⟨hl, hls⟩ := List.forall_mem_cons.1 hls
    rw [readLines, List.append_eq_nil_iff, ih hls, accepts_cons hl]

end Header

/-! ## All lines -/

/-- The header of a text: one class line and one super line, at most one source line and any number of interfaces,
each of its shape. -/
structure HeaderShape (ls : List Line) : Prop where
  classLine : ∃ l, linesOf .class_ ls = [l] ∧ l.ClassShape
  superLine : ∃ l, linesOf .super ls = [l] ∧ l.OperandShape .classType
  sourceLine : (linesOf .source ls).length ≤ 1 ∧ ∀ l ∈ linesOf .source ls, l.OperandShape .string
  implements : ∀ l ∈ linesOf .implements ls, l.OperandShape .classType

theorem slot_none_iff {shape : Line → Prop} {ls : List Line} :
    Slot shape none ls ↔ ls.length ≤ 1 ∧ ∀ l ∈ ls, shape l := by
  match ls with
  | [] => simp [Slot]
  | [l] => simp [Slot]
  | _ :: _ :: _ => simp [Slot]

theorem slot_none_and_ne_nil_iff {shape : Line → Prop} {ls : List Line} :
    Slot shape none ls ∧ ls ≠ [] ↔ ∃ l, ls = [l] ∧ shape l := by
  match ls with
  | [] => simp
  | [l] => simp [Slot]
  | _ :: _ :: _ => simp [Slot]

theorem Header.accepts_empty_iff {ls : List Line} : Header.empty.Accepts ls ↔ ls = [] ∨ HeaderShape ls := by
  constructor
  · rintro ⟨hclass, hsuper, hsource, himplements, hcomplete⟩
    rcases hcomplete with ⟨-, rfl⟩ | ⟨hc, hs⟩
    · exact .inl rfl
    · have hc : linesOf .class_ ls ≠ [] := by simpa [Header.empty] using hc
      have hs : linesOf .super ls ≠ [] := by simpa [Header.empty] using hs
      exact .inr ⟨slot_none_and_ne_nil_iff.1 ⟨hclass, hc⟩, slot_none_and_ne_nil_iff.1 ⟨hsuper, hs⟩,
        slot_none_iff.1 hsource, himplements⟩
  · rintro (rfl | ⟨hclass, hsuper, hsource, himplements⟩)
    · exact ⟨trivial, trivial, trivial, by simp [linesOf], .inl ⟨rfl, rfl⟩⟩
    · obtain ⟨hclass, hc⟩ := slot_none_and_ne_nil_iff.2 hclass
      obtain ⟨hsuper, hs⟩ := slot_none_and_ne_nil_iff.2 hsuper
      exact ⟨hclass, hsuper, slot_none_iff.2 hsource, himplements, .inr ⟨.inr hc, .inr hs⟩⟩

theorem findings_trace_header_eq_nil_iff (source : Text) :
    findings (trace [.header] source) = [] ↔
      logicalLines (tokenize source) = [] ∨ HeaderShape (logicalLines (tokenize source)) := by
  rw [findings_trace_header, Header.readLines_eq_nil_iff fun l => trimmed_of_mem_logicalLines,
    Header.accepts_empty_iff]

/-- **The headers that are accepted.** Nothing is found in the header of a text just if the text has no line at all,
or it has exactly one class line and one super line, at most one source line and any number of interfaces, each of
its shape. -/
theorem header_acceptance (source : Text) :
    validate source (some ["header"]) = .ok [] ↔
      logicalLines (tokenize source) = [] ∨ HeaderShape (logicalLines (tokenize source)) := by
  have hvalidate : validate source (some ["header"]) = .ok (findings (trace [.header] source)) :=
    validate_names source [.header]
  rw [hvalidate, ← findings_trace_header_eq_nil_iff]
  simp

example : validate ".class final LA;\n.super LB;".toList (some ["header"]) = .ok [] := by decide +kernel

end SmaliLint
