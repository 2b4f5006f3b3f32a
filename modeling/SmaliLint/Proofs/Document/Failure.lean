import SmaliLint.Proofs.Document.Lookup
import SmaliLint.Proofs.Outcome

/-!
# A change of a range succeeds, or changes nothing

A change fails before it has written anything, and just when its document is not open, there is no range, or one of the
ends of the range has no offset.

* `Text.lineAt?` : the line that a number stands for, from the first line on or from the last one back;
* `Text.Misplaced name s line e` : all that keeps a position on a line from having an offset.
  `Encoding.offsetOf_eq_error_iff` : nothing else does;
* `Store.changeInSteps` : a change that writes to the store step by step. What was written before a failure would stay;
  `Store.changeInSteps_run` : it comes to the same as the change in one piece, so nothing was.
-/

namespace SmaliLint

/-! ## Positions without an offset -/

/-- The names of the encodings that columns can be counted in. -/
def Encoding.names : List String := ["utf-8", "utf-16", "utf-32"]

/-- The line that a number stands for, if there is one. Negative numbers count from the last line back. -/
def Text.lineAt? (s : Text) (line : Int) : Option Text :=
  if 0 ≤ line then s.lines[line.toNat]? else s.lines.reverse[(-line - 1).toNat]?

/-- Why the positions on a line of `s` have no offset when columns are counted in the encoding of the given name. -/
inductive Text.Misplaced (name : String) (s : Text) (line : Int) : PositionError → Prop where
  | beforeFirst : line < -(s.lines.length : Int) → Misplaced name s line (.noSuchLine line)
  /-- There is a character to be measured. -/
  | unmeasured {target : Text} : name ∉ Encoding.names → s.lineAt? line = some target → target ≠ [] →
      Misplaced name s line (.unknownEncoding name)

/-- Why a range has no place in `s`. Its start is looked at first, and then its end. -/
def EditRange.Misplaced (name : String) (s : Text) (r : EditRange) (e : PositionError) : Prop :=
  s.Misplaced name r.startLine e ∨ (∀ cause, ¬s.Misplaced name r.startLine cause) ∧ s.Misplaced name r.stopLine e

theorem lineNumber?_eq_none_iff {count : Nat} {line : Int} : lineNumber? count line = none ↔ line < -(count : Int) := by
  unfold lineNumber?
  split
  · simp only [reduceCtorEq, false_iff]
    omega
  · split
    · simp only [reduceCtorEq, false_iff]
      omega
    · simp only [true_iff]
      omega

theorem Text.getElem?_lines_of_lineNumber? {s : Text} {line : Int} {n : Nat}
    (h : lineNumber? s.lines.length line = some n) : s.lines[n]? = s.lineAt? line := by
  unfold lineNumber? at h
  unfold lineAt?
  split at h
  · next hpos =>
    rw [if_pos hpos, ← Option.some.inj h]
  · next hneg =>
    rw [if_neg hneg]
    split at h
    · next hcount =>
      rw [List.getElem?_reverse (by omega), ← Option.some.inj h]
      congr 1
      omega
    · cases h

namespace Encoding

theorem ofName_cases (name : String) :
    (name ∈ names ∧ ∃ u, ofName name = .known u) ∨ (name ∉ names ∧ ofName name = .unknown name) := by
  unfold ofName
  by_cases h8 : name = "utf-8"
  · exact .inl ⟨by simp [h8, names], .utf8, if_pos h8⟩
  · by_cases h16 : name = "utf-16"
    · exact .inl ⟨by simp [h16, names], .utf16, by rw [if_neg h8, if_pos h16]⟩
    · by_cases h32 : name = "utf-32"
      · exact .inl ⟨by simp [h32, names], .utf32, by rw [if_neg h8, if_neg h16, if_pos h32]⟩
      · exact .inr ⟨by simp [h8, h16, h32, names], by rw [if_neg h8, if_neg h16, if_neg h32]⟩

theorem offsetOf_known_eq_error_iff {u : Units} {s : Text} {line column : Int} {e : PositionError} :
    (known u).offsetOf s line column = .error e ↔ line < -(s.lines.length : Int) ∧ e = .noSuchLine line := by
  rw [← lineNumber?_eq_none_iff, offsetOf, offsetAt?]
  rcases lineNumber? s.lines.length line with - | n
  · simp only [Option.map_none, Except.error.injEq, true_and, eq_comm]
  · simp only [Option.map_some, reduceCtorEq, false_and]

theorem offsetOf_unknown_eq_error_iff {name : String} {s : Text} {line column : Int} {e : PositionError} :
    (unknown name).offsetOf s line column = .error e ↔
      (line < -(s.lines.length : Int) ∧ e = .noSuchLine line) ∨
        ∃ target, s.lineAt? line = some target ∧ target ≠ [] ∧ e = .unknownEncoding name := by
  cases hnumber : lineNumber? s.lines.length line with
  | none =>
    have hline := lineNumber?_eq_none_iff.1 hnumber
    have hnone : s.lineAt? line = none := by
      rw [Text.lineAt?, if_neg (by omega), List.getElem?_eq_none (by rw [List.length_reverse]; omega)]
    simp only [offsetOf, hnumber, hnone, hline, Except.error.injEq, eq_comm, true_and, reduceCtorEq, false_and,
      exists_false, or_false]
  | some n =>
    have hline : ¬line < -(s.lines.length : Int) := by
      rw [← lineNumber?_eq_none_iff, hnumber]
      exact nofun
    simp only [offsetOf, hnumber, hline, ← Text.getElem?_lines_of_lineNumber? hnumber, false_and, false_or]
    rcases s.lines[n]? with - | ⟨- | ⟨c, target⟩⟩ <;> simp [eq_comm]

/-- **Why a position has no offset.** -/
theorem offsetOf_eq_error_iff {name : String} {s : Text} {line column : Int} {e : PositionError} :
    (ofName name).offsetOf s line column = .error e ↔ s.Misplaced name line e := by
  rcases ofName_cases name with ⟨hname, u, hu⟩ | ⟨hname, hunknown⟩
  · rw [hu, offsetOf_known_eq_error_iff]
    constructor
    · rintro ⟨hline, rfl⟩
      exact .beforeFirst hline
    · rintro (hline | ⟨hnot, -, -⟩)
      · exact ⟨hline, rfl⟩
      · exact absurd hname hnot
  · rw [hunknown, offsetOf_unknown_eq_error_iff]
    constructor
    · rintro (⟨hline, rfl⟩ | ⟨target, htarget, hne, rfl⟩)
      · exact .beforeFirst hline
      · exact .unmeasured hname htarget hne
    · rintro (hline | ⟨-, htarget, hne⟩)
      · exact .inl ⟨hline, rfl⟩
      · exact .inr ⟨_, htarget, hne, rfl⟩

end Encoding

/-! ## When a change fails -/

namespace Store

theorem offsetIn_eq_error_iff {name : String} {s : Text} {line column : Int} {e : StoreError} :
    offsetIn s (.ofName name) line column = .error e ↔ ∃ cause, s.Misplaced name line cause ∧ e = .position cause := by
  unfold offsetIn
  simp only [mapError_eq_error_iff, Encoding.offsetOf_eq_error_iff]

theorem exists_offsetIn_eq_ok_iff {name : String} {s : Text} {line column : Int} :
    (∃ o, offsetIn s (.ofName name) line column = .ok o) ↔ ∀ cause, ¬s.Misplaced name line cause := by
  constructor
  · rintro ⟨o, ho⟩ cause hcause
    cases ho.symm.trans (offsetIn_eq_error_iff.2 ⟨cause, hcause, rfl⟩)
  · intro hnone
    cases ho : offsetIn s (.ofName name) line column with
    | ok o => exact ⟨o, rfl⟩
    | error e =>
      obtain ⟨cause, hcause, -⟩ := offsetIn_eq_error_iff.1 ho
      exact absurd hcause (hnone cause)

theorem changeRange_of_closed {s : Store} {uri : String} (hd : s.get? uri = none) (range : Option EditRange)
    (text : Text) (version : Option Int) (encoding : Encoding) :
    s.changeRange uri range text version encoding = .error (.notOpen uri) := by
  unfold changeRange
  rw [get_of_closed hd]
  rfl

theorem changeRange_none {s : Store} {uri : String} {d : Document} (hd : s.get? uri = some d) (text : Text)
    (version : Option Int) (encoding : Encoding) :
    s.changeRange uri none text version encoding = .error (.noRange uri) := by
  unfold changeRange
  rw [get_eq_ok.2 hd]
  rfl

theorem changeRange_some {s : Store} {uri : String} {d : Document} (hd : s.get? uri = some d) (r : EditRange)
    (text : Text) (version : Option Int) (encoding : Encoding) :
    s.changeRange uri (some r) text version encoding = do
      let start ← offsetIn d.text encoding r.startLine r.startColumn
      let stop ← offsetIn d.text encoding r.stopLine r.stopColumn
      return s.put (d.update (d.text.splice start stop text) version) := by
  unfold changeRange
  rw [get_eq_ok.2 hd]
  rfl

theorem changeRange_some_eq_error_iff {s : Store} {uri : String} {d : Document} (hd : s.get? uri = some d)
    {r : EditRange} {text : Text} {version : Option Int} {name : String} {e : StoreError} :
    s.changeRange uri (some r) text version (.ofName name) = .error e ↔
      ∃ cause, r.Misplaced name d.text cause ∧ e = .position cause := by
  have hend : ∀ start : Nat, (do
      let stop ← offsetIn d.text (.ofName name) r.stopLine r.stopColumn
      return s.put (d.update (d.text.splice start stop text) version)) = .error e ↔
        offsetIn d.text (.ofName name) r.stopLine r.stopColumn = .error e := by
    intro start
    rw [bind_eq_error_iff]
    exact or_iff_left (by rintro ⟨stop, -, ⟨⟩⟩)
  rw [changeRange_some hd, bind_eq_error_iff]
  simp only [hend, exists_and_right, exists_offsetIn_eq_ok_iff, offsetIn_eq_error_iff, EditRange.Misplaced, or_and_right,
    exists_or, and_assoc, exists_and_left]

/-- **All that makes a change fail**, in the order in which it is found. -/
theorem changeRange_eq_error_iff {s : Store} {uri : String} {range : Option EditRange} {text : Text}
    {version : Option Int} {name : String} {e : StoreError} :
    s.changeRange uri range text version (.ofName name) = .error e ↔
      (s.get? uri = none ∧ e = .notOpen uri) ∨
        ∃ d, s.get? uri = some d ∧
          ((range = none ∧ e = .noRange uri) ∨
            ∃ r, range = some r ∧ ∃ cause, r.Misplaced name d.text cause ∧ e = .position cause) := by
  cases hd : s.get? uri with
  | none => simp [changeRange_of_closed hd, eq_comm]
  | some d =>
    rcases range with - | r
    · simp [changeRange_none hd, eq_comm]
    · simp [changeRange_some_eq_error_iff hd]

theorem applyAll_changeRange (s : Store) (uri : String) (range : Option EditRange) (text : Text) (version : Option Int)
    (encoding : Encoding) :
    s.applyAll [.changeRange uri range text version encoding] =
      match s.changeRange uri range text version encoding with
      | .ok t => ⟨t, [], none⟩
      | .error e => ⟨s, [], some e⟩ := by
  simp only [applyAll, apply]
  cases s.changeRange uri range text version encoding <;> rfl

/-! ## A change in steps -/

/-- Changes a document in its place, if it is open. -/
def amend (uri : String) (f : Document → Document) (s : Store) : Store :=
  match s.get? uri with
  | some d => s.put (f d)
  | none => s

/-- Steps on a store. What a step has written is there even if a later one fails. -/
abbrev Steps := EStateM StoreError Store

/-- A step that writes nothing, and may fail. -/
def Steps.of {α : Type} (x : Except StoreError α) : Steps α := fun s =>
  match x with
  | .ok a => .ok a s
  | .error e => .error e s

/-- A change of a range in steps: the text, the revision and the version are written one after the other. -/
def changeInSteps (uri : String) (range : Option EditRange) (text : Text) (version : Option Int) (encoding : Encoding) :
    Steps Unit := do
  let d ← Steps.of ((← getThe Store).get uri)
  match range with
  | none => throw (.noRange uri)
  | some r =>
    let start ← Steps.of (offsetIn d.text encoding r.startLine r.startColumn)
    let stop ← Steps.of (offsetIn d.text encoding r.stopLine r.stopColumn)
    modify (amend uri fun d => { d with text := d.text.splice start stop text })
    modify (amend uri fun d => { d with revision := d.revision + 1 })
    match version with
    | some v => modify (amend uri fun d => { d with version := some v })
    | none => pure ()

theorem amend_of_open {s : Store} {uri : String} {d : Document} (hd : s.get? uri = some d) (f : Document → Document) :
    s.amend uri f = s.put (f d) := by
  rw [amend, hd]

theorem put_put (s : Store) {d e : Document} (h : d.uri = e.uri) : (s.put d).put e = s.put e := by
  unfold put
  rw [List.map_map]
  refine congrArg Store.mk (List.map_congr_left fun x _ => ?_)
  by_cases hx : x.uri = e.uri <;> simp [h, hx]

theorem amend_amend {s : Store} {uri : String} {d : Document} (hd : s.get? uri = some d) {f : Document → Document}
    (hf : ∀ d, (f d).uri = d.uri) {g : Document → Document} (hg : ∀ d, (g d).uri = d.uri) :
    (s.amend uri f).amend uri g = s.amend uri (g ∘ f) := by
  have huri : (f d).uri = uri := (hf d).trans (uri_of_get? hd)
  have hnext : (s.put (f d)).get? uri = some (f d) := by
    rw [get?_put, if_pos huri, hd]
    rfl
  rw [amend_of_open hd, amend_of_open hnext, amend_of_open hd, put_put s (hg (f d)).symm]
  rfl

theorem Steps.of_bind {α β : Type} (x : Except StoreError α) (f : α → Steps β) (s : Store) :
    (Steps.of x >>= f) s =
      match x with
      | .ok a => f a s
      | .error e => .error e s := by
  cases x <;> rfl

/-- The three steps that write make of an open document what a change makes of it. -/
theorem amend_update {s : Store} {uri : String} {d : Document} (hd : s.get? uri = some d) (new : Text → Text)
    (version : Option Int) :
    let written := (s.amend uri fun d => { d with text := new d.text }).amend uri fun d =>
      { d with revision := d.revision + 1 }
    (match version with
      | some v => written.amend uri fun d => { d with version := some v }
      | none => written) = s.put (d.update (new d.text) version) := by
  intro written
  have hwritten : written = s.amend uri fun d => { d with text := new d.text, revision := d.revision + 1 } := by
    apply amend_amend hd <;> exact fun _ => rfl
  rcases version with - | v
  · show written = _
    rw [hwritten, amend_of_open hd]
    rfl
  · show written.amend uri _ = _
    rw [hwritten, amend_amend hd, amend_of_open hd]
    · rfl
    · exact fun _ => rfl
    · exact fun _ => rfl

/-- **Nothing is written before the last step that can fail.** -/
theorem changeInSteps_run (s : Store) (uri : String) (range : Option EditRange) (text : Text) (version : Option Int)
    (encoding : Encoding) :
    (changeInSteps uri range text version encoding).run s =
      match s.changeRange uri range text version encoding with
      | .ok t => .ok () t
      | .error e => .error e s := by
  show (Steps.of (s.get uri) >>= _) s = _
  rw [Steps.of_bind]
  cases hd : s.get? uri with
  | none => rw [changeRange_of_closed hd, get_of_closed hd]
  | some d =>
    rw [get_eq_ok.2 hd]
    rcases range with - | r
    · rw [changeRange_none hd]
      rfl
    · rw [changeRange_some hd]
      show (Steps.of (offsetIn d.text encoding r.startLine r.startColumn) >>= _) s = _
      rw [Steps.of_bind]
      cases offsetIn d.text encoding r.startLine r.startColumn with
      | error e => rfl
      | ok start =>
        show (Steps.of (offsetIn d.text encoding r.stopLine r.stopColumn) >>= _) s = _
        rw [Steps.of_bind]
        cases offsetIn d.text encoding r.stopLine r.stopColumn with
        | error e => rfl
        | ok stop =>
          have hwritten := amend_update hd (fun old => old.splice start stop text) version
          rcases version with - | v <;> exact congrArg (EStateM.Result.ok ()) hwritten

end Store

/-- **A change of a range succeeds, or changes nothing.** It fails just when the document is not open, else when there
is no range, else when its start or else its end has no place in the text. Then the store is as it was, even where
writes are not taken back; otherwise the text stands between the two offsets, as one more change. -/
theorem change_range_all_or_nothing (s : Store) (uri : String) (range : Option EditRange) (text : Text)
    (version : Option Int) (name : String) :
    let outcome := s.changeRange uri range text version (.ofName name)
    let inSteps := (Store.changeInSteps uri range text version (.ofName name)).run s
    let run := s.applyAll [.changeRange uri range text version (.ofName name)]
    (outcome = .error (.notOpen uri) ↔ s.get? uri = none) ∧
      (∀ d, s.get? uri = some d →
        (outcome = .error (.noRange uri) ↔ range = none) ∧
          ∀ r, range = some r → ∀ e,
            outcome = .error e ↔ ∃ cause, r.Misplaced name d.text cause ∧ e = .position cause) ∧
      (∀ e, outcome = .error e → inSteps = .error e s ∧ run = ⟨s, [], some e⟩) ∧
      ∀ t, outcome = .ok t → inSteps = .ok () t ∧ run = ⟨t, [], none⟩ ∧
        ∃ d r start stop, s.get? uri = some d ∧ range = some r ∧
          (Encoding.ofName name).offsetOf d.text r.startLine r.startColumn = .ok start ∧
          (Encoding.ofName name).offsetOf d.text r.stopLine r.stopColumn = .ok stop ∧
          t.get? uri = some
            { uri := uri
              text := d.text.take start ++ text ++ d.text.drop (max start stop)
              version := version <|> d.version
              revision := d.revision + 1 } ∧
          ∀ u, u ≠ uri → t.get? u = s.get? u := by
  intro outcome inSteps run
  have hsteps := s.changeInSteps_run uri range text version (.ofName name)
  have hrun := s.applyAll_changeRange uri range text version (.ofName name)
  have hfails : ∀ e, outcome = .error e ↔ _ := fun e => Store.changeRange_eq_error_iff
  refine ⟨?_, fun d hd => ⟨?_, ?_⟩, fun e he => ?_, fun t ht => ?_⟩
  · simp [hfails]
  · simp [hfails, hd]
  · rintro r rfl e
    simp [hfails, hd]
  · have he : s.changeRange uri range text version (.ofName name) = .error e := he
    rw [he] at hsteps hrun
    exact ⟨hsteps, hrun⟩
  · have ht : s.changeRange uri range text version (.ofName name) = .ok t := ht
    rw [ht] at hsteps hrun
    obtain ⟨d, r, start, stop, hd, hr, hstart, hstop, rfl⟩ := Store.changeRange_eq_ok ht
    refine ⟨hsteps, hrun, d, r, start, stop, hd, hr, mapError_eq_ok_iff.1 hstart, mapError_eq_ok_iff.1 hstop, ?_, ?_⟩
    · rw [Store.get?_put_update hd, if_pos rfl, ← Store.uri_of_get? hd]
      rfl
    · intro u hu
      rw [Store.get?_put_update hd, if_neg hu.symm]

/-- In an encoding that is not known, the empty last line has an offset, and the line before it has none: a range from
the one to the other fails at its end, and one that only names the empty line and a line past it succeeds. -/
theorem change_range_all_or_nothing_unknown :
    let s : Store := ⟨[⟨"a", "x\n".toList, some 1, 0⟩]⟩
    s.changeRange "a" (some ⟨-1, 0, -2, 0⟩) [] none (.ofName "utf-7") = .error (.position (.unknownEncoding "utf-7")) ∧
      (Store.changeInSteps "a" (some ⟨-1, 0, -2, 0⟩) [] none (.ofName "utf-7")).run s =
        .error (.position (.unknownEncoding "utf-7")) s ∧
      ∃ t, s.changeRange "a" (some ⟨-1, 0, 2, 0⟩) ['y'] (some 2) (.ofName "utf-7") = .ok t ∧
        t.get? "a" = some ⟨"a", "x\ny".toList, some 2, 1⟩ := by
  intro s
  obtain ⟨-, hopen, hfailed, -⟩ := change_range_all_or_nothing s "a" (some ⟨-1, 0, -2, 0⟩) [] none "utf-7"
  obtain ⟨-, -, -, hdone⟩ := change_range_all_or_nothing s "a" (some ⟨-1, 0, 2, 0⟩) ['y'] (some 2) "utf-7"
  have hstart : ∀ cause, ¬Text.Misplaced "utf-7" "x\n".toList (-1) cause := by
    rintro cause (hline | ⟨-, htarget, hne⟩)
    · exact absurd hline (by decide)
    · exact hne (Option.some.inj htarget).symm
  have hstop : Text.Misplaced "utf-7" "x\n".toList (-2) (.unknownEncoding "utf-7") :=
    .unmeasured (by decide) rfl (List.cons_ne_nil 'x' [])
  have herror := ((hopen _ rfl).2 _ rfl _).2 ⟨_, .inr ⟨hstart, hstop⟩, rfl⟩
  obtain ⟨-, -, d, r, start, stop, hd, hr, hfrom, hto, hget, -⟩ := hdone _ rfl
  refine ⟨herror, (hfailed _ herror).1, _, rfl, ?_⟩
  cases hd
  cases hr
  cases hfrom
  cases hto
  exact hget

end SmaliLint
