import SmaliLint.Proofs.Outcome
import SmaliLint.Toml.Value

/-!
# Which values can be written

A value is written as text with all that stands inside it, and something inside it may be in the way: an integer with
too many digits, or an array or a table that too many others stand around.

* `Value.Inside v k w` : `w` stands inside `v`, with `k` arrays and tables around it;
* `Value.Obstructs`, `Value.Unwritable` : what is in the way, and the values inside which there is such a thing;
* `Value.exists_text_eq_error_iff` : those values have no text, and all the others have.
-/

namespace SmaliLint.Toml

/-- `w` stands inside `v`, with `k` arrays and tables around it. -/
inductive Value.Inside : Value → Nat → Value → Prop where
  | self (v : Value) : Inside v 0 v
  | item {items : List Value} {v w : Value} {k : Nat} : v ∈ items → Inside v k w → Inside (.array items) (k + 1) w
  | entry {entries : List (String × Value)} {key : String} {v w : Value} {k : Nat} :
      (key, v) ∈ entries → Inside v k w → Inside (.table entries) (k + 1) w

/-- There is nothing inside the value but itself. -/
def Value.IsScalar : Value → Prop
  | .array _ => False
  | .table _ => False
  | _ => True

/-- The value, with `k` arrays and tables around it, cannot be written where `room` of them are inside each other at
most. -/
def Value.Obstructs (room k : Nat) : Value → Prop
  | .integer n => Text.maxDigits < (Text.ofNat n.natAbs).length
  | .array _ => room ≤ k
  | .table _ => room ≤ k
  | _ => False

/-- There is something inside the value that cannot be written. -/
def Value.Unwritable (v : Value) : Prop := ∃ k w, v.Inside k w ∧ w.Obstructs maxShownDepth k

theorem exists_integerText_eq_error_iff {n : Int} :
    (∃ fault, integerText n = .error fault) ↔ Text.maxDigits < (Text.ofNat n.natAbs).length := by
  rw [integerText, Text.boundedOfInt?]
  by_cases h : (Text.ofNat n.natAbs).length ≤ Text.maxDigits
  · rw [if_pos h]
    exact ⟨nofun, fun hmore => absurd h (Nat.not_le.2 hmore)⟩
  · rw [if_neg h]
    exact ⟨fun _ => Nat.not_le.1 h, fun _ => ⟨_, rfl⟩⟩

theorem shownItems_eq_mapM (room : Nat) (items : List Value) : shownItems room items = items.mapM (·.shown room) := by
  induction items with
  | nil => rfl
  | cons v vs ih =>
    rw [shownItems, List.mapM_cons, ih]

theorem shownEntries_eq_mapM (room : Nat) (entries : List (String × Value)) :
    shownEntries room entries =
      entries.mapM fun e => return Text.quoted e.1.toList ++ ": ".toList ++ (← e.2.shown room) := by
  induction entries with
  | nil => rfl
  | cons e es ih =>
    rw [shownEntries, List.mapM_cons, ih, bind_assoc]
    rfl

namespace Value

theorem obstructs_succ_iff {room k : Nat} {w : Value} : w.Obstructs (room + 1) (k + 1) ↔ w.Obstructs room k := by
  cases w with
  | array items => exact Nat.succ_le_succ_iff
  | table entries => exact Nat.succ_le_succ_iff
  | _ => exact .rfl

theorem exists_inside_scalar {v : Value} (hv : v.IsScalar) {room : Nat} :
    (∃ k w, v.Inside k w ∧ w.Obstructs room k) ↔ v.Obstructs room 0 := by
  constructor
  · rintro ⟨k, w, hinside, hw⟩
    cases hinside with
    | self => exact hw
    | item => exact hv.elim
    | entry => exact hv.elim
  · exact fun hobstructs => ⟨0, v, .self v, hobstructs⟩

theorem exists_shown_eq_error_iff_of_scalar {v : Value} (hv : v.IsScalar) {room : Nat} :
    (∃ fault, v.shown room = .error fault) ↔ ∃ k w, v.Inside k w ∧ w.Obstructs room k := by
  rw [exists_inside_scalar hv]
  cases v with
  | integer n =>
    rw [shown, exists_integerText_eq_error_iff]
    rfl
  | array items => exact hv.elim
  | table entries => exact hv.elim
  | _ => simp [shown, Obstructs]

/-- **What cannot be shown** in a bounded room has something inside it that cannot. -/
theorem exists_shown_eq_error_iff {room : Nat} {v : Value} :
    (∃ fault, v.shown room = .error fault) ↔ ∃ k w, v.Inside k w ∧ w.Obstructs room k := by
  induction room generalizing v with
  | zero =>
    cases v with
    | array items => exact ⟨fun _ => ⟨0, _, .self _, Nat.le_refl 0⟩, fun _ => ⟨_, by rw [shown]⟩⟩
    | table entries => exact ⟨fun _ => ⟨0, _, .self _, Nat.le_refl 0⟩, fun _ => ⟨_, by rw [shown]⟩⟩
    | _ => exact exists_shown_eq_error_iff_of_scalar (by trivial)
  | succ room ih =>
    cases v with
    | array items =>
      simp only [shown, bind_pure_eq_error_iff, shownItems_eq_mapM, exists_mapM_eq_error_iff, ih]
      constructor
      · rintro ⟨v, hv, k, w, hinside, hw⟩
        exact ⟨k + 1, w, .item hv hinside, obstructs_succ_iff.2 hw⟩
      · rintro ⟨_, w, hinside, hw⟩
        cases hinside with
        | self => exact absurd hw (Nat.not_succ_le_zero room)
        | item hv hinside => exact ⟨_, hv, _, w, hinside, obstructs_succ_iff.1 hw⟩
    | table entries =>
      simp only [shown, bind_pure_eq_error_iff, shownEntries_eq_mapM, exists_mapM_eq_error_iff, ih]
      constructor
      · rintro ⟨⟨key, v⟩, hv, k, w, hinside, hw⟩
        exact ⟨k + 1, w, .entry hv hinside, obstructs_succ_iff.2 hw⟩
      · rintro ⟨_, w, hinside, hw⟩
        cases hinside with
        | self => exact absurd hw (Nat.not_succ_le_zero room)
        | entry hv hinside => exact ⟨_, hv, _, w, hinside, obstructs_succ_iff.1 hw⟩
    | _ => exact exists_shown_eq_error_iff_of_scalar (by trivial)

/-- **A value has no text** just when there is something inside it that cannot be written. -/
theorem exists_text_eq_error_iff {v : Value} : (∃ fault, v.text = .error fault) ↔ v.Unwritable := by
  have hflat : ∀ {v : Value} {s : String}, v.IsScalar → ¬v.Obstructs maxShownDepth 0 → v.text = .ok s →
      ((∃ fault, v.text = .error fault) ↔ v.Unwritable) := by
    intro v s hv hobstructs htext
    rw [htext, Unwritable, exists_inside_scalar hv]
    exact ⟨nofun, fun h => absurd h hobstructs⟩
  cases v with
  | string s => exact hflat (by trivial) id rfl
  | date d => exact hflat (by trivial) id rfl
  | time t => exact hflat (by trivial) id rfl
  | dateTime d => exact hflat (by trivial) id rfl
  | _ =>
    simp only [text, map_eq_error_iff]
    exact exists_shown_eq_error_iff

end Value

end SmaliLint.Toml
