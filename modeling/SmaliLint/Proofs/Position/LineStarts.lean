import Mathlib.Logic.Function.Iterate
import SmaliLint.Proofs.Position.LineIndex

/-!
# What a line index holds

The starts of the lines of a text are `0` and the offsets right after its line feeds. They can be found in one pass
over the text, or by a search for one line feed after the other; both ways lead to the same starts.

* `mem_lineStartsFrom`, `length_lineStartsFrom` : which starts there are, and how many;
* `Text.lineFeed? s o` : the first line feed from an offset on;
* `LineSearch`, `LineSearch.next` : a search under way, and one turn of it;
* `LineSearch.ahead s x` : the starts that a search has still to find. A turn takes the first of them
  (`ahead_next`), so the search ends after as many turns as there are line feeds (`iterate_next`).
-/

namespace SmaliLint

/-! ## The starts there are -/

theorem mem_lineStartsFrom {n x : Nat} {s : Text} :
    x ∈ lineStartsFrom n s ↔ ∃ o, s[o]? = some '\n' ∧ x = n + o + 1 := by
  induction s generalizing n with
  | nil => simp [lineStartsFrom]
  | cons c s ih =>
    have hsplit : (∃ o, (c :: s)[o]? = some '\n' ∧ x = n + o + 1) ↔
        (c = '\n' ∧ x = n + 1) ∨ ∃ o, s[o]? = some '\n' ∧ x = n + 1 + o + 1 := by
      constructor
      · rintro ⟨o, ho, rfl⟩
        rcases o with - | o
        · exact .inl ⟨Option.some.inj ho, rfl⟩
        · exact .inr ⟨o, ho, by omega⟩
      · rintro (⟨rfl, rfl⟩ | ⟨o, ho, rfl⟩)
        · exact ⟨0, rfl, rfl⟩
        · exact ⟨o + 1, ho, by omega⟩
    rw [hsplit, lineStartsFrom]
    by_cases hc : c = '\n'
    · rw [if_pos hc, List.mem_cons, ih]
      simp only [hc, true_and]
    · rw [if_neg hc, ih]
      simp only [hc, false_and, false_or]

theorem length_lineStartsFrom (n : Nat) (s : Text) : (lineStartsFrom n s).length = s.count '\n' := by
  fun_induction lineStartsFrom n s with
  | case1 => rfl
  | case2 n s ih => rw [List.length_cons, ih, List.count_cons_self]
  | case3 n c s hc ih => rw [ih, List.count_cons_of_ne hc]

/-- The starts from the first line feed on. -/
theorem lineStartsFrom_eq_findIdx? (n : Nat) (s : Text) :
    lineStartsFrom n s =
      match s.findIdx? (· = '\n') with
      | none => []
      | some i => (n + i + 1) :: lineStartsFrom (n + i + 1) (s.drop (i + 1)) := by
  induction s generalizing n with
  | nil => rfl
  | cons c s ih =>
    rw [lineStartsFrom, List.findIdx?_cons]
    by_cases hc : c = '\n'
    · simp [hc]
    · rw [if_neg hc, ih (n + 1)]
      simp only [hc, decide_false, Bool.false_eq_true, if_false]
      rcases s.findIdx? (· = '\n') with - | i
      · rfl
      · have hi : n + 1 + i = n + (i + 1) := by omega
        simp [hi]

/-! ## A search for line feeds -/

/-- The first line feed that stands at `o` or further on. -/
def Text.lineFeed? (s : Text) (o : Nat) : Option Nat := ((s.drop o).findIdx? (· = '\n')).map (o + ·)

/-- The starts found so far, and the line feed at which the search stands; there is none when it has ended. -/
structure LineSearch where
  starts : List Nat
  feed : Option Nat

namespace LineSearch

def begin (s : Text) : LineSearch := ⟨[0], s.lineFeed? 0⟩

/-- One turn: the line after the line feed is noted, and the next line feed is looked for behind it. -/
def next (s : Text) (x : LineSearch) : LineSearch :=
  match x.feed with
  | none => x
  | some o => ⟨x.starts ++ [o + 1], s.lineFeed? (o + 1)⟩

/-- The starts that the search has still to find. -/
def ahead (s : Text) (x : LineSearch) : List Nat :=
  match x.feed with
  | none => []
  | some o => (o + 1) :: lineStartsFrom (o + 1) (s.drop (o + 1))

/-- What is ahead of a search that has just looked for a line feed from `n` on. -/
theorem ahead_lineFeed? (s : Text) (starts : List Nat) (n : Nat) :
    ahead s ⟨starts, s.lineFeed? n⟩ = lineStartsFrom n (s.drop n) := by
  unfold ahead Text.lineFeed?
  rw [lineStartsFrom_eq_findIdx? n (s.drop n)]
  rcases (s.drop n).findIdx? (· = '\n') with - | i
  · rfl
  · simp only [Option.map_some, List.drop_drop]
    rw [show n + (i + 1) = n + i + 1 by omega]

theorem ahead_begin (s : Text) : ahead s (begin s) = lineStartsFrom 0 s := ahead_lineFeed? s [0] 0

/-- **A turn takes the first of the starts ahead.** -/
theorem ahead_next {s : Text} {x : LineSearch} {start : Nat} {rest : List Nat} (h : ahead s x = start :: rest) :
    (x.next s).starts = x.starts ++ [start] ∧ ahead s (x.next s) = rest := by
  obtain ⟨starts, feed⟩ := x
  rcases feed with - | o
  · cases h
  · obtain ⟨rfl, rfl⟩ : o + 1 = start ∧ lineStartsFrom (o + 1) (s.drop (o + 1)) = rest := List.cons.inj h
    exact ⟨rfl, ahead_lineFeed? s (starts ++ [o + 1]) (o + 1)⟩

/-- **The search ends** after a turn for each start ahead, and has then found them all. -/
theorem iterate_next {s : Text} {x : LineSearch} {rest : List Nat} (h : ahead s x = rest) :
    (next s)^[rest.length] x = ⟨x.starts ++ rest, none⟩ := by
  induction rest generalizing x with
  | nil =>
    obtain ⟨starts, feed⟩ := x
    rcases feed with - | o
    · show LineSearch.mk starts none = _
      rw [List.append_nil]
    · cases h
  | cons start rest ih =>
    obtain ⟨hstarts, hrest⟩ := ahead_next h
    rw [List.length_cons, Function.iterate_succ_apply, ih hrest, hstarts, List.append_assoc, List.singleton_append]

end LineSearch

/-! ## The index -/

namespace LineIndex

theorem toList_starts (s : Text) : (ofText s).starts.toList = 0 :: lineStartsFrom 0 s := rfl

theorem pairwise_starts (s : Text) : (ofText s).starts.toList.Pairwise (· < ·) :=
  List.pairwise_cons.2 ⟨fun _ hx => lt_of_mem_lineStartsFrom hx, lineStartsFrom_sorted 0 s⟩

theorem lineCount_eq (s : Text) : (ofText s).lineCount = s.count '\n' + 1 := by
  show (0 :: lineStartsFrom 0 s).length = _
  rw [List.length_cons, length_lineStartsFrom]

theorem mem_starts {s : Text} {x : Nat} :
    x ∈ (ofText s).starts ↔ x = 0 ∨ ∃ o, s[o]? = some '\n' ∧ x = o + 1 := by
  rw [← Array.mem_toList_iff, toList_starts, List.mem_cons, mem_lineStartsFrom]
  simp only [Nat.zero_add]

theorem iterate_search (s : Text) :
    (LineSearch.next s)^[s.count '\n'] (.begin s) = ⟨(ofText s).starts.toList, none⟩ := by
  have hend := LineSearch.iterate_next (LineSearch.ahead_begin s)
  rwa [length_lineStartsFrom] at hend

end LineIndex

/-- **A line index is exact.** At every offset, also one outside the text, it gives the position that a scan of the text
gives. Its starts are zero and the offsets right after the line feeds, in order; and a search that goes from one line
feed to the next ends with just these. -/
theorem line_index_exact (s : Text) :
    let x := LineIndex.ofText s
    (∀ offset : Int, x.position offset = Position.ofOffset .utf32 s offset) ∧
      x.lineCount = s.count '\n' + 1 ∧
      x.starts.toList.Pairwise (· < ·) ∧
      x.starts[0]? = some 0 ∧
      (∀ start, start ∈ x.starts ↔ start = 0 ∨ ∃ o, s[o]? = some '\n' ∧ start = o + 1) ∧
      (LineSearch.next s)^[s.count '\n'] (.begin s) = ⟨x.starts.toList, none⟩ :=
  ⟨LineIndex.position_eq s, LineIndex.lineCount_eq s, LineIndex.pairwise_starts s, rfl,
    fun _ => LineIndex.mem_starts, LineIndex.iterate_search s⟩

/-- Two line feeds in a row, and one at the end. -/
example : (LineIndex.ofText "a\n\nb\n".toList).starts = #[0, 2, 3, 5] := by decide

end SmaliLint
