import Mathlib.Data.List.ReduceOption
import SmaliLint.Proofs.Line

/-!
# The assembler loses nothing

Tokens are handed to an assembler one by one, and at any time it may be told to end its line. What it hands out is the
list of all tokens, cut where a line ends, each piece without comments and without the spaces at its ends.

* `LineAssembler.Call` : what is asked of an assembler; `answers a calls` : what it says to one call after the other;
* `tokens calls`, `pieces calls` : the tokens that are handed over, and the same cut where a line ends;
* `reduceOption_answers` : the lines that come out are what is left of the pieces;
* `assembler_lossless` : what follows for the lines of any calls.
-/

namespace SmaliLint

/-! ## Calls -/

namespace LineAssembler

/-- What is asked of an assembler. -/
inductive Call where
  /-- To take a token. -/
  | feed (t : Token)
  /-- To end the line. -/
  | flush
  deriving DecidableEq, Repr

/-- The token that is handed over. -/
def Call.token? : Call → Option Token
  | .feed t => some t
  | .flush => none

/-- Whether the line ends with the call. -/
def Call.ends : Call → Bool
  | .feed t => t.kind = .newline
  | .flush => true

def call (a : LineAssembler) : Call → LineAssembler × Option Line
  | .feed t => a.feed t
  | .flush => a.flush

/-- The assembler after some calls. -/
def after (a : LineAssembler) (calls : List Call) : LineAssembler := calls.foldl (fun a c => (a.call c).1) a

/-- The answers to calls that are made one after the other. -/
def answers (a : LineAssembler) : List Call → List (Option Line)
  | [] => []
  | c :: calls => (a.call c).2 :: answers (a.call c).1 calls

theorem call_of_ends {c : Call} (h : c.ends = true) (a : LineAssembler) :
    a.call c = (.empty, Line.ofList? (trim a.buffer.toList)) := by
  cases c with
  | feed t =>
    rw [call, feed, if_pos (by simpa [Call.ends] using h)]
    rfl
  | flush => rfl

theorem call_feed {t : Token} (ht : t.kind ≠ .newline) (a : LineAssembler) :
    a.call (.feed t) = (⟨a.buffer.push t⟩, none) := if_neg ht

theorem Call.ends_or_feeds (c : Call) : c.ends = true ∨ ∃ t, c = .feed t ∧ t.kind ≠ .newline := by
  cases c with
  | feed t =>
    by_cases ht : t.kind = .newline
    · exact .inl (decide_eq_true ht)
    · exact .inr ⟨t, rfl, ht⟩
  | flush => exact .inl rfl

theorem answers_append (a : LineAssembler) (calls more : List Call) :
    a.answers (calls ++ more) = a.answers calls ++ (a.after calls).answers more := by
  induction calls generalizing a with
  | nil => rfl
  | cons c calls ih =>
    rw [List.cons_append, answers, answers, ih, List.cons_append]
    rfl

theorem length_answers (a : LineAssembler) (calls : List Call) : (a.answers calls).length = calls.length := by
  induction calls generalizing a with
  | nil => rfl
  | cons c calls ih => rw [answers, List.length_cons, List.length_cons, ih]

/-! ## Pieces -/

/-- The tokens that are handed over. -/
def tokens (calls : List Call) : List Token := calls.filterMap Call.token?

/-- The tokens that are handed over, cut where a line ends. -/
def pieces (calls : List Call) : List (List Token) := (calls.splitOnP Call.ends).map tokens

theorem pieces_nil : pieces [] = [[]] := by
  rw [pieces, List.splitOnP_nil]
  rfl

theorem pieces_cons_of_ends {c : Call} (h : c.ends = true) (calls : List Call) :
    pieces (c :: calls) = [] :: pieces calls := by
  rw [pieces, List.splitOnP_cons_eq_if_modifyHead, if_pos h]
  rfl

/-- A token that ends no line stands at the beginning of the piece that follows. -/
theorem exists_pieces_feed {t : Token} (ht : t.kind ≠ .newline) (calls : List Call) :
    ∃ first rest, pieces calls = first :: rest ∧ pieces (.feed t :: calls) = (t :: first) :: rest := by
  obtain ⟨first, rest, hsplit⟩ := List.exists_cons_of_ne_nil (List.splitOnP_ne_nil Call.ends calls)
  refine ⟨tokens first, rest.map tokens, by rw [pieces, hsplit, List.map_cons], ?_⟩
  rw [pieces, List.splitOnP_cons_eq_if_modifyHead, if_neg (by simpa [Call.ends] using ht), hsplit,
    List.modifyHead_cons, List.map_cons]
  rfl

theorem kind_of_mem_pieces {calls : List Call} : ∀ piece ∈ pieces calls, ∀ t ∈ piece, t.kind ≠ .newline := by
  induction calls with
  | nil => simp [pieces_nil]
  | cons c calls ih =>
    rcases c.ends_or_feeds with h | ⟨t, rfl, ht⟩
    · rw [pieces_cons_of_ends h]
      exact List.forall_mem_cons.2 ⟨by simp, ih⟩
    · obtain ⟨first, rest, hpieces, hfeed⟩ := exists_pieces_feed ht calls
      rw [hpieces] at ih
      rw [hfeed]
      obtain ⟨hfirst, hrest⟩ := List.forall_mem_cons.1 ih
      exact List.forall_mem_cons.2 ⟨List.forall_mem_cons.2 ⟨ht, hfirst⟩, hrest⟩

/-- Put together again, the pieces are all the tokens but the newlines. -/
theorem flatten_pieces (calls : List Call) : (pieces calls).flatten = (tokens calls).filter (·.kind ≠ .newline) := by
  induction calls with
  | nil => rw [pieces_nil]; rfl
  | cons c calls ih =>
    rcases c.ends_or_feeds with h | ⟨t, rfl, ht⟩
    · rw [pieces_cons_of_ends h, List.flatten_cons, List.nil_append, ih]
      cases c with
      | feed t => simp [tokens, Call.token?, show t.kind = .newline by simpa [Call.ends] using h]
      | flush => rfl
    · obtain ⟨first, rest, hpieces, hfeed⟩ := exists_pieces_feed ht calls
      rw [hpieces, List.flatten_cons] at ih
      rw [hfeed, List.flatten_cons, List.cons_append, ih]
      simp [tokens, Call.token?, ht]

/-! ## What is handed out -/

/-- **The lines that come out are what is left of the pieces.** The tokens that are in the buffer already belong to the
first piece. -/
theorem reduceOption_answers (a : LineAssembler) (calls : List Call) :
    (a.answers (calls ++ [.flush])).reduceOption =
      ((pieces calls).modifyHead (a.buffer.toList ++ ·)).filterMap fun piece => Line.ofList? (trim piece) := by
  induction calls generalizing a with
  | nil =>
    rw [pieces_nil, List.modifyHead_cons, List.append_nil]
    rfl
  | cons c calls ih =>
    rcases c.ends_or_feeds with h | ⟨t, rfl, ht⟩
    · -- The buffer makes up the first piece, and the next one begins with nothing in it.
      have hrest := ih .empty
      have hempty : (pieces calls).modifyHead (LineAssembler.empty.buffer.toList ++ ·) = pieces calls := by
        cases pieces calls <;> rfl
      rw [hempty] at hrest
      rw [List.cons_append, answers, call_of_ends h, pieces_cons_of_ends h, List.modifyHead_cons, List.append_nil,
        List.filterMap_cons, ← hrest]
      cases Line.ofList? (trim a.buffer.toList) <;> rfl
    · obtain ⟨first, rest, hpieces, hfeed⟩ := exists_pieces_feed ht calls
      have hrest := ih ⟨a.buffer.push t⟩
      rw [hpieces, List.modifyHead_cons, Array.toList_push, List.append_assoc, List.singleton_append] at hrest
      rw [List.cons_append, answers, call_feed ht, List.reduceOption_cons_of_none, hrest, hfeed, List.modifyHead_cons]

/-- The lines that are handed out if the last line is ended after the calls. -/
def handedOut (calls : List Call) : List Line := (empty.answers (calls ++ [.flush])).reduceOption

theorem handedOut_eq (calls : List Call) :
    handedOut calls = (pieces calls).filterMap fun piece => Line.ofList? (trim piece) := by
  rw [handedOut, reduceOption_answers]
  cases pieces calls <;> rfl

theorem exists_piece_of_mem_handedOut {calls : List Call} {l : Line} (h : l ∈ handedOut calls) :
    ∃ piece ∈ pieces calls, l.toList = trim piece := by
  rw [handedOut_eq] at h
  obtain ⟨piece, hpiece, hl⟩ := List.mem_filterMap.1 h
  exact ⟨piece, hpiece, Line.toList_of_ofList? hl⟩

theorem flatMap_toList_handedOut (calls : List Call) :
    (handedOut calls).flatMap Line.toList = (pieces calls).flatMap trim := by
  have hline : ∀ ts, (Line.ofList? ts).toList.flatMap Line.toList = ts := by
    intro ts
    cases ts with
    | nil => rfl
    | cons t ts => simp [Line.ofList?, Line.toList]
  rw [handedOut_eq, List.filterMap_eq_flatMap_toList, List.flatMap_assoc]
  exact List.flatMap_congr fun piece _ => hline (trim piece)

/-- Tokens that are neither comments nor spaces are in the lines as they are in the pieces. -/
theorem filter_handedOut {p : Token → Bool} (hp : ∀ t, p t = true → t.kind ≠ .comment ∧ t.kind ≠ .space)
    (calls : List Call) :
    ((handedOut calls).flatMap Line.toList).filter p = (pieces calls).flatten.filter p := by
  rw [flatMap_toList_handedOut, List.filter_flatMap, List.filter_flatten, ← List.flatMap_def]
  exact List.flatMap_congr fun piece _ => filter_trim hp piece

theorem getElem?_answers_flush_flush (a : LineAssembler) (calls more : List Call) :
    (a.answers (calls ++ .flush :: .flush :: more))[calls.length + 1]? = some none := by
  rw [answers_append, List.getElem?_append_right (by rw [length_answers]; omega), length_answers,
    Nat.add_sub_cancel_left]
  rfl

end LineAssembler

open LineAssembler

/-- Whether a token belongs to a line wherever it stands. -/
def Token.isKept (t : Token) : Bool := t.kind ≠ .newline && t.kind ≠ .comment && t.kind ≠ .space

theorem Token.isKept_iff {t : Token} : t.isKept = true ↔ t.kind ≠ .newline ∧ t.kind ≠ .comment ∧ t.kind ≠ .space := by
  simp [isKept, and_assoc]

/-- **The assembler loses nothing and says nothing twice.** Made to end its line after any tokens, it hands out the
pieces between newlines and those ends, without comments and without spaces at both ends, as far as something is left.
So all other tokens stand in the lines once each, in their order. -/
theorem assembler_lossless (calls : List LineAssembler.Call) :
    handedOut calls = (pieces calls).filterMap (fun piece =>
        Line.ofList? (stripSpaces (piece.filter (·.kind ≠ .comment)))) ∧
      (∀ l ∈ handedOut calls, l.toList ≠ [] ∧ (∀ t ∈ l.toList, t.kind ≠ .comment ∧ t.kind ≠ .newline) ∧
        l.head.kind ≠ .space ∧ l.last.kind ≠ .space) ∧
      ((handedOut calls).flatMap Line.toList).filter Token.isKept = (tokens calls).filter Token.isKept ∧
      ∀ before more,
        (LineAssembler.empty.answers (before ++ .flush :: .flush :: more))[before.length + 1]? = some none := by
  refine ⟨?_, fun l hl => ?_, ?_, getElem?_answers_flush_flush .empty⟩
  · rw [handedOut_eq]
    simp only [trim_eq_stripSpaces]
  · obtain ⟨piece, hpiece, htrim⟩ := exists_piece_of_mem_handedOut hl
    refine ⟨List.cons_ne_nil _ _, fun t ht => ?_, ?_, ?_⟩
    · rw [htrim] at ht
      exact ⟨not_comment_of_mem_trim t ht, kind_of_mem_pieces piece hpiece t ((trim_sublist piece).subset ht)⟩
    · exact trim_head_ne_space piece l.head (by rw [← htrim]; rfl)
    · exact trim_getLast? piece l.last (by rw [← htrim, Line.getLast?_toList])
  · rw [filter_handedOut fun t ht => (Token.isKept_iff.1 ht).2, flatten_pieces, List.filter_filter]
    refine List.filter_congr fun t _ => ?_
    rw [Bool.and_eq_left_iff_imp]
    exact fun ht => decide_eq_true (Token.isKept_iff.1 ht).1

end SmaliLint
