import SmaliLint.Pattern.Lengths
import SmaliLint.Position.LineIndex
import SmaliLint.Vocabulary

/-!
# Reading a text as tokens

At every place each pattern is tried, and the one whose match reaches furthest makes the next token;
of patterns that reach equally far the earliest counts, and a character that starts no match is a token
of its own. Every pattern takes at least one character (`firstToken_pos`), so the reading ends.

* `furthest s rules` : the rule that reaches furthest at the start of `s`; `firstToken s` : the kind and
  the length of the first token;
* `lexemes s` : the texts of the tokens of `s`, with their kinds;
* `tokenize s` : the same with the place of each.
-/

namespace SmaliLint
open Vocabulary (TokenRule tokenRules tokenRules_not_nullable)

/-- A text and the kind of token it makes. -/
structure Lexeme where
  kind : TokenKind
  content : Text
  deriving DecidableEq, Repr

/-! ## The first token -/

/-- How far a rule reaches, if it matches some text at the start of `s`. -/
def Vocabulary.TokenRule.reach (r : TokenRule) (s : Text) : Option Nat := r.pattern.firstMatch s

/-- The rule that reaches furthest, the earliest of them on a tie. -/
def furthest (s : Text) : List TokenRule → Option (TokenKind × Nat)
  | [] => none
  | r :: rs =>
    match r.reach s, furthest s rs with
    | none, found => found
    | some n, none => some (r.kind, n)
    | some n, some (k, m) => if n < m then some (k, m) else some (r.kind, n)

/-- The kind of the first token of a text, and its length. -/
def firstToken (s : Text) : TokenKind × Nat := (furthest s tokenRules).getD (.error, 1)

/-- The rule that is found reaches further than all those before it. -/
theorem furthest_eq_some {s : Text} {rules : List TokenRule} {k : TokenKind} {n : Nat}
    (h : furthest s rules = some (k, n)) :
    ∃ before r after, rules = before ++ r :: after ∧ r.kind = k ∧ r.reach s = some n ∧
      ∀ q ∈ before, ∀ m, q.reach s = some m → m < n := by
  fun_induction furthest s rules generalizing k n with
  | case1 => cases h
  | case2 r rs hr ih =>
    obtain ⟨before, q, after, rfl, hk, hq, hbefore⟩ := ih h
    exact ⟨r :: before, q, after, rfl, hk, hq, List.forall_mem_cons.2 ⟨by simp [hr], hbefore⟩⟩
  | case3 r rs l hrs hr _ =>
    cases h
    exact ⟨[], r, rs, rfl, rfl, hr, by simp⟩
  | case4 r rs l k j hrs hr hlt ih =>
    cases h
    obtain ⟨before, q, after, rfl, hk, hq, hbefore⟩ := ih hrs
    refine ⟨r :: before, q, after, rfl, hk, hq, List.forall_mem_cons.2 ⟨fun m hm => ?_, hbefore⟩⟩
    rw [hr] at hm
    cases hm
    exact hlt
  | case5 r rs l k j hrs hr hlt _ =>
    cases h
    exact ⟨[], r, rs, rfl, rfl, hr, by simp⟩

/-- No rule matches the empty text, so a token has at least one character. -/
theorem firstToken_pos (s : Text) : 0 < (firstToken s).2 := by
  unfold firstToken
  cases h : furthest s tokenRules with
  | none => exact Nat.one_pos
  | some found =>
    obtain ⟨before, r, after, hrules, -, hn, -⟩ := furthest_eq_some h
    have hr : r ∈ tokenRules := hrules ▸ List.mem_append_right _ List.mem_cons_self
    exact Pattern.firstMatch_pos (tokenRules_not_nullable r hr) hn

/-! ## Tokens -/

/-- The texts of the tokens of a text, in order. -/
def lexemes : Text → List Lexeme
  | [] => []
  | c :: s =>
    let first := firstToken (c :: s)
    ⟨first.1, (c :: s).take first.2⟩ :: lexemes ((c :: s).drop first.2)
termination_by s => s.length
decreasing_by
  have := firstToken_pos (c :: s)
  simp only [List.length_drop, List.length_cons]
  omega

/-- The tokens of lexemes that stand one after the other from the offset `n` on. -/
def place (x : LineIndex) (n : Nat) : List Lexeme → List Token
  | [] => []
  | l :: ls =>
    let m := n + l.content.length
    ⟨l.kind, l.content, x.span n m⟩ :: place x m ls

/-- The tokens of a text. -/
def tokenize (s : Text) : List Token := place (.ofText s) 0 (lexemes s)

end SmaliLint
