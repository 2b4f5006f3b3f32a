import SmaliLint.Text.Basic

/-!
# Patterns

Regular patterns over characters, with the language each one denotes and a matcher that tries the
alternatives of a pattern in turn.

* `Pattern.Matches p w` : the text `w` is in the language of `p`;
* `Pattern.nullable p` : whether the empty text is in it;
* `Pattern.attempt p n s k` : tries `p` at the start of `s` and the continuation `k` after it; what is
  tried first counts if all of the rest succeeds, and is given up otherwise;
* `Pattern.firstMatch p s` : the length of the match of `p` that is found first.

The first match need not be the longest one: of two alternatives the earlier counts, however short.
-/

namespace SmaliLint

/-- A regular pattern. A single character is described by a test. -/
inductive Pattern where
  /-- Matches no text. -/
  | never
  /-- Matches the empty text only. -/
  | empty
  /-- Matches one character that passes the test. -/
  | char (test : Char → Bool)
  /-- Matches a text of the first pattern followed by one of the second. -/
  | seq (p q : Pattern)
  /-- Matches the texts of either pattern. -/
  | alt (p q : Pattern)
  /-- Matches any number of texts of the pattern, one after the other. -/
  | star (p : Pattern)

namespace Pattern

/-! ## Building patterns -/

/-- The one text `w`. -/
def word (w : String) : Pattern :=
  w.toList.foldr (fun c p => .seq (.char (· == c)) p) .empty

/-- Any of the words. -/
def oneOf (ws : List String) : Pattern :=
  ws.foldr (fun w p => .alt (word w) p) .never

/-- A text of `p`, or nothing. -/
def maybe (p : Pattern) : Pattern := .alt p .empty

/-- Any of the words, or nothing. -/
def optional (ws : List String) : Pattern := maybe (oneOf ws)

/-- The patterns one after the other. -/
def all (ps : List Pattern) : Pattern := ps.foldr .seq .empty

/-- One or more texts of `p`. -/
def plus (p : Pattern) : Pattern := .seq p (.star p)

/-- One of the characters of `cs`. -/
def anyOf (cs : String) : Pattern := .char fun c => cs.toList.contains c

/-! ## The language of a pattern -/

/-- The text `w` is in the language of the pattern. -/
inductive Matches : Pattern → Text → Prop where
  | empty : Matches .empty []
  | char {test : Char → Bool} {c : Char} : test c = true → Matches (.char test) [c]
  | seq {p q : Pattern} {s t : Text} : Matches p s → Matches q t → Matches (.seq p q) (s ++ t)
  | left {p q : Pattern} {s : Text} : Matches p s → Matches (.alt p q) s
  | right {p q : Pattern} {s : Text} : Matches q s → Matches (.alt p q) s
  | starNil {p : Pattern} : Matches (.star p) []
  | starCons {p : Pattern} {s t : Text} :
      Matches p s → Matches (.star p) t → Matches (.star p) (s ++ t)

/-- Whether the pattern matches the empty text. -/
def nullable : Pattern → Bool
  | .never => false
  | .empty => true
  | .char _ => false
  | .seq p q => p.nullable && q.nullable
  | .alt p q => p.nullable || q.nullable
  | .star _ => true

/-! ## Matching -/

/-- What is to be done after a match: it is given the offset where the match has ended and the text
from there on. -/
abbrev Continuation := Nat → Text → Option Nat

/-- Does `once` as often as it can, and then `k`; if `k` fails, once less. There are no more rounds
than characters in the first text, since a round takes at least one. -/
def greedily (once : Nat → Text → Continuation → Option Nat) : Text → Nat → Text → Continuation → Option Nat
  | [], n, s, k => k n s
  | _ :: rounds, n, s, k => once n s (fun m t => greedily once rounds m t k) <|> k n s

/-- Tries the pattern on a text that stands at offset `n`, and then the continuation. -/
def attempt : Pattern → Nat → Text → Continuation → Option Nat
  | .never, _, _, _ => none
  | .empty, n, s, k => k n s
  | .char _, _, [], _ => none
  | .char test, n, c :: s, k => if test c then k (n + 1) s else none
  | .seq p q, n, s, k => p.attempt n s fun m t => q.attempt m t k
  | .alt p q, n, s, k => p.attempt n s k <|> q.attempt n s k
  | .star p, n, s, k => greedily p.attempt s n s k

/-- The length of the prefix of `s` that is tried first among those the pattern matches. -/
def firstMatch (p : Pattern) (s : Text) : Option Nat := p.attempt 0 s fun n _ => some n

end Pattern

end SmaliLint
