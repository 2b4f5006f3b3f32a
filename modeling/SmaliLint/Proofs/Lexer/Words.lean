import Mathlib.Data.List.Nodup
import SmaliLint.Proofs.Lexer.LineLocal
import SmaliLint.Proofs.Pattern.Beginnings

/-!
# Reading words, names and types

How a text is read that begins with a token of a known form. Each time nothing of the vocabulary may run further than
the token, and no other kind may claim it.

* `firstToken_of_longest`, `lexemes_cons` : a token that nothing outruns;
* `Lexeme.StopsAt c l` : the word `l` is read as it stands if `c` comes after it; `lexemes_word` : what follows is read
  on its own;
* `beginnings`, `kind_of_head` : which kinds of token may begin with a character;
* `lexemes_blanks` : spaces and tabs;
* `lexemes_classType`, `lexemes_letter`, `lexemes_bracket` : the parts of types, where no name goes on to a parenthesis
  or a colon;
* `lexemes_methodName`, `lexemes_quoted` : the name of a method, and a text between quotes.
-/

namespace SmaliLint
open Vocabulary Pattern

/-! ## Tests of characters

What holds of some characters is decided by going through these, not through all characters there are. -/

instance decidableForallMem (s : List Char) (p : Char → Prop) [DecidablePred p] : Decidable (∀ c ∈ s, p c) :=
  List.decidableBAll p s

instance decidableForallMem? (o : Option Char) (p : Char → Prop) [DecidablePred p] : Decidable (∀ c ∈ o, p c) :=
  decidable_of_iff (∀ c ∈ o.toList, p c) (by simp)

/-! ## Nothing runs further -/

theorem firstToken_of_longest {s w : Text} {r : TokenRule} (hr : r ∈ tokenRules) (hw : w <+: s)
    (hm : r.pattern.Matches w)
    (hlongest : ∀ q ∈ tokenRules, ∀ v, v <+: s → q.pattern.Matches v → v.length ≤ w.length)
    (hkind : ∀ q ∈ tokenRules, q.pattern.Matches w → q.kind = r.kind) : firstToken s = (r.kind, w.length) := by
  obtain ⟨k, n, hfirst⟩ : ∃ k n, firstToken s = (k, n) := ⟨_, _, rfl⟩
  by_cases hk : k = .error
  · subst hk
    exact absurd hm ((firstToken_eq_error hfirst).2 r hr w hw)
  · obtain ⟨before, q, after, hrules, hq, hmatch, hmax, -⟩ := firstToken_eq_kind hfirst hk
    have hqmem : q ∈ tokenRules := hrules ▸ List.mem_append_right _ List.mem_cons_self
    have hle : w.length ≤ n := hmax r hr w hw hm
    have hge : (s.take n).length ≤ w.length := hlongest q hqmem _ (List.take_prefix n s) hmatch
    have hn : n ≤ s.length := by
      cases s with
      | nil =>
        obtain rfl := List.prefix_nil.1 hw
        have hnull := nullable_of_matches_nil hm rfl
        rw [tokenRules_not_nullable r hr] at hnull
        cases hnull
      | cons c s =>
        have hbound := firstToken_le c s
        rwa [hfirst] at hbound
    rw [List.length_take, Nat.min_eq_left hn] at hge
    have hlength : n = w.length := by omega
    have htake : s.take n = w := by rw [hlength, ← List.prefix_iff_eq_take.1 hw]
    rw [htake] at hmatch
    rw [hfirst, ← hkind q hqmem hmatch, hq, hlength]

theorem lexemes_nil : lexemes [] = [] := by rw [lexemes]

theorem lexemes_cons {k : TokenKind} {w b : Text} (h : firstToken (w ++ b) = (k, w.length)) :
    lexemes (w ++ b) = ⟨k, w⟩ :: lexemes b := by
  have hpos := firstToken_pos (w ++ b)
  rw [h] at hpos
  cases w with
  | nil => simp at hpos
  | cons c w =>
    rw [List.cons_append, lexemes, ← List.cons_append, h]
    simp only [List.take_left, List.drop_left]

/-- There is one rule for each kind. -/
theorem rule_unique {q r : TokenRule} (hq : q ∈ tokenRules) (hr : r ∈ tokenRules) (h : q.kind = r.kind) : q = r := by
  have hnodup : (tokenRules.map (·.kind)).Nodup := by decide
  exact List.inj_on_of_nodup_map hnodup hq hr h

/-- **Reading a token of a known kind**: nothing of another kind runs as far, and nothing of its kind further. -/
theorem lexemes_rule {k : TokenKind} {p : Pattern} {w b : Text} (hrule : ⟨k, p⟩ ∈ tokenRules) (hm : p.Matches w)
    (honly : ∀ q ∈ tokenRules, ∀ v, v <+: w ++ b → q.pattern.Matches v → w.length ≤ v.length → q.kind = k)
    (hlong : ∀ v, v <+: w ++ b → p.Matches v → v.length ≤ w.length) :
    lexemes (w ++ b) = ⟨k, w⟩ :: lexemes b := by
  have hw : w <+: w ++ b := List.prefix_append w b
  refine lexemes_cons (firstToken_of_longest hrule hw hm (fun q hq v hv hqv => ?_) fun q hq hqw => ?_)
  · rcases Nat.le_total v.length w.length with hle | hle
    · exact hle
    · obtain rfl := rule_unique hq hrule (honly q hq v hv hqv hle)
      exact hlong v hv hqv
  · exact honly q hq w hw hqw (Nat.le_refl _)

/-! ## Words -/

/-- The word is read as it stands if the character comes after it. -/
def Lexeme.StopsAt (l : Lexeme) (c : Char) : Prop :=
  firstToken l.content = (l.kind, l.content.length) ∧
    ∀ r ∈ tokenRules, r.pattern.mayBegin (l.content ++ [c]) = false

instance (l : Lexeme) (c : Char) : Decidable (l.StopsAt c) := inferInstanceAs (Decidable (_ ∧ _))

theorem lexemes_word {l : Lexeme} {c : Char} (h : l.StopsAt c) (b : Text) :
    lexemes (l.content ++ c :: b) = l :: lexemes (c :: b) := by
  obtain ⟨hfirst, hstop⟩ := h
  refine lexemes_cons (hfirst ▸ firstToken_congr fun r hr v hv => prefix_append_iff fun x hx hprefix hvx => ?_)
  obtain ⟨d, y, rfl⟩ := List.exists_cons_of_ne_nil hx
  obtain ⟨rfl, -⟩ := List.cons_prefix_cons.1 hprefix
  have hbegin := mayBegin_of_matches hv (l.content ++ [d]) y (by rw [hvx]; simp)
  rw [hstop r hr] at hbegin
  cases hbegin

/-- At the end of a text a word is read as it stands. -/
theorem lexemes_last {l : Lexeme} (h : firstToken l.content = (l.kind, l.content.length)) : lexemes l.content = [l] := by
  have hread : lexemes (l.content ++ []) = l :: lexemes [] := lexemes_cons (by rwa [List.append_nil])
  rwa [List.append_nil, lexemes_nil] at hread

/-! ## What begins with a character -/

/-- A text of the vocabulary is not empty, so its first character is one that its kind may begin with. -/
theorem mayBegin_head {q : TokenRule} (hq : q ∈ tokenRules) {c : Char} {s v : Text} (hv : v <+: c :: s)
    (hm : q.pattern.Matches v) : q.pattern.mayBegin [c] = true := by
  cases v with
  | nil =>
    have hnull := nullable_of_matches_nil hm rfl
    rw [tokenRules_not_nullable q hq] at hnull
    cases hnull
  | cons d v =>
    obtain ⟨rfl, -⟩ := List.cons_prefix_cons.1 hv
    exact mayBegin_of_matches hm [d] v rfl

/-- The letters of the builtin types. -/
def typeLetters : String := "VZBSCIJFD"

/-- Which kinds of token may begin with one of some characters. -/
def beginnings : List (String × List TokenKind) :=
  [(" \t", [.space]), ("#", [.comment]), ("[", [.arrayOp]), (")", [.paren]), ("\"", [.string]),
    (typeLetters, [.builtinType, .methodName, .fieldName]), ("L", [.classType, .methodName, .fieldName])]

theorem kind_of_mayBegin : ∀ e ∈ beginnings, ∀ c ∈ e.1.toList, ∀ q ∈ tokenRules, q.pattern.mayBegin [c] = true →
    q.kind ∈ e.2 := by decide +kernel

theorem kind_of_head (chars : String) {kinds : List TokenKind} (h : (chars, kinds) ∈ beginnings) {c : Char}
    (hc : c ∈ chars.toList) {q : TokenRule} (hq : q ∈ tokenRules) {s v : Text} (hv : v <+: c :: s)
    (hm : q.pattern.Matches v) : q.kind ∈ kinds :=
  kind_of_mayBegin _ h c hc q hq (mayBegin_head hq hv hm)

/-- Where only one kind may begin, it is that one. -/
theorem kind_eq_of_head (chars : String) {kind : TokenKind} (h : (chars, [kind]) ∈ beginnings) {c : Char}
    (hc : c ∈ chars.toList) {q : TokenRule} (hq : q ∈ tokenRules) {s v : Text} (hv : v <+: c :: s)
    (hm : q.pattern.Matches v) : q.kind = kind :=
  List.mem_singleton.1 (kind_of_head chars h hc hq hv hm)

/-! ## Spaces -/

/-- The text does not begin with a space or a tab. -/
def Text.Unindented (s : Text) : Prop := ∀ c ∈ s.head?, c ≠ ' ' ∧ c ≠ '\t'

instance (s : Text) : Decidable s.Unindented := inferInstanceAs (Decidable (∀ c ∈ s.head?, c ≠ ' ' ∧ c ≠ '\t'))

theorem matches_blanks_iff {w : Text} : (plus (anyOf " \t")).Matches w ↔ w ≠ [] ∧ ∀ c ∈ w, c = ' ' ∨ c = '\t' := by
  unfold anyOf
  rw [matches_plus_char_iff]
  simp

theorem lexemes_blanks {blanks b : Text} (hne : blanks ≠ []) (hblanks : ∀ c ∈ blanks, c = ' ' ∨ c = '\t')
    (hb : b.Unindented) : lexemes (blanks ++ b) = ⟨.space, blanks⟩ :: lexemes b := by
  have hrule : ⟨.space, plus (anyOf " \t")⟩ ∈ tokenRules := by simp [tokenRules]
  refine lexemes_rule hrule (matches_blanks_iff.2 ⟨hne, hblanks⟩) ?_ ?_
  · intro q hq v hv hm _
    obtain ⟨c, rest, rfl⟩ := List.exists_cons_of_ne_nil hne
    exact kind_eq_of_head " \t" (by decide) (by simpa using hblanks c List.mem_cons_self) hq hv hm
  · intro v hv hm
    refine Nat.le_of_not_lt fun hlt => ?_
    obtain ⟨x, rfl⟩ := List.prefix_of_prefix_length_le (List.prefix_append blanks b) hv (Nat.le_of_lt hlt)
    cases x with
    | nil => simp at hlt
    | cons c x =>
      obtain ⟨y, hy⟩ := (List.prefix_append_right_inj blanks).1 hv
      obtain ⟨hspace, htab⟩ := hb c (by rw [← hy]; rfl)
      rcases (matches_blanks_iff.1 hm).2 c (by simp) with h | h
      · exact hspace h
      · exact htab h

/-! ## Types -/

/-- A text in which no name is followed by a parenthesis or a colon. -/
def Text.Nameless (s : Text) : Prop := ∀ c ∈ s, c ≠ '(' ∧ c ≠ ':'

theorem matches_name_iff {extra stop : String} {v : Text} :
    (seq (plus (.char (nameChar extra))) (word stop)).Matches v ↔
      ∃ u, v = u ++ stop.toList ∧ u ≠ [] ∧ ∀ c ∈ u, nameChar extra c = true := by
  simp only [matches_seq_iff, matches_word_iff, matches_plus_char_iff]
  constructor
  · rintro ⟨u, _, rfl, hu, rfl⟩
    exact ⟨u, rfl, hu⟩
  · rintro ⟨u, rfl, hu⟩
    exact ⟨u, _, rfl, hu, rfl⟩

theorem method_rule : ⟨.methodName, seq (plus (.char (nameChar "$<>_"))) (word "(")⟩ ∈ tokenRules := by simp [tokenRules]

theorem field_rule : ⟨.fieldName, seq (plus (.char (nameChar "$_"))) (word ":")⟩ ∈ tokenRules := by simp [tokenRules]

/-- Where no parenthesis and no colon comes, there is no name of a method or a field. -/
theorem Text.Nameless.kind_ne {s v : Text} (hs : s.Nameless) (hv : v <+: s) {q : TokenRule} (hq : q ∈ tokenRules)
    (hm : q.pattern.Matches v) : q.kind ≠ .methodName ∧ q.kind ≠ .fieldName := by
  constructor
  · intro hk
    obtain rfl := rule_unique hq method_rule hk
    obtain ⟨u, rfl, -⟩ := matches_name_iff.1 hm
    exact (hs '(' (hv.subset (by simp))).1 rfl
  · intro hk
    obtain rfl := rule_unique hq field_rule hk
    obtain ⟨u, rfl, -⟩ := matches_name_iff.1 hm
    exact (hs ':' (hv.subset (by simp))).2 rfl

theorem Text.Nameless.kind_eq {s v : Text} (hs : s.Nameless) (hv : v <+: s) {q : TokenRule} (hq : q ∈ tokenRules)
    (hm : q.pattern.Matches v) {k : TokenKind} (h : q.kind ∈ [k, .methodName, .fieldName]) : q.kind = k := by
  obtain ⟨hmethod, hfield⟩ := hs.kind_ne hv hq hm
  simpa [hmethod, hfield] using h

theorem lexemes_bracket (b : Text) : lexemes ('[' :: b) = ⟨.arrayOp, ['[']⟩ :: lexemes b := by
  have hrule : ⟨.arrayOp, word "["⟩ ∈ tokenRules := by simp [tokenRules]
  refine lexemes_rule hrule (matches_word_iff.2 rfl) ?_ ?_
  · intro q hq v hv hm _
    exact kind_eq_of_head "[" (by decide) (by decide) hq hv hm
  · intro v _ hm
    exact Nat.le_of_eq (congrArg List.length (matches_word_iff.1 hm))

theorem lexemes_close (b : Text) : lexemes (')' :: b) = ⟨.paren, [')']⟩ :: lexemes b := by
  have hrule : ⟨.paren, anyOf "()"⟩ ∈ tokenRules := by simp [tokenRules]
  refine lexemes_rule hrule (matches_char_iff.2 ⟨')', rfl, by decide⟩) ?_ ?_
  · intro q hq v hv hm _
    exact kind_eq_of_head ")" (by decide) (by decide) hq hv hm
  · intro v _ hm
    obtain ⟨c, rfl, -⟩ := matches_char_iff.1 hm
    exact Nat.le_refl 1

theorem nameless_letter : ∀ c ∈ typeLetters.toList, c ≠ '(' ∧ c ≠ ':' := by decide

theorem lexemes_letter {c : Char} (hc : c ∈ typeLetters.toList) {b : Text} (hb : b.Nameless) :
    lexemes (c :: b) = ⟨.builtinType, [c]⟩ :: lexemes b := by
  have hrule : ⟨.builtinType, anyOf typeLetters⟩ ∈ tokenRules := by simp [tokenRules, typeLetters]
  have hnameless : Text.Nameless (c :: b) := List.forall_mem_cons.2 ⟨nameless_letter c hc, hb⟩
  refine lexemes_rule hrule (matches_char_iff.2 ⟨c, rfl, by simpa using hc⟩) ?_ ?_
  · intro q hq v hv hm _
    exact hnameless.kind_eq hv hq hm (kind_of_head typeLetters (by decide) hc hq hv hm)
  · intro v _ hm
    obtain ⟨d, rfl, -⟩ := matches_char_iff.1 hm
    exact Nat.le_refl 1

/-- Two prefixes of one text that end in `c` and hold no other `c` are equal. -/
theorem length_le_of_first {u v s : Text} {c : Char} (hu : u ++ [c] <+: s) (hv : v ++ [c] <+: s) (hc : c ∉ v) :
    (v ++ [c]).length ≤ (u ++ [c]).length := by
  refine Nat.le_of_not_lt fun hlt => hc ?_
  have hprefix : u ++ [c] <+: v := by
    refine List.prefix_of_prefix_length_le hu ((List.prefix_append v [c]).trans hv) ?_
    simp only [List.length_append, List.length_singleton] at hlt ⊢
    omega
  exact hprefix.subset (by simp)

theorem ne_of_nameChar {extra : String} {c d : Char} (hc : nameChar extra c = true) (hd : nameChar extra d = false) :
    c ≠ d := by
  rintro rfl
  rw [hd] at hc
  cases hc

theorem nameless_classType {path : Text} (hpath : ∀ c ∈ path, nameChar "$_-./" c = true) :
    Text.Nameless ('L' :: (path ++ [';'])) := by
  refine List.forall_mem_cons.2 ⟨by decide, List.forall_mem_append.2 ⟨fun c hc => ?_, by decide⟩⟩
  exact ⟨ne_of_nameChar (hpath c hc) (by decide), ne_of_nameChar (hpath c hc) (by decide)⟩

theorem lexemes_classType {path b : Text} (hpath : ∀ c ∈ path, nameChar "$_-./" c = true) (hb : b.Nameless) :
    lexemes ('L' :: (path ++ [';']) ++ b) = ⟨.classType, 'L' :: (path ++ [';'])⟩ :: lexemes b := by
  have hrule : ⟨.classType, all [word "L", .star (.char (nameChar "$_-./")), word ";"]⟩ ∈ tokenRules := by
    simp [tokenRules]
  have hmatches : ∀ v, (all [word "L", .star (.char (nameChar "$_-./")), word ";"]).Matches v ↔
      ∃ u, v = 'L' :: u ++ [';'] ∧ ∀ c ∈ u, nameChar "$_-./" c = true := by
    intro v
    rw [matches_between_iff]
    simp only [matches_star_char_iff]
    rfl
  have hnameless : Text.Nameless ('L' :: (path ++ [';']) ++ b) :=
    List.forall_mem_append.2 ⟨nameless_classType hpath, hb⟩
  refine lexemes_rule hrule ((hmatches _).2 ⟨path, by simp, hpath⟩) ?_ ?_
  · intro q hq v hv hm _
    exact hnameless.kind_eq hv hq hm (kind_of_head "L" (by decide) (by decide) hq hv hm)
  · intro v hv hm
    obtain ⟨u, rfl, hu⟩ := (hmatches v).1 hm
    have hself : 'L' :: path ++ [';'] <+: 'L' :: (path ++ [';']) ++ b := by simp
    refine length_le_of_first hself hv (List.not_mem_cons_of_ne_of_not_mem (by decide) fun h => ?_)
    exact ne_of_nameChar (hu ';' h) (by decide) rfl

/-! ## Names of methods and quoted texts -/

/-- Of all texts with a parenthesis in them, only the name of a method begins as a name does. -/
theorem kind_of_name : ∀ q ∈ tokenRules, q.pattern.mentions '(' = true → ∀ n < 128,
    nameChar "$<>_" (Char.ofNat n) = true → q.pattern.mayBegin [Char.ofNat n] = true → q.kind = .methodName := by
  decide +kernel

theorem nameChar_lt {extra : String} (hextra : ∀ d ∈ extra.toList, d.toNat < 128) {c : Char}
    (hc : nameChar extra c = true) : c.toNat < 128 := by
  have hletter : c.isAlphanum = true → c.toNat < 128 := by
    unfold Char.isAlphanum Char.isAlpha Char.isUpper Char.isLower Char.isDigit
    simp only [Bool.or_eq_true, Bool.and_eq_true, decide_eq_true_eq, UInt32.le_iff_toNat_le, ge_iff_le]
    show _ → c.val.toNat < 128
    have hlast : 'Z'.val.toNat < 128 ∧ 'z'.val.toNat < 128 ∧ '9'.val.toNat < 128 := by decide
    omega
  rcases Bool.or_eq_true_iff.1 hc with h | h
  · exact hletter h
  · exact hextra c (by simpa using h)

theorem lexemes_methodName {name : Text} (hne : name ≠ []) (hname : ∀ c ∈ name, nameChar "$<>_" c = true) (b : Text) :
    lexemes (name ++ ['('] ++ b) = ⟨.methodName, name ++ ['(']⟩ :: lexemes b := by
  refine lexemes_rule method_rule (matches_name_iff.2 ⟨name, rfl, hne, hname⟩) ?_ ?_
  · intro q hq v hv hm hle
    have hmem : '(' ∈ v := by
      have hprefix := List.prefix_of_prefix_length_le (List.prefix_append (name ++ ['(']) b) hv hle
      exact hprefix.subset (by simp)
    have hmentions : q.pattern.mentions '(' = true := mentions_of_mem hm hmem
    obtain ⟨c, rest, rfl⟩ := List.exists_cons_of_ne_nil hne
    have hc : nameChar "$<>_" c = true := hname c List.mem_cons_self
    have hbegin := mayBegin_head hq hv hm
    have hkind := kind_of_name q hq hmentions c.toNat (nameChar_lt (by decide) hc)
    rw [Char.ofNat_toNat] at hkind
    exact hkind hc hbegin
  · intro v hv hm
    obtain ⟨u, rfl, -, hu⟩ := matches_name_iff.1 hm
    exact length_le_of_first (List.prefix_append _ b) hv fun h => ne_of_nameChar (hu '(' h) (by decide) rfl

theorem lexemes_quoted {s : Text} (hs : ∀ c ∈ s, c ∉ "\"\\\r\n".toList) :
    lexemes ('"' :: (s ++ ['"'])) = [⟨.string, '"' :: (s ++ ['"'])⟩] := by
  have hrule : ⟨.string, quoted⟩ ∈ tokenRules := by simp [tokenRules]
  have hmatch : quoted.Matches ('"' :: (s ++ ['"'])) := by
    refine matches_between_iff.2 ⟨s, by simp, ?_⟩
    induction s with
    | nil => exact .starNil
    | cons c s ih =>
      obtain ⟨hc, hs⟩ := List.forall_mem_cons.1 hs
      exact .starCons (.left (.char (by simpa using hc))) (ih hs)
  have hread : lexemes ('"' :: (s ++ ['"']) ++ []) = ⟨.string, '"' :: (s ++ ['"'])⟩ :: lexemes [] := by
    refine lexemes_rule hrule hmatch ?_ ?_
    · intro q hq v hv hm _
      exact kind_eq_of_head "\"" (by decide) (by decide) hq hv hm
    · intro v hv _
      rw [List.append_nil] at hv
      exact hv.length_le
  rwa [List.append_nil, lexemes_nil] at hread

end SmaliLint
