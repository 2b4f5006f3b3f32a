import SmaliLint.Method
import SmaliLint.Proofs.Method.Reading

/-!
# What a check of methods remembers

The block that a line stands in, and the constructors seen so far, are told by the lines before it alone.

* `findLast? p xs` : the last of `xs` that passes the test, and those after it;
* `Line.isMethod`, `Line.opensMethod`, `Line.endsMethod`, `Line.hasReturn`, `Line.hasBody`, `Line.isConstructor` : what matters
  of a line;
* `Methods.afterLine`, `Methods.afterLines` : a check that has been shown a line, or lines, with their returns;
* `Methods.place` : the constructor of a kind that it has seen;
* `Methods.seeLine_of_opensMethod` and others : which lines open a block, close one or are passed over;
* `Methods.ofLines` : what it remembers, without a state; `afterLines_eq_ofLines` : that is so after any lines.
-/

namespace SmaliLint

/-! ## The last of a list -/

/-- The last element that passes the test, and the elements after it. -/
def findLast? {α : Type} (p : α → Bool) : List α → Option (α × List α)
  | [] => none
  | x :: xs => findLast? p xs <|> if p x then some (x, xs) else none

section FindLast
variable {α : Type} {p : α → Bool} {xs : List α}

theorem findLast?_eq_none_iff : findLast? p xs = none ↔ ∀ x ∈ xs, p x = false := by
  induction xs with
  | nil => simp [findLast?]
  | cons x xs ih =>
    rw [findLast?, List.forall_mem_cons, ← ih]
    cases findLast? p xs with
    | some r => simp
    | none => by_cases hx : p x = true <;> simp [hx]

theorem findLast?_eq_some_iff {x : α} {later : List α} :
    findLast? p xs = some (x, later) ↔
      ∃ earlier, xs = earlier ++ x :: later ∧ p x = true ∧ ∀ y ∈ later, p y = false := by
  induction xs with
  | nil => simp [findLast?]
  | cons z xs ih =>
    rw [findLast?]
    cases hr : findLast? p xs with
    | some r =>
      show some r = _ ↔ _
      rw [← hr, ih]
      constructor
      · rintro ⟨earlier, rfl, hx, hlater⟩
        exact ⟨z :: earlier, rfl, hx, hlater⟩
      · rintro ⟨earlier, hsplit, hx, hlater⟩
        cases earlier with
        | nil =>
          obtain ⟨rfl, rfl⟩ := List.cons.inj hsplit
          rw [findLast?_eq_none_iff.2 hlater] at hr
          cases hr
        | cons y earlier =>
          obtain ⟨rfl, rfl⟩ := List.cons.inj hsplit
          exact ⟨earlier, rfl, hx, hlater⟩
    | none =>
      have hnone := findLast?_eq_none_iff.1 hr
      show (if p z = true then some (z, xs) else none) = _ ↔ _
      constructor
      · intro h
        split at h
        next hz =>
          obtain ⟨rfl, rfl⟩ := Prod.mk.inj (Option.some.inj h)
          exact ⟨[], rfl, hz, hnone⟩
        next => cases h
      · rintro ⟨earlier, hsplit, hx, hlater⟩
        cases earlier with
        | nil =>
          obtain ⟨rfl, rfl⟩ := List.cons.inj hsplit
          rw [if_pos hx]
        | cons y earlier =>
          obtain ⟨rfl, rfl⟩ := List.cons.inj hsplit
          rw [hnone x (by simp)] at hx
          cases hx

theorem findLast?_concat (p : α → Bool) (xs : List α) (x : α) :
    findLast? p (xs ++ [x]) = if p x then some (x, []) else (findLast? p xs).map fun r => (r.1, r.2 ++ [x]) := by
  induction xs with
  | nil => by_cases hx : p x = true <;> simp [findLast?, hx]
  | cons z xs ih =>
    rw [List.cons_append, findLast?, ih, findLast?]
    by_cases hx : p x = true
    · simp [hx]
    · by_cases hz : p z = true <;> cases findLast? p xs <;> simp [hx, hz]

end FindLast

/-! ## Lines -/

namespace Line

/-- Whether the line starts with a method directive. -/
def isMethod (l : Line) : Bool := l.head.kind = .method

/-- Whether the line starts with `.method`. -/
def opensMethod (l : Line) : Bool := l.isMethod && l.head.reads ".method"

/-- Whether the line starts with `.end method`. -/
def endsMethod (l : Line) : Bool := l.isMethod && l.head.reads ".end method"

/-- The return instructions of the line. -/
def returns (l : Line) : List Token := l.toList.filter (·.kind = .ret)

def hasReturn (l : Line) : Bool := l.toList.any (·.kind = .ret)

/-- Whether the modifiers of a declaration leave room for a body. -/
def hasBody (l : Line) : Bool := !l.hasModifier "abstract" && !l.hasModifier "native"

/-- Whether the line starts with `.method` and has the modifiers of a constructor, static or not. -/
def isConstructor (static : Bool) (l : Line) : Bool :=
  l.opensMethod && l.hasModifier "constructor" && l.hasModifier "static" == static

theorem returns_isEmpty (l : Line) : l.returns.isEmpty = !l.hasReturn := by
  unfold returns hasReturn
  induction l.toList with
  | nil => rfl
  | cons t ts ih => by_cases ht : t.kind = .ret <;> simp [ht, ih]

theorem kind_of_mem_returns {l : Line} : ∀ t ∈ l.returns, t.kind = .ret := by
  intro t ht
  simpa using (List.mem_filter.1 ht).2

theorem isMethod_of_opensMethod {l : Line} (h : l.opensMethod = true) : l.isMethod = true :=
  (Bool.and_eq_true_iff.1 h).1

end Line

/-! ## The state after some lines -/

namespace Methods

/-- The constructor of the given kind that has been seen. -/
def place (static : Bool) (m : Methods) : Option Line := if static then m.staticConstructor else m.instanceConstructor

/-- The check after returns. -/
def hear (m : Methods) (ts : List Token) : Methods := ts.foldl (fun m t => (m.seeToken t).1) m

/-- The check after a line, whose returns it is shown first. -/
def afterLine (m : Methods) (l : Line) : Methods := ((m.hear l.returns).seeLine l).1

def afterLines (ls : List Line) : Methods := ls.foldl afterLine .empty

/-- What is said to a line after others. -/
def saysAfter (ls : List Line) (l : Line) : List Diagnostic := (((afterLines ls).hear l.returns).seeLine l).2

end Methods

/-- The block after some lines: the last `.method` line has opened one, and the first method directive after it
has ended that. -/
def Block.ofLines (ls : List Line) : Block :=
  match findLast? Line.opensMethod ls with
  | none => .before
  | some (m, later) =>
    match later.find? Line.isMethod with
    | none => .inside ⟨m, (Declaration.ofLine m).returnType, later.any Line.hasReturn, m.hasBody⟩
    | some ended => .after ended

/-- The first constructor of a kind. -/
def firstConstructor? (static : Bool) (ls : List Line) : Option Line := ls.find? (·.isConstructor static)

/-- What is remembered of some lines. -/
def Methods.ofLines (ls : List Line) : Methods := ⟨.ofLines ls, firstConstructor? true ls, firstConstructor? false ls⟩

/-- The block after returns, if there are any. -/
def Block.heard (some : Bool) : Block → Block
  | .inside method => .inside { method with sawReturn := method.sawReturn || some }
  | b => b

theorem Block.heard_heard (a b : Bool) (block : Block) : (block.heard a).heard b = block.heard (a || b) := by
  cases block <;> simp [heard, Bool.or_assoc]

theorem Methods.hear_eq (m : Methods) {ts : List Token} (hts : ∀ t ∈ ts, t.kind = .ret) :
    m.hear ts = { m with block := m.block.heard (!ts.isEmpty) } := by
  induction ts generalizing m with
  | nil => cases hb : m.block <;> simp [hear, Block.heard, ← hb]
  | cons t ts ih =>
    obtain ⟨ht, hts⟩ := List.forall_mem_cons.1 hts
    have hone : (m.seeToken t).1 = { m with block := m.block.heard true } := by
      unfold seeToken
      cases hb : m.block <;> simp [ht, Block.heard, ← hb]
    show (m.seeToken t).1.hear ts = _
    rw [ih _ hts, hone]
    simp only [Block.heard_heard]
    simp

/-! ## One more line -/

namespace Methods

theorem seeLine_of_not_isMethod (m : Methods) {l : Line} (hl : l.isMethod = false) : m.seeLine l = (m, []) := by
  have hkind : l.head.kind ≠ .method := of_decide_eq_false hl
  rw [seeLine, if_pos hkind]

theorem seeLine_of_opensMethod (m : Methods) {l : Line} (hl : l.opensMethod = true) : m.seeLine l = m.openBlock l := by
  obtain ⟨hmethod, hreads⟩ := Bool.and_eq_true_iff.1 hl
  have hkind : ¬ l.head.kind ≠ .method := by simpa [Line.isMethod] using hmethod
  rw [seeLine, if_neg hkind, if_pos hreads]

theorem seeLine_of_not_opensMethod (m : Methods) {l : Line} (hmethod : l.isMethod = true) (hopens : l.opensMethod = false) :
    m.seeLine l = m.closeBlock l := by
  have hkind : ¬ l.head.kind ≠ .method := by simpa [Line.isMethod] using hmethod
  have hreads : ¬ l.head.reads ".method" = true := by
    rw [Line.opensMethod, hmethod, Bool.true_and] at hopens
    simp [hopens]
  rw [seeLine, if_neg hkind, if_neg hreads]

end Methods

namespace Block

/-- A line that is no method directive stands in the same block as the line before it. -/
theorem ofLines_concat_of_not_isMethod (ls : List Line) {k : Line} (hk : k.isMethod = false) :
    ofLines (ls ++ [k]) = (ofLines ls).heard k.hasReturn := by
  have hopens : k.opensMethod = false := by rw [Line.opensMethod, hk, Bool.false_and]
  unfold ofLines
  rw [findLast?_concat, if_neg (by simp [hopens])]
  cases findLast? Line.opensMethod ls with
  | none => rfl
  | some r =>
    obtain ⟨m, later⟩ := r
    simp only [Option.map_some, List.find?_append, List.find?_singleton, hk]
    cases later.find? Line.isMethod <;> simp [heard]

theorem ofLines_concat_of_opensMethod (ls : List Line) {k : Line} (hk : k.opensMethod = true) :
    ofLines (ls ++ [k]) = .inside ⟨k, (Declaration.ofLine k).returnType, false, k.hasBody⟩ := by
  unfold ofLines
  rw [findLast?_concat, if_pos hk]
  rfl

/-- An ending line ends the block that is open, and changes nothing if there is none. -/
theorem ofLines_concat_of_ends (ls : List Line) {k : Line} (hk : k.isMethod = true) (hopens : k.opensMethod = false) :
    ofLines (ls ++ [k]) = match ofLines ls with
      | .inside _ => .after k
      | b => b := by
  unfold ofLines
  rw [findLast?_concat, if_neg (by simp [hopens])]
  cases findLast? Line.opensMethod ls with
  | none => rfl
  | some r =>
    obtain ⟨m, later⟩ := r
    simp only [Option.map_some, List.find?_append, List.find?_singleton, hk, if_true]
    cases later.find? Line.isMethod <;> rfl

end Block

theorem firstConstructor?_concat (static : Bool) (ls : List Line) (k : Line) :
    firstConstructor? static (ls ++ [k]) =
      (firstConstructor? static ls).or (if k.isConstructor static then some k else none) := by
  unfold firstConstructor?
  rw [List.find?_append, List.find?_singleton]

namespace Methods

theorem ofLines_concat_of_not_opensMethod (ls : List Line) {k : Line} (hk : k.opensMethod = false) :
    ofLines (ls ++ [k]) = { ofLines ls with block := .ofLines (ls ++ [k]) } := by
  have hnone : ∀ static, k.isConstructor static = false := by
    intro static
    rw [Line.isConstructor, hk, Bool.false_and, Bool.false_and]
  unfold ofLines
  simp [firstConstructor?_concat, hnone]

/-- A constructor takes the place of its kind if that is empty. -/
theorem ofLines_concat_of_opensMethod (ls : List Line) {k : Line} (hk : k.opensMethod = true) :
    ofLines (ls ++ [k]) =
      { ((ofLines ls).addConstructor k (.ofLine k)).1 with block := .ofLines (ls ++ [k]) } := by
  have hkind : ∀ static, k.isConstructor static = (k.hasModifier "constructor" && k.hasModifier "static" == static) := by
    intro static
    rw [Line.isConstructor, hk, Bool.true_and]
  unfold ofLines addConstructor
  simp only [firstConstructor?_concat, hkind, Declaration.has_ofLine]
  cases k.hasModifier "constructor" with
  | false => simp
  | true =>
    cases k.hasModifier "static" with
    | true => cases firstConstructor? true ls <;> simp
    | false => cases firstConstructor? false ls <;> simp

/-- Constructors are counted whatever block they stand in. -/
theorem addConstructor_block (m : Methods) (b : Block) (k : Line) (d : Declaration) :
    addConstructor { m with block := b } k d =
      ({ (m.addConstructor k d).1 with block := b }, (m.addConstructor k d).2) := by
  unfold addConstructor
  cases d.has "constructor" with
  | false => rfl
  | true =>
    cases d.has "static" with
    | true => cases hs : m.staticConstructor <;> simp [hs]
    | false => cases hi : m.instanceConstructor <;> simp [hi]

theorem fst_openBlock (m : Methods) (k : Line) :
    (m.openBlock k).1 =
      { (m.addConstructor k (.ofLine k)).1 with
        block := .inside ⟨k, (Declaration.ofLine k).returnType, false, k.hasBody⟩ } := by
  unfold openBlock Line.hasBody
  simp only [Declaration.has_ofLine]

/-- **One more line.** -/
theorem afterLine_ofLines (ls : List Line) (k : Line) : (ofLines ls).afterLine k = ofLines (ls ++ [k]) := by
  unfold afterLine
  rw [hear_eq _ Line.kind_of_mem_returns, Line.returns_isEmpty, Bool.not_not]
  cases hmethod : k.isMethod with
  | false =>
    have hopens : k.opensMethod = false := by rw [Line.opensMethod, hmethod, Bool.false_and]
    rw [seeLine_of_not_isMethod _ hmethod, ofLines_concat_of_not_opensMethod ls hopens,
      Block.ofLines_concat_of_not_isMethod ls hmethod]
    rfl
  | true =>
    cases hopens : k.opensMethod with
    | true =>
      rw [seeLine_of_opensMethod _ hopens, ofLines_concat_of_opensMethod ls hopens,
        Block.ofLines_concat_of_opensMethod ls hopens, fst_openBlock,
        addConstructor_block (ofLines ls) (Block.heard k.hasReturn (ofLines ls).block)]
    | false =>
      rw [seeLine_of_not_opensMethod _ hmethod hopens, ofLines_concat_of_not_opensMethod ls hopens,
        Block.ofLines_concat_of_ends ls hmethod hopens]
      unfold closeBlock ofLines
      cases Block.ofLines ls <;> simp [Block.heard]

/-- **After any lines, what is remembered is told by the lines.** -/
theorem afterLines_eq_ofLines (ls : List Line) : afterLines ls = ofLines ls := by
  have hfold : ∀ earlier, ls.foldl afterLine (ofLines earlier) = ofLines (earlier ++ ls) := by
    induction ls with
    | nil => simp
    | cons l ls ih =>
      intro earlier
      rw [List.foldl_cons, afterLine_ofLines, ih, List.append_assoc, List.singleton_append]
  exact hfold []

end Methods

end SmaliLint
