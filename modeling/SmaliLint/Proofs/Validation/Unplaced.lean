import SmaliLint.Proofs.Validation.LineEndings

/-!
# Validation of lines without places

Whether anything is found in a text does not depend on where its tokens stand. So it can be told from its lines, each
read on its own, with every token at the origin.

* `unplaced s` : the tokens of a text without their places; `readLine? s` : the logical line of a text that has no line
  end;
* `Text.Written ls s` : the text `s` has the lines `ls`, whatever ends them; `Written.logicalLines_eq` : its logical lines;
* `findings_trace_eq_nil_iff` : nothing is found in a text just if no check, alone, finds anything in these lines.
-/

namespace SmaliLint
open Text (Plain IsLineEnd)

/-! ## Tokens without places -/

def Position.origin : Position := ⟨0, 0, 0⟩

/-- The lexeme as a token at the origin. -/
def Lexeme.token (l : Lexeme) : Token := ⟨l.kind, l.content, ⟨.origin, .origin⟩⟩

def unplaced (s : Text) : List Token := (lexemes s).map Lexeme.token

theorem relocate_place (x : LineIndex) (n : Nat) (ls : List Lexeme) :
    (place x n ls).map (Token.relocate fun _ => .origin) = ls.map Lexeme.token := by
  induction ls generalizing n with
  | nil => rfl
  | cons l ls ih =>
    rw [place, List.map_cons, List.map_cons, ih]
    rfl

theorem relocate_tokenize (s : Text) : (tokenize s).map (Token.relocate fun _ => .origin) = unplaced s :=
  relocate_place _ 0 (lexemes s)

theorem kind_ne_newline {s : Text} (hs : Plain s) : ∀ t ∈ unplaced s, t.kind ≠ .newline := by
  intro t ht
  rw [← relocate_tokenize] at ht
  obtain ⟨u, hu, rfl⟩ := List.mem_map.1 ht
  obtain ⟨before, after, hstands⟩ := exists_standsIn hu
  rcases hstands.line_end with ⟨-, hc⟩ | ⟨hne, -⟩
  · refine absurd ?_ hs.2
    rw [hstands.text]
    rcases hc with hc | hc <;> simp [hc]
  · exact hne

/-! ## Lines -/

/-- The logical line of a text that has no line end. -/
def readLine? (s : Text) : Option Line := Line.ofList? (trim (unplaced s))

theorem logicalLines_plain {s : Text} (hs : Plain s) : logicalLines (unplaced s) = (readLine? s).toList :=
  logicalLines_piece (kind_ne_newline hs)

theorem logicalLines_unplaced_next {line e : Text} (hline : Plain line) (he : IsLineEnd e) (s : Text) :
    logicalLines (unplaced (line ++ e ++ s)) = (readLine? line).toList ++ logicalLines (unplaced s) := by
  have htokens : unplaced (line ++ e ++ s) = unplaced line ++ Lexeme.token ⟨.newline, e⟩ :: unplaced s := by
    unfold unplaced
    rw [lexemes_append (Text.ended_append he line), lexemes_append_lineEnd hline he, List.map_append, List.map_append,
      List.append_assoc]
    rfl
  rw [htokens, logicalLines_append_newline rfl, logicalLines_plain hline]

/-- The text has the lines, each with an end of its own, which the last one may lack. -/
inductive Text.Written : List Text → Text → Prop
  | nil : Written [] []
  | last (line : Text) : Written [line] line
  | next {line e s : Text} {ls : List Text} : IsLineEnd e → Written ls s → Written (line :: ls) (line ++ e ++ s)

theorem Text.Written.logicalLines_eq {ls : List Text} {s : Text} (h : Written ls s) (hls : ∀ line ∈ ls, Plain line) :
    logicalLines (unplaced s) = ls.filterMap readLine? := by
  induction h with
  | nil =>
    unfold unplaced
    rw [lexemes]
    rfl
  | last line =>
    rw [logicalLines_plain (hls line List.mem_cons_self)]
    cases h : readLine? line <;> simp [h]
  | @next line e s ls he _ ih =>
    obtain ⟨hline, hls⟩ := List.forall_mem_cons.1 hls
    rw [logicalLines_unplaced_next hline he, ih hls, List.filterMap_cons]
    cases readLine? line <;> rfl

/-- Lines can be written with line feeds. -/
theorem Text.written_lineFeeds (ls : List Text) : Written ls (ls.flatMap (· ++ ['\n'])) := by
  induction ls with
  | nil => exact .nil
  | cons line ls ih => exact .next (.inl rfl) ih

/-! ## Findings -/

/-- **Whether anything is found can be told without places**, from one check at a time. -/
theorem findings_trace_eq_nil_iff (rules : List Rule) (s : Text) :
    findings (trace rules s) = [] ↔ ∀ r ∈ rules,
      findings (run [Check.ofRule r] ((logicalLines (unplaced s)).flatMap Line.schedule ++ [.finish])) = [] := by
  have hrelocate := readLines_relocate (fun _ => Position.origin) rules (logicalLines (tokenize s))
  rw [← logicalLines_relocate, relocate_tokenize] at hrelocate
  have hnil : findings (trace rules s) = [] ↔
      Reading.readLines (rules.map Check.ofRule) (logicalLines (unplaced s)) = [] := by
    rw [trace, findings_run_eq_readLines, hrelocate, List.map_eq_nil_iff]
  rw [hnil, readLines_eq_findings, findings_run_eq_nil_iff]
  simp

end SmaliLint
