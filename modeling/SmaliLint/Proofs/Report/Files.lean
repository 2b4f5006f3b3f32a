import Mathlib.Tactic.Choose
import SmaliLint.Program
import SmaliLint.Proofs.Report.Ordering

/-!
# Reports on many files

The files of a command are checked in turn, and nothing that was found in one has a say in another. So a report on many
files is made of the reports on each of them alone: what is written about them, one after the other, and the worst of
their verdicts.

* `Disk.Unreadable`, `Disk.HasError` : what a file may have against it;
* `Verdict.code_and`, `Verdict.code_foldl` : the exit code of many verdicts is the greatest of theirs;
* `Write.on_eq` : writes that all go to one stream;
* `any_error_selectFindings` : no threshold leaves out an error;
* `checkFile_of_select` : what the verdict on one file says;
* `checkPaths_eq` : the report on files in turn, from those on each.
-/

namespace SmaliLint

/-- The file cannot be read, or is no text. -/
def Disk.Unreadable (disk : Disk) (path : Path) : Prop := ∃ e, disk.readText path = .error e

/-- The file is a text, and there is an error among what is found in it under the rules of the given names. -/
def Disk.HasError (disk : Disk) (names : Option (List String)) (path : Path) : Prop :=
  ∃ source found, disk.readText path = .ok source ∧ validate source names = .ok found ∧
    ∃ d ∈ found, d.severity = .error

/-! ## Verdicts -/

namespace Verdict

theorem code_le (v : Verdict) : v.code ≤ 2 := by
  cases v <;> decide

theorem clean_and (v : Verdict) : clean.and v = v := by
  cases v <;> rfl

/-- The later of two verdicts counts if it is the worse one. -/
theorem code_and (v w : Verdict) : (v.and w).code = max v.code w.code := by
  cases v <;> cases w <;> rfl

theorem code_foldl (f : Path → Verdict) (v : Verdict) (paths : List Path) :
    (paths.foldl (fun v path => v.and (f path)) v).code =
      max v.code ((paths.map fun path => (f path).code).foldr max 0) := by
  induction paths generalizing v with
  | nil => exact (Nat.max_zero _).symm
  | cons path paths ih => rw [List.foldl_cons, ih, code_and, List.map_cons, List.foldr_cons, max_assoc]

theorem lt_foldr_code_iff {n : Nat} {f : Path → Verdict} {paths : List Path} :
    n < (paths.map fun path => (f path).code).foldr max 0 ↔ ∃ path ∈ paths, n < (f path).code := by
  induction paths with
  | nil => simp
  | cons path paths ih => simp [ih]

end Verdict

/-! ## Output -/

namespace Write

theorem on_eq {s : Stream} {ws : List Write} (h : ∀ w ∈ ws, w.stream = s) : Write.on s ws = ws.flatMap Write.text := by
  rw [Write.on, List.filter_eq_self.2 fun w hw => decide_eq_true (h w hw)]

theorem on_eq_nil {s t : Stream} {ws : List Write} (h : ∀ w ∈ ws, w.stream = s) (hne : s ≠ t) : Write.on t ws = [] := by
  rw [Write.on, List.filter_eq_nil_iff.2 fun w hw => by simp [h w hw, hne], List.flatMap_nil]

end Write

/-! ## One file -/

/-- **No threshold leaves out an error.** -/
theorem any_error_selectFindings (least : Severity) (ds : List Diagnostic) :
    (selectFindings least ds).any (·.severity = .error) = ds.any (·.severity = .error) := by
  have hreaches : Severity.error.reaches least = true := by cases least <;> decide
  rw [(selectFindings_perm least ds).any_eq, List.any_filter]
  congr 1
  funext d
  by_cases hd : d.severity = .error <;> simp [hd, hreaches]

theorem reportSource_of_select {o : CheckOptions} {rules : List Rule} (h : Rule.select o.rules = .ok rules) (path : Path)
    (source : Text) :
    ∃ output : List Write, (∀ w ∈ output, w.stream = .err) ∧ reportSource o path source =
      .ok ⟨if (findings (trace rules source)).any (·.severity = .error) then .faulty else .clean, output⟩ := by
  unfold reportSource
  rw [checkSource_of_select h, ← any_error_selectFindings o.least]
  refine ⟨_, ?_, rfl⟩
  have hdump : ∀ w ∈ Token.dump .err (tokenize source), w.stream = .err := by
    simp [Token.dump]
  cases o.tokens <;> simp +contextual [or_imp, hdump]

theorem Disk.hasError_iff {names : Option (List String)} {rules : List Rule} (h : Rule.select names = .ok rules)
    {disk : Disk} {path : Path} {source : Text} (hread : disk.readText path = .ok source) :
    disk.HasError names path ↔ (findings (trace rules source)).any (·.severity = .error) = true := by
  simp [HasError, hread, validate_of_select h]

/-- **The verdict on a file** does not depend on the threshold, nor on whether tokens are listed. -/
theorem checkFile_of_select {o : CheckOptions} {rules : List Rule} (h : Rule.select o.rules = .ok rules) (disk : Disk)
    (path : Path) :
    ∃ r, checkFile o path (disk.readText path) = .ok r ∧ (∀ w ∈ r.output, w.stream = .err) ∧
      (1 < r.verdict.code ↔ disk.Unreadable path) ∧
      (0 < r.verdict.code ↔ disk.Unreadable path ∨ disk.HasError o.rules path) := by
  cases hread : disk.readText path with
  | error e =>
    have hunreadable : disk.Unreadable path := ⟨e, hread⟩
    exact ⟨_, rfl, by simp, by simp [Verdict.code, hunreadable], by simp [Verdict.code, hunreadable]⟩
  | ok source =>
    have hreadable : ¬disk.Unreadable path := by
      rintro ⟨e, he⟩
      rw [hread] at he
      cases he
    obtain ⟨output, herr, hreport⟩ := reportSource_of_select h path source
    refine ⟨_, hreport, herr, ?_, ?_⟩
    · simp only [hreadable, iff_false]
      split <;> decide
    · rw [Disk.hasError_iff h hread]
      simp only [hreadable, false_or]
      split
      case isTrue hany => exact ⟨fun _ => hany, fun _ => by decide⟩
      case isFalse hany => exact ⟨fun hpos => absurd hpos (by decide), fun herror => absurd herror hany⟩

/-! ## Files in turn -/

section Turns

variable {o : CheckOptions} {disk : Disk} {alone : Path → Report}

/-- **Files are reported on as each would be alone**, whatever was reported before them. -/
theorem checkPaths_eq (h : ∀ path, checkFile o path (disk.readText path) = .ok (alone path)) (before : Report)
    (paths : List Path) :
    checkPaths o disk before paths =
      .ok ⟨paths.foldl (fun v path => v.and (alone path).verdict) before.verdict,
        before.output ++ paths.flatMap fun path => (alone path).output⟩ := by
  induction paths generalizing before with
  | nil => rw [checkPaths, List.flatMap_nil, List.append_nil, List.foldl_nil]
  | cons path paths ih =>
    rw [checkPaths, h path, List.flatMap_cons, ← List.append_assoc]
    exact ih _

theorem checkFiles_alone (h : ∀ path, checkFile o path (disk.readText path) = .ok (alone path)) (path : Path) :
    checkFiles { o with files := [path] } disk = .ok (alone path) := by
  have hone := checkPaths_eq h ⟨.clean, []⟩ [path]
  rw [List.foldl_cons, List.foldl_nil, Verdict.clean_and, List.flatMap_singleton, List.nil_append] at hone
  exact hone

end Turns

theorem checkFiles_of_select {o : CheckOptions} {rules : List Rule} (h : Rule.select o.rules = .ok rules) (disk : Disk) :
    ∃ (alone : Path → Report) (report : Report),
      (∀ path, checkFiles { o with files := [path] } disk = .ok (alone path)) ∧ checkFiles o disk = .ok report ∧
      report.output = o.files.flatMap (fun path => (alone path).output) ∧
      (∀ w ∈ report.output, w.stream = .err) ∧
      report.verdict.code = (o.files.map fun path => (alone path).verdict.code).foldr max 0 ∧
      (1 < report.verdict.code ↔ ∃ path ∈ o.files, disk.Unreadable path) ∧
      (0 < report.verdict.code ↔
        (∃ path ∈ o.files, disk.Unreadable path) ∨ ∃ path ∈ o.files, disk.HasError o.rules path) := by
  choose alone halone herr hunreadable hfaulty using checkFile_of_select h disk
  have hcode := Verdict.code_foldl (fun path => (alone path).verdict) .clean o.files
  rw [show Verdict.clean.code = 0 from rfl, Nat.zero_max] at hcode
  refine ⟨alone, _, checkFiles_alone halone, checkPaths_eq halone ⟨.clean, []⟩ o.files, List.nil_append _, ?_, hcode,
    ?_, ?_⟩
  · intro w hw
    obtain ⟨path, -, hpath⟩ := List.mem_flatMap.1 hw
    exact herr path w hpath
  · simp only [hcode, Verdict.lt_foldr_code_iff, hunreadable]
  · simp only [hcode, Verdict.lt_foldr_code_iff, hfaulty, and_or_left, exists_or]

/-- **The report on many files is made of those on each alone**: what is written, in turn, and the greatest exit code.
Order, threshold and tokens have no say in the code. All is written to standard error, and the program ends with that
code, except that it does not deal with a null character in the name of a file. -/
theorem report_of_each_file (disk : Disk) (rules : Option (List Rule)) (files : List Path) (least : Severity)
    (tokens : Bool) :
    let names := rules.map (·.map Rule.name)
    let check (files : List Path) (least : Severity) (tokens : Bool) := checkFiles ⟨files, names, least, tokens⟩ disk
    ∃ (alone : Path → Report) (report : Report),
      (∀ path, check [path] least tokens = .ok (alone path)) ∧ check files least tokens = .ok report ∧
      report.output = files.flatMap (fun path => (alone path).output) ∧ (∀ w ∈ report.output, w.stream = .err) ∧
      report.verdict.code = (files.map fun path => (alone path).verdict.code).foldr max 0 ∧
      (report.verdict.code = 2 ↔ ∃ path ∈ files, disk.Unreadable path) ∧
      (report.verdict.code = 1 ↔
        (¬∃ path ∈ files, disk.Unreadable path) ∧ ∃ path ∈ files, disk.HasError names path) ∧
      (report.verdict.code = 0 ↔
        (¬∃ path ∈ files, disk.Unreadable path) ∧ ¬∃ path ∈ files, disk.HasError names path) ∧
      (∀ (others : List Path) (least' : Severity) (tokens' : Bool), others.Perm files →
        ∃ other, check others least' tokens' = .ok other ∧ other.verdict.code = report.verdict.code) ∧
      runCommand disk (.check ⟨files, names, least, tokens⟩) =
        if files.any Path.hasNull then .error .nullInName
        else .ok ⟨report.verdict.code, [], report.output.flatMap Write.text, none⟩ := by
  intro names check
  obtain ⟨selected, hselect⟩ := Rule.select_known rules
  obtain ⟨alone, report, halone, hreport, houtput, herr, hcode, hunreadable, hfaulty⟩ :=
    checkFiles_of_select (o := ⟨files, names, least, tokens⟩) hselect disk
  have hle := report.verdict.code_le
  refine ⟨alone, report, halone, hreport, houtput, herr, hcode, ?_, ?_, ?_, fun others least' tokens' hperm => ?_, ?_⟩
  · rw [← hunreadable]
    omega
  · rw [show report.verdict.code = 1 ↔ ¬1 < report.verdict.code ∧ 0 < report.verdict.code by omega, hunreadable, hfaulty]
    exact and_congr_right fun hreadable => or_iff_right hreadable
  · rw [show report.verdict.code = 0 ↔ ¬0 < report.verdict.code by omega, hfaulty, not_or]
  · obtain ⟨-, other, -, hother, -, -, -, hunreadable', hfaulty'⟩ :=
      checkFiles_of_select (o := ⟨others, names, least', tokens'⟩) hselect disk
    simp only [hperm.mem_iff] at hunreadable' hfaulty'
    have hle' := other.verdict.code_le
    have hone := hunreadable'.trans hunreadable.symm
    have hzero := hfaulty'.trans hfaulty.symm
    exact ⟨other, hother, by omega⟩
  · simp only [runCommand, hreport, Write.on_eq herr, Write.on_eq_nil herr (show Stream.err ≠ .out by decide)]

end SmaliLint
