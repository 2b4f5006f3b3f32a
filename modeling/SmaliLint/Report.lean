import SmaliLint.Diagnostic.Excerpt
import SmaliLint.Options
import SmaliLint.Volume

/-!
# Reports

What is reported of a text: the diagnostics that are serious enough, in the order of the text; and
what `check` writes about its files, one after the other.

* `Stream`, `Write` : a standard stream, and a text written to one; `Write.on` : what writes leave on a stream;
* `checkSource` : the diagnostics of a text;
* `checkFile` : what is written about one file, and its verdict;
* `checkFiles` : the same for all files of a command.
-/

namespace SmaliLint

/-! ## Output -/

/-- A standard stream of the program. -/
inductive Stream where
  | out
  | err
  deriving DecidableEq, Repr

/-- A text that is written to a stream. -/
structure Write where
  stream : Stream
  text : Text
  deriving DecidableEq, Repr

/-- What writes leave on a stream. -/
def Write.on (s : Stream) (ws : List Write) : Text := (ws.filter (·.stream = s)).flatMap Write.text

/-- The row of a token, with its line feed. -/
def Token.row (t : Token) : Text :=
  let at_ (p : Position) : Text := Text.ofInt (p.line + 1) ++ ':' :: Text.ofInt (p.column + 1)
  let place := at_ t.span.start ++ '-' :: at_ t.span.stop
  place.padRight 16 ++ ' ' :: (Text.padRight 14 t.kind.name.toList ++ ' ' ::
    (Text.quoted t.content ++ ['\n']))

/-- Writes one row for every token: where it stands, counted from one, its kind, and its text between quotes. -/
def Token.dump (s : Stream) (ts : List Token) : List Write := ts.map fun t => ⟨s, t.row⟩

/-! ## Texts -/

/-- The diagnostics of at least the given severity, in the order of the text. -/
def selectFindings (least : Severity) (ds : List Diagnostic) : List Diagnostic :=
  Diagnostic.sort (ds.filter (·.severity.reaches least))

/-- What is reported of a text under the rules of the given names. -/
def checkSource (source : Text) (names : Option (List String)) (least : Severity) :
    Except UnknownRules (List Diagnostic) :=
  (validate source names).map (selectFindings least)

/-! ## Files -/

/-- How a file, or a number of files, came out. -/
inductive Verdict where
  /-- No errors. -/
  | clean
  /-- An error in a text. -/
  | faulty
  /-- A file that could not be read. -/
  | unreadable
  deriving DecidableEq, Repr

/-- The exit code of the program. -/
def Verdict.code : Verdict → Nat
  | .clean => 0
  | .faulty => 1
  | .unreadable => 2

/-- The verdict after another file. A file that cannot be read settles it; errors count as long as
all was clean. -/
def Verdict.and : Verdict → Verdict → Verdict
  | _, .unreadable => .unreadable
  | .clean, .faulty => .faulty
  | v, _ => v

/-- What is written, and how the files came out. -/
structure Report where
  verdict : Verdict
  output : List Write
  deriving DecidableEq, Repr

/-- The last line about a file. -/
def summaryLine (path : Path) (ds : List Diagnostic) : Text :=
  let errors := (ds.filter (·.severity = .error)).length
  path.toString.toList ++ ": ".toList ++ Text.ofNat errors ++ " error(s), ".toList ++
    Text.ofNat ds.length ++ " diagnostic(s)\n".toList

/-- What is written about a text: its tokens if asked for, its diagnostics and a summary. -/
def reportSource (o : CheckOptions) (path : Path) (source : Text) :
    Except UnknownRules Report := do
  let ds ← checkSource source o.rules o.least
  let listing := if o.tokens then Token.dump .err (tokenize source) else []
  let excerpts := ds.map fun d => ⟨.err, d.excerpt source path.toString ++ ['\n']⟩
  return ⟨if ds.any (·.severity = .error) then .faulty else .clean,
    listing ++ excerpts ++ [⟨.err, summaryLine path ds⟩]⟩

/-- What is written about a file. -/
def checkFile (o : CheckOptions) (path : Path) (content : Except FileError Text) :
    Except UnknownRules Report :=
  match content with
  | .ok source => reportSource o path source
  | .error e =>
    .ok ⟨.unreadable,
      [⟨.err, "error: cannot read ".toList ++ path.toString.toList ++ ": ".toList ++ e.message.toList ++
        ['\n']⟩]⟩

/-- What is written about files in turn, after the given report on those before them. -/
def checkPaths (o : CheckOptions) (disk : Disk) (before : Report) :
    List Path → Except UnknownRules Report
  | [] => .ok before
  | path :: paths => do
    let r ← checkFile o path (disk.readText path)
    checkPaths o disk ⟨before.verdict.and r.verdict, before.output ++ r.output⟩ paths

/-- What is written about the files of a command. -/
def checkFiles (o : CheckOptions) (disk : Disk) : Except UnknownRules Report :=
  checkPaths o disk ⟨.clean, []⟩ o.files

end SmaliLint
