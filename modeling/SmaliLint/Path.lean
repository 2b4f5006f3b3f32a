import SmaliLint.Text.Basic

/-!
# Paths

A path is where it starts and the names on the way. Empty names and single full stops mean nothing
and are left out, so a path has one spelling; two full stops are kept, because they may lead
elsewhere than back.

* `Path.ofString`, `Path.toString` : reading and spelling a path;
* `Path.collapse` : the path with every pair of full stops taken as the way back.
-/

namespace SmaliLint

/-- Where a path starts. -/
inductive PathRoot where
  /-- In the working directory. -/
  | here
  /-- At the root of all files. -/
  | slash
  /-- At a root of its own, written with exactly two slashes. -/
  | doubleSlash
  deriving DecidableEq, Repr

structure Path where
  root : PathRoot
  names : List String
  deriving DecidableEq, Repr

namespace Path

/-- The root that a text starts with. -/
def rootOf : Text → PathRoot
  | '/' :: '/' :: '/' :: _ => .slash
  | '/' :: '/' :: _ => .doubleSlash
  | '/' :: _ => .slash
  | _ => .here

/-- The path that a text spells. -/
def ofString (s : String) : Path :=
  let r := Text.pieces '/' s.toList
  ⟨rootOf s.toList,
    (r.1 :: r.2).filterMap fun p =>
      if p = [] ∨ p = ['.'] then none else some (String.ofList p)⟩

/-- The spelling of a path. -/
def toString (p : Path) : String :=
  let names := "/".intercalate p.names
  match p.root with
  | .here => if p.names.isEmpty then "." else names
  | .slash => "/" ++ names
  | .doubleSlash => "//" ++ names

/-- The names after one more, with two full stops for the way back. At a root there is no way back,
and in the working directory it leads further up. -/
def step (root : PathRoot) (names : List String) (name : String) : List String :=
  if name ≠ ".." then names ++ [name]
  else
    match names.getLast? with
    | some last => if last = ".." then names ++ [".."] else names.dropLast
    | none => if root = .here then [".."] else []

/-- The path without ways back behind names, whether or not the names lead anywhere. -/
def collapse (p : Path) : Path := { p with names := p.names.foldl (step p.root) [] }

end Path

end SmaliLint
