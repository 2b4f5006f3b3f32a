import SmaliLint.Program

/-!
# The executable

Reads the files a command asks for, runs the program on them and writes what it has to say.
-/

namespace SmaliLint

/-- The fault of an operation that failed, if it is one that reports name. Its number may come
negated. -/
def faultOf? (e : IO.Error) : Option AccessFault :=
  let number : Int32 :=
    match e with
    | .noFileOrDirectory _ n _ => n.toInt32
    | .permissionDenied _ n _ => n.toInt32
    | .inappropriateType _ n _ => n.toInt32
    | .invalidArgument _ n _ => n.toInt32
    | .resourceExhausted _ n _ => n.toInt32
    | .otherError n _ => n.toInt32
    | _ => 0
  AccessFault.all.find? (·.number == number.toInt.natAbs)

/-- The result of an operation on a file. Faults that reports do not name end the program. -/
def attempt {α : Type} (p : Path) (operation : String → IO α) : IO (Except FileError α) := do
  try return .ok (← operation p.toString)
  catch e =>
    match faultOf? e with
    | some fault => return .error (.access fault p.toString)
    | none => throw e

/-- The disk as it was when the given files were read. -/
def snapshotDisk (paths : List Path) : IO Disk := do
  let contents ← (paths.filter (!·.hasNull)).mapM fun p => do
    return (p, ← attempt p fun s => return (← IO.FS.readBinFile s).toList)
  return {
    read := fun p => (contents.lookup p).getD (.error (.access .notFound p.toString))
    append := fun _ => .ok () }

/-- Writes the records of a server's start to its log. -/
def writeRecords (s : Serving) : IO Unit := do
  let lines := s.records.map (·.message ++ "\n")
  match s.options.logPath with
  | none => lines.forM fun l => do (← IO.getStderr).putStr l
  | some p =>
    let h ← IO.FS.Handle.mk p.toString .append
    lines.forM h.putStr

end SmaliLint

open SmaliLint in
/-- Runs the program on the words of the command line. -/
def main (words : List String) : IO UInt32 := do
  let paths :=
    match readCommand words with
    | .ok command => command.reads
    | .error _ => []
  match runProgram (← snapshotDisk paths) words with
  | .error crash =>
    (← IO.getStderr).putStr (crash.message ++ "\n")
    return 1
  | .ok outcome =>
    (← IO.getStdout).putStr (String.ofList outcome.stdout)
    (← IO.getStderr).putStr (String.ofList outcome.stderr)
    outcome.serving.forM writeRecords
    return UInt32.ofNat outcome.exitCode
