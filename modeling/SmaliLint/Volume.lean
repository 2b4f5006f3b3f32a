import SmaliLint.Path
import SmaliLint.Text.Quoted
import SmaliLint.Text.Utf8

/-!
# Files

What can be read where the program runs, and why a file cannot be read.

* `Disk` : what a program can do with files;
* `Disk.readText` : the text of a file, with line feeds as its only line ends;
* `FileError.message` : what is said of a file that cannot be read;
* `Volume` : the files and directories below a working directory, as a value;
* `Volume.find` : what a path leads to; names are followed one by one, each in a directory.
-/

namespace SmaliLint

/-! ## Errors -/

/-- Why a path does not lead to something that can be read. -/
inductive AccessFault where
  | notFound
  | denied
  | notDirectory
  | isDirectory
  | nameTooLong
  deriving DecidableEq, Repr

namespace AccessFault

def all : List AccessFault := [.notFound, .denied, .notDirectory, .isDirectory, .nameTooLong]

/-- The number by which an operating system knows the fault. -/
def number : AccessFault → Nat
  | .notFound => 2
  | .denied => 13
  | .notDirectory => 20
  | .isDirectory => 21
  | .nameTooLong => 36

/-- What the fault is called. -/
def description : AccessFault → String
  | .notFound => "No such file or directory"
  | .denied => "Permission denied"
  | .notDirectory => "Not a directory"
  | .isDirectory => "Is a directory"
  | .nameTooLong => "File name too long"

/-- The fault with its number. -/
def message (f : AccessFault) : String :=
  "[Errno " ++ String.ofList (Text.ofNat f.number) ++ "] " ++ f.description

end AccessFault

/-- Why a file cannot be read. -/
inductive FileError where
  | access (fault : AccessFault) (path : String)
  | decode (cause : Utf8.DecodeError)
  deriving DecidableEq, Repr

/-- The bytes that are no text, and why. -/
def Utf8.DecodeError.message (e : Utf8.DecodeError) : String :=
  let place (n : Nat) := String.ofList (Text.ofNat n)
  let bytes :=
    if e.more = 0 then
      "byte 0x" ++ String.ofList (Text.hexPadded 2 e.first.toNat) ++ " in position " ++
        place e.position
    else "bytes in position " ++ place e.position ++ "-" ++ place (e.position + e.more)
  "'utf-8' codec can't decode " ++ bytes ++ ": " ++ e.fault.message

def FileError.message : FileError → String
  | .access fault path => fault.message ++ ": " ++ quote path
  | .decode cause => cause.message

/-! ## Line ends -/

/-- Line feeds in place of carriage returns, alone or before a line feed. -/
def Text.unifyLineEnds : Text → Text
  | [] => []
  | '\r' :: '\n' :: s => '\n' :: unifyLineEnds s
  | '\r' :: s => '\n' :: unifyLineEnds s
  | c :: s => c :: unifyLineEnds s

/-! ## Disks -/

/-- What a program can do with files. -/
structure Disk where
  /-- The bytes of a file. -/
  read : Path → Except FileError (List UInt8)
  /-- Opens a file to write at its end, and makes it if it is not there. -/
  append : Path → Except FileError Unit

/-- The text of a file. -/
def Disk.readText (d : Disk) (p : Path) : Except FileError Text := do
  match Utf8.decode (← d.read p) with
  | .ok s => return s.unifyLineEnds
  | .error e => throw (.decode e)

/-! ## The volume -/

/-- What a name stands for. -/
inductive Node where
  | file (bytes : List UInt8)
  | directory
  deriving DecidableEq, Repr

/-- Files and directories by the names that lead to them. The directories that lead to an entry need
no entries of their own. -/
structure Volume where
  entries : List (List String × Node)
  deriving DecidableEq, Repr

/-- A place that a path may reach. -/
inductive Place where
  /-- Below the working directory, at the end of some names. -/
  | below (names : List String)
  /-- A directory that contains the working directory. -/
  | above
  /-- A name elsewhere, where nothing stands. -/
  | elsewhere
  deriving DecidableEq, Repr

namespace Volume

/-- What stands at the end of some names. -/
def get? (v : Volume) (names : List String) : Option Node :=
  if names = [] then some .directory
  else
    match v.entries.lookup names with
    | some node => some node
    | none => if v.entries.any (names.isPrefixOf ·.1) then some .directory else none

/-- The longest name a file system takes, and the longest path, in bytes. -/
def maxNameBytes : Nat := 255

def maxPathBytes : Nat := 4095

/-- What stands at a place. -/
def nodeAt? (v : Volume) : Place → Option Node
  | .below names => v.get? names
  | .above => some .directory
  | .elsewhere => none

/-- Follows names from a place. Only a directory leads further. -/
def follow (v : Volume) (place : Place) : List String → Except AccessFault Place
  | [] => .ok place
  | name :: names =>
    match v.nodeAt? place with
    | none => .error .notFound
    | some (.file _) => .error .notDirectory
    | some .directory =>
      if name = ".." then
        match place with
        | .below (n :: ns) => v.follow (.below (n :: ns).dropLast) names
        | _ => v.follow .above names
      else if name.utf8ByteSize > maxNameBytes then .error .nameTooLong
      else
        match place with
        | .below ns => v.follow (.below (ns ++ [name])) names
        | _ => v.follow .elsewhere names

/-- The place that a path leads to, where something may or may not stand. -/
def locate (v : Volume) (p : Path) : Except AccessFault Place :=
  if p.toString.utf8ByteSize > maxPathBytes then .error .nameTooLong
  else
    match p.root with
    | .here => v.follow (.below []) p.names
    | _ => v.follow .above p.names

/-- What a path leads to. -/
def find (v : Volume) (p : Path) : Except AccessFault Node := do
  match v.nodeAt? (← v.locate p) with
  | some node => return node
  | none => throw .notFound

/-- The bytes of a file. -/
def read (v : Volume) (p : Path) : Except FileError (List UInt8) :=
  match v.find p with
  | .ok (.file bytes) => .ok bytes
  | .ok .directory => .error (.access .isDirectory p.toString)
  | .error fault => .error (.access fault p.toString)

/-- The names of the file that opening a path to write at its end makes, if it makes one. -/
def made (v : Volume) (p : Path) : Except FileError (Option (List String)) :=
  match v.locate p with
  | .error fault => .error (.access fault p.toString)
  | .ok place =>
    match place, v.nodeAt? place with
    | _, some .directory => .error (.access .isDirectory p.toString)
    | .below names, none => .ok (some names)
    | _, _ => .ok none

/-- The disk that holds a volume. -/
def disk (v : Volume) : Disk where
  read := v.read
  append p := (v.made p).map fun _ => ()

end Volume

end SmaliLint
