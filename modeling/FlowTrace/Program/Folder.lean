/-
  FlowTrace.Program.Folder
  ────────────────────────────────
  **THE FILES OF A FOLDER.**

  A program run reads and writes text files of its working folder.  A path is
  a list of names with slashes between, and `..` leads up.  Names are bytes: a
  character is written in UTF-8, and the halves U+DC80 to U+DCFF stand for the
  bytes 80 to FF; other halves are in no name.  A directory is what a file
  lies in; one without files may be listed by itself.  Every system has some
  directories, and a null device that holds nothing and keeps nothing.
-/
import FlowTrace.Act
import FlowTrace.Json.Basic
import FlowTrace.Text.Lines

namespace FlowTrace

/-! ## §1. Paths. -/

namespace Path

/-- The names between slashes, empty ones included. -/
def splitSlashes : List Char → List (List Char)
  | [] => [[]]
  | c :: rest =>
      if c = '/' then [] :: splitSlashes rest
      else
        match splitSlashes rest with
        | [] => [[c]]
        | name :: names => (c :: name) :: names

/-- The slashes in front of a path: one or two count, more are one. -/
def root (path : String) : String :=
  match (path.toList.takeWhile (· == '/')).length with
  | 0 => ""
  | 2 => "//"
  | _ => "/"

/-- The names of a path, without empty ones and those that stay where they are. -/
def steps (path : String) : List String :=
  ((splitSlashes path.toList).map String.ofList).filter (fun n => n != "" && n != ".")

/-- The names of a path, from `/` on if it starts there. -/
def names (path : String) : List String :=
  if root path = "" then steps path else "/" :: steps path

/-- The path of names. -/
def join : List String → String
  | "/" :: names => "/" ++ String.intercalate "/" names
  | names => String.intercalate "/" names

/-- A path without needless parts. -/
def normal (path : String) : String :=
  let text := root path ++ String.intercalate "/" (steps path)
  if text = "" then "." else text

/-- The directory above one, by its names from the working folder or from `/`. -/
def above (names : List String) : List String :=
  if names = ["/"] then names
  else if names.all (· == "..") then names ++ [".."]
  else names.dropLast

/-- Does the path lead into the working folder? -/
def isInside (path : String) : Bool :=
  match names path with
  | first :: _ => first != "/" && first != ".."
  | [] => true

/-- The most bytes of a name. -/
def nameLimit : Nat := 255

/-- The most bytes of a path. -/
def pathLimit : Nat := 4095

/-- The bytes of a code point in a name, none if no name can hold it. -/
def byteCount? : CodePoint → Option Nat
  | .char c => some c.utf8Size
  | .half i => if 0x480 ≤ i.val ∧ i.val < 0x500 then some 1 else none

/-- The bytes of a text in a name. -/
def byteCount (text : String) : Nat :=
  (CodePoint.split text).foldl (fun n p => n + (byteCount? p).getD 0) 0

/-- The fault of a text that no name can hold: it has a half that stands for no
byte, or the null character. -/
def nameFault? (text : String) : Option Fault :=
  if (CodePoint.split text).any (fun p => (byteCount? p).isNone) then some .unwritable
  else if text.toList.contains '\x00' then some (.badValue "embedded null byte")
  else none

end Path

/-! ## §2. Folders. -/

/-- The files of a folder, by their paths, and directories that need not hold any. -/
structure Folder where
  files : List (String × String) := []
  directories : List (List String) := []
  deriving Inhabited, Repr

/-- What lies at a path. -/
inductive Located where
  | file (path : String)
  | directory
  /-- Nothing, but a file may be created there. -/
  | vacant (path : String)
  /-- The null device. -/
  | sink
  deriving DecidableEq, Repr

namespace Folder

/-- A folder with files. -/
def ofList (files : List (String × String)) : Folder :=
  { files := files.foldl (fun m f => Fields.put (Path.normal f.1) f.2 m) [] }

/-- The text of a file. -/
def text? (f : Folder) (path : String) : Option String := Fields.get? f.files path

/-- The directories that every system has. -/
def systemDirectories : List (List String) :=
  [["/"], ["/", "bin"], ["/", "boot"], ["/", "dev"], ["/", "dev", "shm"], ["/", "etc"],
    ["/", "home"], ["/", "lib"], ["/", "media"], ["/", "mnt"], ["/", "opt"], ["/", "proc"],
    ["/", "root"], ["/", "run"], ["/", "sbin"], ["/", "srv"], ["/", "sys"], ["/", "tmp"],
    ["/", "usr"], ["/", "usr", "bin"], ["/", "usr", "lib"], ["/", "usr", "local"],
    ["/", "usr", "share"], ["/", "var"], ["/", "var", "log"], ["/", "var", "tmp"]]

/-- The null device. -/
def nullDevice : List String := ["/", "dev", "null"]

/-- Are the names those of a directory? -/
def hasDirectory (f : Folder) (names : List String) : Bool :=
  systemDirectories.contains names || f.directories.contains names
    || f.files.any (fun e =>
      names.isPrefixOf (Path.names e.1) && decide (names.length < (Path.names e.1).length))

/-- What lies at the names, from a directory on. -/
def locate (f : Folder) : List String → List String → Except FileProblem Located
  | _, [] => .ok .directory
  | here, name :: rest =>
      let there := here ++ [name]
      let path := Path.join there
      if name = ".." then locate f (Path.above here) rest
      else if Path.nameLimit < Path.byteCount name then .error .nameTooLong
      else if f.hasDirectory there then locate f there rest
      else if there = nullDevice ∨ (f.text? path).isSome then
        if !rest.isEmpty then .error .notDirectory
        else if there = nullDevice then .ok .sink
        else .ok (.file path)
      else if rest.isEmpty then .ok (.vacant path)
      else .error .missing

/-- What lies at a path. -/
def find (f : Folder) (path : String) : Except Fault Located :=
  match Path.nameFault? path with
  | some fault => .error fault
  | none =>
      if Path.pathLimit < Path.byteCount (Path.normal path) then
        .error (.file .nameTooLong (Path.normal path))
      else
        match f.locate [] (Path.names path) with
        | .ok located => .ok located
        | .error problem => .error (.file problem (Path.normal path))

/-- Read a text file. -/
def read (f : Folder) (path : String) : Except Fault String := do
  match ← f.find path with
  | .file name => pure (String.ofList (unifyNewlines ((f.text? name).getD "").toList))
  | .sink => pure ""
  | .directory => throw (.file .isDirectory (Path.normal path))
  | .vacant _ => throw (.file .missing (Path.normal path))

/-- Write a text file. -/
def write (f : Folder) (path text : String) : Except Fault Folder := do
  match ← f.find path with
  | .file name => pure { f with files := Fields.put name text f.files }
  | .vacant name => pure { f with files := Fields.put name text f.files }
  | .sink => pure f
  | .directory => throw (.file .isDirectory (Path.normal path))

/-- Write a text file and say how that ends.  A text that no file can hold is noticed
when the file is open, and leaves it empty. -/
def save (path text : String) : Act Folder Unit := do
  let f ← get
  if CodePoint.hasHalf text then
    set (← Act.ofExcept (f.write path ""))
    throw .unwritable
  else set (← Act.ofExcept (f.write path text))

/-- The files that are new or changed since. -/
def changes (before after : Folder) : List (String × String) :=
  after.files.filter (fun e => before.text? e.1 != some e.2)

end Folder
end FlowTrace
