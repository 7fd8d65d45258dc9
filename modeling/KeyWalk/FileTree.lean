/-
What stands below the working directory: folders and files by the names on their paths.

* `FileTree.find` follows a path as it is written, with `.` and `..` in it,
* `FileTree.makeAll path` makes a folder and the folders on its path that are missing; what was
  made stays, also if the rest cannot be made,
* `FileTree.withFile` and `FileTree.addFile` put a file there,
* `FileTree.entriesIn` counts what stands in a folder.

Design notes.  Nothing is known of the places outside the working directory: folders are taken to
be there, except below a few folders and files that every system has.
-/

namespace KeyWalk

/-- The folders and files below the working directory. -/
structure FileTree where
  folders : List (List String) := []
  files : List (List String) := []
  deriving DecidableEq, Repr

namespace FileTree

/-! ### Places -/

/-- A folder: below the working directory, or anywhere else. -/
inductive Place where
  | inside (names : List String)
  | outside
  deriving DecidableEq, Repr

/-- What a path leads to. -/
inductive Found where
  | folder (p : Place)
  | missing
  /-- A file stands in the way, or a name is too long. -/
  | refused
  deriving DecidableEq, Repr

/-- The parts of a path, as they are written; empty ones do not count. -/
def parts (path : String) : List String :=
  ((path.toList.splitOn '/').filter (· ≠ [])).map String.ofList

/-- Where a path starts. -/
def start (path : String) : Place :=
  if path.toList.head? = some '/' then .outside else .inside []

/-- The folder around a place. -/
def Place.parent : Place → Place
  | inside [] => outside
  | inside names => inside names.dropLast
  | outside => outside

/-- A name has at most 255 bytes. -/
def isTooLong (name : String) : Bool := 255 < name.utf8ByteSize

/-- What a name stands for in a folder. -/
def entry (t : FileTree) (p : Place) (name : String) : Found :=
  if name = "." then .folder p
  else if name = ".." then .folder p.parent
  else if isTooLong name then .refused
  else match p with
    | .outside => .folder .outside
    | .inside names =>
      let names := names ++ [name]
      if t.folders.contains names then .folder (.inside names)
      else if t.files.contains names then .refused
      else .missing

/-- What the parts of a path lead to from a folder. -/
def find (t : FileTree) : Place → List String → Found
  | p, [] => .folder p
  | p, name :: r =>
    match t.entry p name with
    | .folder q => t.find q r
    | other => other

/-! ### Making folders -/

/-- Makes a folder in a folder that is there; the parts of its path come last first. -/
def make (t : FileTree) (p : Place) : List String → FileTree × Found
  | [] => (t, .folder p)
  | name :: r =>
    match t.find p r.reverse with
    | .folder q =>
      match t.entry q name, q with
      | .missing, .inside names =>
        let names := names ++ [name]
        ({ t with folders := names :: t.folders }, .folder (.inside names))
      | found, _ => (t, found)
    | found => (t, found)

/-- The path without the parts `.` at its end; the parts come last first. -/
def dropDots (parts : List String) : List String := parts.dropWhile (· == ".")

theorem length_dropDots_le (parts : List String) : (dropDots parts).length ≤ parts.length :=
  (List.dropWhile_sublist (· == ".")).length_le

/-- Makes a folder and before it, if need be, the folders on its path, whose parts come last
first.  A part `.` is not a folder of its own on the way to another one. -/
def makeFrom (t : FileTree) (p : Place) (parts : List String) : FileTree × Found :=
  match t.make p parts with
  | (t, .missing) =>
    match h : dropDots parts with
    | [] => (t, .missing)
    | _ :: rest =>
      have : (dropDots rest).length < parts.length := by
        have h₁ := length_dropDots_le parts
        have h₂ := length_dropDots_le rest
        rw [h, List.length_cons] at h₁
        omega
      match t.makeFrom p (dropDots rest) with
      | (t, .folder _) => t.make p parts
      | other => other
  | other => other
termination_by parts.length

/-- Folders of the system in which no folder can be made. -/
def closedFolders : List String := ["proc", "sys"]

/-- Devices and files of the system; none is a folder. -/
def knownFiles : List (List String) :=
  [["dev", "null"], ["dev", "zero"], ["dev", "full"], ["dev", "random"], ["dev", "urandom"],
    ["dev", "tty"], ["etc", "passwd"], ["etc", "group"], ["etc", "hosts"], ["etc", "hostname"]]

/-- No folder can be made at a path outside the working directory. -/
def isClosed (path : String) : Bool :=
  start path = .outside &&
    match parts path with
    | first :: second :: _ =>
      closedFolders.contains first || knownFiles.contains [first, second]
    | _ => false

/-- No path has a null character or 4096 bytes. -/
def isPath (path : String) : Bool := !path.toList.contains '\x00' && path.utf8ByteSize < 4096

/-- Makes a folder and the folders on its path; the answer is the place of the folder. -/
def makeAll (t : FileTree) (path : String) : FileTree × Option Place :=
  if !isPath path || isClosed path then (t, none)
  else
    let names := parts path
    match t.makeFrom (start path) names.reverse with
    | (t, .folder _) =>
      match t.find (start path) names with
      | .folder p => (t, some p)
      | _ => (t, none)
    | (t, _) => (t, none)

/-- A file added to a folder. -/
def addFile (t : FileTree) (p : Place) (name : String) : FileTree :=
  match p with
  | .inside names => { t with files := (names ++ [name]) :: t.files }
  | .outside => t

/-- The tree with a file, and with the folders on its path. -/
def withFile (t : FileTree) (path : String) : FileTree :=
  match (parts path).reverse with
  | [] => t
  | name :: r =>
    match t.makeFrom (start path) r with
    | (t, .folder p) => t.addFile p name
    | (t, _) => t

/-! ### Looking -/

/-- The number of entries of a folder of the working directory; `none` if there is no such
folder. -/
def entriesIn (t : FileTree) (name : String) : Option Nat :=
  if t.folders.contains [name] then
    some ((t.folders ++ t.files).filter fun names =>
      names.length == 2 && names.head? == some name).length
  else none

end FileTree

end KeyWalk
