namespace Companion

inductive SystemError where
  | notFound | notADirectory | isADirectory | nameTooLong | nulInName
  deriving DecidableEq, Repr

def SystemError.text : SystemError → String
  | notFound => "No such file or directory (os error 2)"
  | notADirectory => "Not a directory (os error 20)"
  | isADirectory => "Is a directory (os error 21)"
  | nameTooLong => "File name too long (os error 36)"
  | nulInName => "file name contained an unexpected NUL byte"

inductive Entry where
  | file (content : ByteArray)
  | folder

/-- The length in bytes that the system reports. That of a folder is the system's own affair, and
small. -/
def Entry.size : Entry → Nat
  | file content => content.size
  | folder => 4096

def Entry.text? : Entry → Option String
  | file content => String.fromUTF8? content
  | folder => none

inductive Ground where
  | inside
  /-- The folders around the directory, taken as one. -/
  | above
  | root
  deriving DecidableEq, Repr

structure Place where
  ground : Ground
  names : List String := []
  deriving DecidableEq, Repr

namespace Place

def child (p : Place) (name : String) : Place := { p with names := p.names ++ [name] }

def parent (p : Place) : Place :=
  if p = ⟨.inside, []⟩ then ⟨.above, []⟩ else { p with names := p.names.dropLast }

end Place

/-- The files by the names that lead to them. Of what lies outside only the folders around, those
that every system has and the null device are known. -/
structure Directory where
  files : List (List String × ByteArray) := []

namespace Directory

def systemFolders : List String :=
  ["bin", "dev", "etc", "home", "lib", "mnt", "opt", "proc", "root", "run", "sbin", "srv", "sys",
    "tmp", "usr", "var"]

def systemEntry? : List String → Option Entry
  | [] => some .folder
  | [name] => if name ∈ systemFolders then some .folder else none
  | ["dev", "null"] => some (.file .empty)
  | _ => none

def entry? (d : Directory) : Place → Option Entry
  | ⟨.inside, names⟩ =>
    match d.files.lookup names with
    | some content => some (.file content)
    | none =>
      if names = [] ∨ d.files.any (fun f => names.isPrefixOf f.1) then some .folder else none
  | ⟨.above, names⟩ => if names = [] then some .folder else none
  | ⟨.root, names⟩ => systemEntry? names

def maxNameLength : Nat := 255

def maxPathLength : Nat := 4095

def walk (d : Directory) : Place → List String → Except SystemError Place
  | place, [] => .ok place
  | place, c :: cs =>
    match d.entry? place with
    | none => .error .notFound
    | some (.file _) => .error .notADirectory
    | some .folder =>
      if c = "" ∨ c = "." then d.walk place cs
      else if c = ".." then d.walk place.parent cs
      else if maxNameLength < c.utf8ByteSize then .error .nameTooLong
      else d.walk (place.child c) cs

def splitSlashes : List Char → List (List Char)
  | [] => [[]]
  | c :: s =>
    if c = '/' then [] :: splitSlashes s
    else
      match splitSlashes s with
      | w :: ws => (c :: w) :: ws
      | [] => [[c]]

def components (path : String) : List String := (splitSlashes path.toList).map String.ofList

def isDots (c : String) : Bool := c == "" || c == "." || c == ".."

def start (path : String) : Place :=
  if path.toList.head? = some '/' then ⟨.root, []⟩ else ⟨.inside, []⟩

def pathProblem? (path : String) : Option SystemError :=
  if path.toList.contains '\x00' then some .nulInName
  else if maxPathLength < path.utf8ByteSize then some .nameTooLong
  else if path.isEmpty then some .notFound
  else none

def checkPath (path : String) : Except SystemError Unit :=
  match pathProblem? path with
  | some e => .error e
  | none => .ok ()

def read (d : Directory) (path : String) : Except SystemError Entry := do
  checkPath path
  match d.entry? (← d.walk (start path) (components path)) with
  | some e => return e
  | none => throw .notFound

/-- The directory after a file was written in place of what was there; what is written outside it
does not show. -/
def put (d : Directory) (place : Place) (content : ByteArray) : Directory :=
  match place with
  | ⟨.inside, names⟩ => ⟨d.files.filter (·.1 != names) ++ [(names, content)]⟩
  | _ => d

def write (d : Directory) (path : String) (content : ByteArray) :
    Except SystemError Directory := do
  checkPath path
  let cs := components path
  let names := (cs.reverse.dropWhile (· == "")).reverse
  let name := names.getLastD ""
  let folder ← d.walk (start path) names.dropLast
  match d.entry? folder with
  | none => throw .notFound
  | some (.file _) => throw .notADirectory
  | some .folder =>
    if isDots name || cs.length != names.length then throw .isADirectory
    if maxNameLength < name.utf8ByteSize then throw .nameTooLong
    match d.entry? (folder.child name) with
    | some .folder => throw .isADirectory
    | _ => return d.put (folder.child name) content

def newFiles (d other : Directory) : List (List String × ByteArray) :=
  d.files.filter fun f => (other.files.lookup f.1).isNone

end Directory

end Companion
