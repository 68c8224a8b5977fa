import TagTemplate.CommandLine.Run

/-!
# Files in memory

A system of files given by their paths, with a working directory. Directories are those that
files lie in and those on the way to the working directory. A path is walked name by name, and
the first step that cannot be made says why nothing can be read there.
-/

namespace TagTemplate

/-- Files and a working directory, each by the names on the way from the root. -/
structure FileTree where
  /-- The directory in which paths that are not absolute begin. -/
  workingDirectory : List String
  /-- The files and their bytes. -/
  files : List (List String × List UInt8)

namespace FileTree

/-- The most bytes of a name. -/
def longestName : Nat := 255

/-- The most bytes of a path. -/
def longestPath : Nat := 4095

/-- The parts of a path; dots and doubled slashes say nothing. -/
def partsOf (path : String) : List String :=
  ((Text.piecesAt '/' path.toList).map String.ofList).filter fun part => part ≠ "" ∧ part ≠ "."

/-- Where a path begins: at the root if it is absolute, else in the working directory. -/
def startOf (workingDirectory : List String) (path : String) : List String :=
  if path.toList.head? = some '/' then [] else workingDirectory

/-- One step along a path; two dots lead to the parent, and the root is its own. -/
def step (here : List String) (part : String) : List String :=
  if part = ".." then here.dropLast else here ++ [part]

/-- The tree of files with the given paths. Of several with one path the last counts. -/
def ofFiles (workingDirectory : String) (files : List (String × List UInt8)) : FileTree :=
  let home := partsOf workingDirectory
  ⟨home, (files.map fun (path, bytes) =>
    ((partsOf path).foldl step (startOf home path), bytes)).reverse⟩

/-- Whether there is a directory with these parts. -/
def isDirectory (t : FileTree) (parts : List String) : Bool :=
  parts.isPrefixOf t.workingDirectory ||
    t.files.any fun (p, _) => parts.length < p.length && parts.isPrefixOf p

/-- The bytes of the file with these parts. -/
def file? (t : FileTree) (parts : List String) : Option (List UInt8) := t.files.lookup parts

/-- Walks from the directory `here` along the parts of a path. -/
def walk (t : FileTree) (asDirectory : Bool) (here : List String) :
    List String → Except ReadFault (List UInt8)
  | [] => .error .directory
  | part :: rest =>
    if longestName < part.utf8ByteSize then .error .nameTooLong
    else
      let next := step here part
      match t.file? next, rest with
      | some bytes, [] => if asDirectory then .error .notDirectory else .ok bytes
      | some _, _ :: _ => .error .notDirectory
      | none, rest =>
        if t.isDirectory next then walk t asDirectory next rest else .error .missing

/-- Whether a path asks for a directory, by a slash or a dot at its end. -/
def asksForDirectory (path : String) : Bool :=
  match path.toList.reverse with
  | '/' :: _ => true
  | '.' :: '/' :: _ => true
  | _ => false

/-- The bytes at a path. -/
def look (t : FileTree) (path : String) : Except ReadFault (List UInt8) :=
  if path = "" then .error .missing
  else if longestPath < path.utf8ByteSize then .error .nameTooLong
  else t.walk (asksForDirectory path) (startOf t.workingDirectory path) (partsOf path)

end FileTree

end TagTemplate
