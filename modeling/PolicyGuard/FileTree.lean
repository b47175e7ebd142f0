/-!
A tree of files below the working directory.

Looking a path up walks it part by part, so a part that is missing or is no
directory is an error of its own kind; `FileError.message` is the wording of each.
Absolute paths start from a root beside the working directory, and places above
the working directory begin with `..`.
-/

namespace PolicyGuard

inductive FileError where
  | notFound
  | alreadyThere
  | notDirectory
  | isDirectory
  | nameTooLong
  | nulInPath
  | invalidText
  deriving DecidableEq, Repr

def FileError.message : FileError → String
  | notFound => "No such file or directory (os error 2)"
  | alreadyThere => "File exists (os error 17)"
  | notDirectory => "Not a directory (os error 20)"
  | isDirectory => "Is a directory (os error 21)"
  | nameTooLong => "File name too long (os error 36)"
  | nulInPath => "file name contained an unexpected NUL byte"
  | invalidText => "stream did not contain valid UTF-8"

inductive Entry where
  | file (content : List UInt8)
  | directory
  deriving DecidableEq, Repr

/-- Entries by the names on the way to them. The root is always there. -/
structure FileTree where
  entries : List (List String × Entry)
  deriving DecidableEq, Repr

namespace FileTree

def empty : FileTree :=
  ⟨[]⟩

def bytes (s : String) : List UInt8 :=
  s.toUTF8.toList

/-- The text of some bytes, where they are one. -/
def text? (content : List UInt8) : Option String :=
  String.fromUTF8? (ByteArray.mk content.toArray)

/-- Where absolute paths start. -/
def root : List String :=
  ["/"]

/-- The place above a place. -/
def above (place : List String) : List String :=
  if place = root then root
  else if place.all (· = "..") then place ++ [".."]
  else place.dropLast

def find? (t : FileTree) (names : List String) : Option Entry :=
  if names.isEmpty || names = root then some .directory else t.entries.lookup names

/-- Puts an entry in a place, whatever was there. -/
def set (t : FileTree) (names : List String) (e : Entry) : FileTree :=
  ⟨(names, e) :: t.entries.filter (·.1 ≠ names)⟩

def erase (t : FileTree) (names : List String) : FileTree :=
  ⟨t.entries.filter (·.1 ≠ names)⟩

/-- The parts of a path, with its slashes gone. -/
def parts (path : String) : List String :=
  (path.toList.splitOn '/').map String.ofList

/-- Without the parts at the end that do not lead anywhere. -/
def trimParts (names : List String) : List String :=
  (names.reverse.dropWhile fun p => p = "" || p = ".").reverse

/-- The path without its last part; a root has none. -/
def parent? (path : String) : Option String :=
  match parts path with
  | [] => none
  | first :: rest =>
    let names := trimParts rest
    if names.isEmpty then (if first = "" then none else some "")
    else
      let left := trimParts names.dropLast
      if first = "" && left.isEmpty then some "/" else some ("/".intercalate (first :: left))

/-- Whether a path asks for a directory by its end. -/
def asksDirectory (path : String) : Bool :=
  match (parts path).getLast? with
  | some last => last = "" || last = "." || last = ".."
  | none => false

/-- Walks the parts of a path from a place, which has to be a directory before each step. -/
def walk (t : FileTree) (place : List String) : List String → Except FileError (List String)
  | [] => .ok place
  | part :: rest =>
    match t.find? place with
    | none => .error .notFound
    | some (.file _) => .error .notDirectory
    | some .directory =>
      if part = "" || part = "." then walk t place rest
      else if part = ".." then walk t (above place) rest
      else if 255 < part.utf8ByteSize then .error .nameTooLong
      else walk t (place ++ [part]) rest

/-- The place that a path starts from. -/
def start (path : String) : List String :=
  if path.toList.head? = some '/' then root else []

/-- The place of a path, whose last part need not be there. -/
def locate (t : FileTree) (path : String) : Except FileError (List String) :=
  if path.toList.contains '\x00' then .error .nulInPath
  else if path.isEmpty then .error .notFound
  else walk t (start path) (parts path)

/-- The entry at a path. -/
def entry (t : FileTree) (path : String) : Except FileError Entry := do
  match t.find? (← t.locate path) with
  | none => .error .notFound
  | some (.file content) =>
    if asksDirectory path then .error .notDirectory else .ok (.file content)
  | some .directory => .ok .directory

def has (t : FileTree) (path : String) : Bool :=
  match t.entry path with
  | .ok _ => true
  | .error _ => false

def isFile (t : FileTree) (path : String) : Bool :=
  match t.entry path with
  | .ok (.file _) => true
  | _ => false

def isDirectory (t : FileTree) (path : String) : Bool :=
  match t.entry path with
  | .ok .directory => true
  | _ => false

/-- The text of the file at a path. -/
def readText (t : FileTree) (path : String) : Except FileError String := do
  match ← t.entry path with
  | .directory => .error .isDirectory
  | .file content =>
    match text? content with
    | some s => .ok s
    | none => .error .invalidText

/-- The place of a file that may be written. -/
def writable (t : FileTree) (path : String) : Except FileError (List String) := do
  let place ← t.locate path
  match t.find? place with
  | some .directory => .error .isDirectory
  | some (.file _) => if asksDirectory path then .error .notDirectory else .ok place
  | none => if asksDirectory path then .error .isDirectory else .ok place

/-- Adds to the end of a file, which is made where it is missing. -/
def append (t : FileTree) (path : String) (content : List UInt8) : Except FileError FileTree := do
  let place ← t.writable path
  match t.find? place with
  | some (.file old) => .ok (t.set place (.file (old ++ content)))
  | _ => .ok (t.set place (.file content))

/-- Writes a file anew. -/
def write (t : FileTree) (path : String) (content : List UInt8) : Except FileError FileTree := do
  return t.set (← t.writable path) (.file content)

def remove (t : FileTree) (path : String) : Except FileError FileTree := do
  match ← t.entry path with
  | .file _ => return t.erase (← t.locate path)
  | .directory => .error .isDirectory

/-- Makes the directories of a place and of all on the way to it. -/
def makePlaces (t : FileTree) (made : List String) : List String → Except FileError FileTree
  | [] => .ok t
  | name :: rest =>
    let place := if name = ".." then above made else made ++ [name]
    match t.find? place with
    | some (.file _) => .error (if rest.isEmpty then .alreadyThere else .notDirectory)
    | some .directory => makePlaces t place rest
    | none =>
      if 255 < name.utf8ByteSize then .error .nameTooLong
      else makePlaces (t.set place .directory) place rest

/-- Makes a directory and those it lies in. -/
def makeDirectories (t : FileTree) (path : String) : Except FileError FileTree :=
  if path.isEmpty then .ok t
  else if path.toList.contains '\x00' then .error .nulInPath
  else makePlaces t (start path) ((parts path).filter fun p => p ≠ "" && p ≠ ".")

/-- Puts a file in a tree, with the directories it lies in; `none` stands for a directory. -/
def put (t : FileTree) (path : String) (content : Option (List UInt8)) : FileTree :=
  let placed := match content with
    | some content => do
      (← t.makeDirectories ((parent? path).getD "")).write path content
    | none => t.makeDirectories path
  match placed with
  | .ok t => t
  | .error _ => t

/-- The tree of given files and directories. -/
def ofList (files : List (String × Option (List UInt8))) : FileTree :=
  files.foldl (fun t f => t.put f.1 f.2) empty

end FileTree

end PolicyGuard
