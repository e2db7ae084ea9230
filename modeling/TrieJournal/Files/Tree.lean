import TrieJournal.Files.Path

/-!
# Directory trees

The files and directories of a system, and what becomes of them when files are read and written by
paths. A path starts at the root if it has a leading slash, and else at the top. Every segment of a
path but the last has to be a directory, the last one too if slashes follow it, and the parent of
the root is the root.
-/

namespace TrieJournal

inductive FileError where
  | notFound
  | isDirectory
  | notDirectory
  | invalidInput
  | nameTooLong
  | nullCharacter
  deriving DecidableEq, Repr

def FileError.message : FileError → String
  | .notFound => "No such file or directory (os error 2)"
  | .isDirectory => "Is a directory (os error 21)"
  | .notDirectory => "Not a directory (os error 20)"
  | .invalidInput => "Invalid argument (os error 22)"
  | .nameTooLong => "File name too long (os error 36)"
  | .nullCharacter => "file name contained an unexpected NUL byte"

/-- A place in a tree: the names that lead to it from the root. -/
abbrev Place := List Bytes

inductive Item where
  | file (content : Bytes)
  | directory
  deriving DecidableEq, Repr

/-- What stands below the root, which is a directory, and the place where relative paths start. A
place is listed once, and its parents are listed as directories. -/
structure Tree where
  top : Place
  items : List (Place × Item)
  deriving DecidableEq, Repr

namespace Tree

def empty : Tree := ⟨[], []⟩

def systemDirectories : List Bytes :=
  ["bin", "boot", "dev", "etc", "home", "lib", "media", "mnt", "opt", "proc", "root", "run", "sbin",
    "srv", "sys", "tmp", "usr", "var"].map Utf8.encode

def nullDevice : Place := ["dev", "null"].map Utf8.encode

/-- A usual system whose top is a new directory with nothing in it. -/
def fresh : Tree :=
  let top := ["tmp", "work"].map Utf8.encode
  ⟨top, (top, .directory) :: (nullDevice, .file []) ::
    systemDirectories.map fun name => ([name], .directory)⟩

def item? (t : Tree) (place : Place) : Option Item :=
  if place.isEmpty then some .directory else t.items.lookup place

def set (t : Tree) (place : Place) (item : Item) : Tree :=
  { t with items := (place, item) :: t.items.filter fun e => e.1 ≠ place }

def maxNameLength : Nat := 255

def maxPathLength : Nat := 4095

def entry (t : Tree) (place : Place) (name : Bytes) : Except FileError Item :=
  if maxNameLength < name.length then .error .nameTooLong
  else
    match t.item? (place ++ [name]) with
    | some item => .ok item
    | none => .error .notFound

/-- What a path leads to: an item, an empty place in a directory, nothing, or a name before slashes
that is not the name of a directory. -/
inductive Target where
  | present (place : Place) (item : Item)
  | vacant (place : Place)
  | slashed (e : FileError)
  deriving DecidableEq, Repr

/-- What a path leads to whose remaining segments follow a name that does not lead on. -/
def halt (e : FileError) (rest : List Bytes) : Except FileError Target :=
  if !rest.isEmpty && rest.all List.isEmpty then .ok (.slashed e) else .error e

def follow (t : Tree) (place : Place) : List Bytes → Except FileError Target
  | [] => .ok (.present place .directory)
  | segment :: rest =>
    if Path.isIdle segment then follow t place rest
    else if segment = Path.dotDot then follow t place.dropLast rest
    else
      match t.entry place segment with
      | .ok .directory => follow t (place ++ [segment]) rest
      | .ok (.file content) =>
        if rest.isEmpty then .ok (.present (place ++ [segment]) (.file content))
        else halt .notDirectory rest
      | .error e =>
        if rest.isEmpty ∧ e = .notFound then .ok (.vacant (place ++ [segment])) else halt e rest

def locate (t : Tree) (p : Path) : Except FileError Target :=
  if 0 ∈ p then .error .nullCharacter
  else if maxPathLength < p.length then .error .nameTooLong
  else if Path.isAbsolute p then t.follow [] p.segments
  else if t.item? t.top = some .directory then t.follow t.top p.segments
  else .error .notFound

def read (t : Tree) (p : Path) : Except FileError Bytes := do
  match ← t.locate p with
  | .present _ (.file content) => return content
  | .present _ .directory => throw .isDirectory
  | .vacant _ => throw .notFound
  | .slashed e => throw e

/-- Changes the content of a file, which is created if there is none. A path with slashes at its end
cannot name the file. -/
def update (t : Tree) (p : Path) (change : Bytes → Bytes) : Except FileError Tree := do
  match ← t.locate p with
  | .present place (.file content) => return t.set place (.file (change content))
  | .vacant place => return t.set place (.file (change []))
  | .present _ .directory | .slashed _ => throw .isDirectory

def write (t : Tree) (p : Path) (content : Bytes) : Except FileError Tree :=
  t.update p fun _ => content

/-- Whether a place lies below another or is the same. -/
def isBelow (top place : Place) : Bool := top.isPrefixOf place

def clear (t : Tree) (place : Place) : Tree :=
  { t with items := t.items.filter fun e => e.1 = place || !isBelow place e.1 }

def erase (t : Tree) (place : Place) : Tree :=
  { t with items := t.items.filter fun e => e.1 ≠ place }

/-- Removes a directory with everything in it, and tells whether there was anything at the path. The
directory is cleared first and removed then, so it stays where it is, without what was in it, if the
path went through what has been cleared away or ends in the current directory. -/
def removeAll (t : Tree) (p : Path) : Except FileError Bool × Tree :=
  match t.locate p with
  | .ok (.present _ (.file _)) => (.error .notDirectory, t)
  | .ok (.present place .directory) =>
    let cleared := t.clear place
    match cleared.locate p with
    | .error _ => (.ok true, cleared)
    | .ok _ =>
      if Path.endsInDot p then (.error .invalidInput, cleared) else (.ok true, cleared.erase place)
  | _ => (.ok false, t)

def sizeOf (t : Tree) (p : Path) : Except FileError Nat := do
  match ← t.locate p with
  | .present _ (.file content) => return content.length
  | .present place .directory =>
    return t.items.foldl (fun n item => match item with
      | (other, .file content) => if isBelow place other then n + content.length else n
      | (_, .directory) => n) 0
  | .vacant _ => throw .notFound
  | .slashed e => throw e

def files (t : Tree) : List (Path × Bytes) :=
  let found := t.items.filterMap fun
    | (place, .file content) =>
      if isBelow t.top place then some (Path.ofSegments (place.drop t.top.length), content)
      else none
    | (_, .directory) => none
  found.mergeSort fun a b => a.1 ≤ b.1

def makeParents (t : Tree) (place : Place) : Tree :=
  (List.range place.length).foldl (fun t n =>
    if (t.item? (place.take n)).isSome then t else t.set (place.take n) .directory) t

def addDirectory (t : Tree) (place : Place) : Tree :=
  let place := t.top ++ place
  if (t.item? place).isSome then t else (t.makeParents place).set place .directory

def addFile (t : Tree) (place : Place) (content : Bytes) : Tree :=
  let place := t.top ++ place
  (t.makeParents place).set place (.file content)

end Tree

end TrieJournal
