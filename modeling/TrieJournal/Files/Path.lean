import TrieJournal.Text.Quoted

/-!
# File paths

A path is a byte string whose segments are separated by slashes. Empty segments and single dots
lead nowhere, except that a leading slash names the root and a leading dot the current directory.
A path names a file if its last segment that leads somewhere is not the parent directory.
-/

namespace TrieJournal

abbrev Path := Bytes

namespace Path

def separator : UInt8 := 0x2F

def dot : Bytes := [0x2E]

def dotDot : Bytes := [0x2E, 0x2E]

def segments (p : Path) : List Bytes := splitOn separator p

/-- Whether a segment leads nowhere. -/
def isIdle (segment : Bytes) : Bool := segment.isEmpty || segment = dot

/-- Whether the path ends in the current directory, slashes behind it aside. -/
def endsInDot (p : Path) : Bool :=
  (dropRightWhile List.isEmpty p.segments).getLast? = some dot

def isAbsolute (p : Path) : Bool := p.head? = some separator

def ofSegments : List Bytes → Path
  | [[]] => [separator]
  | segments => [separator].intercalate segments

/-- The directory and the name of the file that a path names. The directory is the text before the
name without the idle segments at its end. -/
def split? (p : Path) : Option (Path × Bytes) :=
  match (dropRightWhile isIdle p.segments).reverse with
  | [] => none
  | name :: before =>
    if name = dotDot then none
    else
      match before.reverse with
      | [] => some ([], name)
      | first :: rest => some (ofSegments (first :: dropRightWhile isIdle rest), name)

/-- The path of a name in a directory. An absolute name stands for itself. -/
def join (directory : Path) (name : Bytes) : Path :=
  if isAbsolute name then name
  else if directory.isEmpty || directory.getLast? = some separator then directory ++ name
  else directory ++ separator :: name

/-- The path of a log that is derived from another: its name is `label`, an underscore and the name
of the other, and it lies in `directory?` or beside the other. -/
def derived? (log : Path) (label : Bytes) (directory? : Option Path) : Option Path :=
  (split? log).map fun (parent, name) => join (directory?.getD parent) (label ++ 0x5F :: name)

def unnamedMessage (p : Path) : String := s!"{Quoted.fileName p} does not name a file"

end Path

end TrieJournal
