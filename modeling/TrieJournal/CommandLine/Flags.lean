import TrieJournal.Text.Utf8

/-!
# Long flags behind one dash

A long flag may be written with one dash, as in `-name value` and `-name=value`. Before arguments
are read, such flags get their second dash. Only flags whose names are listed are touched, and
nothing after the argument `--`.
-/

namespace TrieJournal.Flags

def dash : UInt8 := 0x2D

def equals : UInt8 := 0x3D

/-- The argument after which nothing is a flag. -/
def terminator : Bytes := [dash, dash]

def nameOf (flag : Bytes) : Bytes := flag.takeWhile (· ≠ equals)

/-- What the dashes before an argument make of it. A dash alone is plain. -/
inductive Dashes where
  | long (text : Bytes)
  | short (letter : UInt8)
  | plain
  deriving DecidableEq, Repr

def dashes (arg : Bytes) : Dashes :=
  match arg with
  | first :: second :: rest =>
    if first ≠ dash then .plain else if second = dash then .long rest else .short second
  | _ => .plain

/-- Adds a dash to a listed flag with one dash. Arguments that are not text stay as they are. -/
def doubleDash (names : List Bytes) (arg : Bytes) : Bytes :=
  match arg with
  | [] => []
  | first :: rest =>
    if first = dash ∧ rest.head? ≠ some dash ∧ nameOf rest ∈ names ∧ (Utf8.decode? arg).isSome then
      dash :: arg
    else arg

def normalize (names : List Bytes) : List Bytes → List Bytes
  | [] => []
  | arg :: rest =>
    if arg = terminator then arg :: rest else doubleDash names arg :: normalize names rest

end TrieJournal.Flags
