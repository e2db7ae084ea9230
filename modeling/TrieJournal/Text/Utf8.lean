import TrieJournal.Bytes

/-!
# UTF-8

`decode?` accepts well-formed byte strings only. `pieces` reads any byte string: it is cut into
characters and ill-formed parts, each part as long as it could still begin a character. `lossy`
shows one replacement character for each such part.
-/

namespace TrieJournal.Utf8

def encode (s : String) : Bytes := s.toList.flatMap String.utf8EncodeChar

def decode? (b : Bytes) : Option String := String.fromUTF8? b.toByteArray

/-- What the bytes after a leading byte have to be: their least and greatest values, and the bits
that the leading byte contributes. `none` if no character starts with the byte. -/
def tail? (lead : UInt8) : Option (List (UInt8 × UInt8) × Nat) :=
  if lead < 0x80 then some ([], lead.toNat)
  else if lead < 0xC2 then none
  else if lead < 0xE0 then some ([(0x80, 0xBF)], lead.toNat - 0xC0)
  else if lead = 0xE0 then some ([(0xA0, 0xBF), (0x80, 0xBF)], 0)
  else if lead = 0xED then some ([(0x80, 0x9F), (0x80, 0xBF)], 0xD)
  else if lead < 0xF0 then some ([(0x80, 0xBF), (0x80, 0xBF)], lead.toNat - 0xE0)
  else if lead = 0xF0 then some ([(0x90, 0xBF), (0x80, 0xBF), (0x80, 0xBF)], 0)
  else if lead < 0xF4 then
    some ([(0x80, 0xBF), (0x80, 0xBF), (0x80, 0xBF)], lead.toNat - 0xF0)
  else if lead = 0xF4 then some ([(0x80, 0x8F), (0x80, 0xBF), (0x80, 0xBF)], 4)
  else none

/-- How many of the bytes at the front fit the ranges, one by one. -/
def fitting : List (UInt8 × UInt8) → Bytes → Nat
  | (lo, hi) :: ranges, byte :: rest =>
    if lo ≤ byte ∧ byte ≤ hi then fitting ranges rest + 1 else 0
  | _, _ => 0

inductive Piece where
  | char (c : Char)
  | illFormed (part : Bytes)
  deriving DecidableEq, Repr

/-- The piece at the front of `lead :: rest`, and how many bytes of `rest` belong to it. -/
def firstPiece (lead : UInt8) (rest : Bytes) : Piece × Nat :=
  match tail? lead with
  | none => (.illFormed [lead], 0)
  | some (ranges, bits) =>
    let n := fitting ranges rest
    if n = ranges.length then
      (.char (Char.ofNat ((rest.take n).foldl (fun v byte => 64 * v + byte.toNat % 64) bits)), n)
    else (.illFormed (lead :: rest.take n), n)

def pieces (b : Bytes) : List Piece :=
  go [] b
where
  /-- Puts the pieces of the bytes behind `done`, which holds the latest first. -/
  go (done : List Piece) : Bytes → List Piece
    | [] => done.reverse
    | lead :: rest => go ((firstPiece lead rest).1 :: done) (rest.drop (firstPiece lead rest).2)
  termination_by b => b.length
  decreasing_by simp only [List.length_drop, List.length_cons]; omega

/-- The text of a byte string, with one replacement character for each ill-formed part. -/
def lossy (b : Bytes) : String :=
  String.ofList <| (pieces b).map fun
    | .char c => c
    | .illFormed _ => '\uFFFD'

end TrieJournal.Utf8
