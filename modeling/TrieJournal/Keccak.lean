import TrieJournal.Bytes

/-!
# Keccak-256

The sponge over the permutation of 25 lanes of 64 bits, with a rate of 136 bytes, the padding byte
`0x01` and a digest of 32 bytes. Lane `x + 5 * y` stands in column `x` and row `y`.
-/

namespace TrieJournal.Keccak

/-- The lanes, row by row. -/
abbrev State := Vector UInt64 25

/-- The lane in column `x` and row `y`, both counted modulo five. -/
def State.lane (s : State) (x y : Nat) : UInt64 :=
  s.get ⟨x % 5 + 5 * (y % 5), by omega⟩

def State.ofLanes (f : Nat → Nat → UInt64) : State :=
  Vector.ofFn fun i => f (i.val % 5) (i.val / 5)

def rotate (lane : UInt64) (n : Nat) : UInt64 :=
  if n = 0 then lane else lane <<< UInt64.ofNat n ||| lane >>> UInt64.ofNat (64 - n)

/-- By how many places the lane in column `x` and row `y` is rotated, in the order of the lanes. -/
def offsets : Vector Nat 25 :=
  #v[0, 1, 62, 28, 27, 36, 44, 6, 55, 20, 3, 10, 43, 25, 39, 41, 45, 15, 21, 8, 18, 2, 61, 56, 14]

def roundConstants : List UInt64 :=
  [0x0000000000000001, 0x0000000000008082, 0x800000000000808A, 0x8000000080008000,
    0x000000000000808B, 0x0000000080000001, 0x8000000080008081, 0x8000000000008009,
    0x000000000000008A, 0x0000000000000088, 0x0000000080008009, 0x000000008000000A,
    0x000000008000808B, 0x800000000000008B, 0x8000000000008089, 0x8000000000008003,
    0x8000000000008002, 0x8000000000000080, 0x000000000000800A, 0x800000008000000A,
    0x8000000080008081, 0x8000000000008080, 0x0000000080000001, 0x8000000080008008]

def theta (s : State) : State :=
  let parity : Vector UInt64 5 := Vector.ofFn fun x =>
    s.lane x.val 0 ^^^ s.lane x.val 1 ^^^ s.lane x.val 2 ^^^ s.lane x.val 3 ^^^ s.lane x.val 4
  State.ofLanes fun x y =>
    s.lane x y ^^^ parity.get ⟨(x + 4) % 5, by omega⟩ ^^^
      rotate (parity.get ⟨(x + 1) % 5, by omega⟩) 1

def rhoPi (s : State) : State :=
  State.ofLanes fun x y =>
    let column := (x + 3 * y) % 5
    rotate (s.lane column x) (offsets.get ⟨column + 5 * (x % 5), by omega⟩)

/-- Combines each lane with the two to its right. -/
def chi (s : State) : State :=
  State.ofLanes fun x y => s.lane x y ^^^ (~~~s.lane (x + 1) y &&& s.lane (x + 2) y)

def round (s : State) (constant : UInt64) : State :=
  let t := chi (rhoPi (theta s))
  t.set 0 (t.lane 0 0 ^^^ constant)

def permute (s : State) : State := roundConstants.foldl round s

/-- The lane read from the first eight bytes, the least significant first. -/
def laneOfBytes (b : Bytes) : UInt64 :=
  (b.take 8).foldr (fun byte lane => lane <<< 8 ||| byte.toUInt64) 0

def bytesOfLane (lane : UInt64) : Bytes :=
  (List.range 8).map fun i => (lane >>> UInt64.ofNat (8 * i)).toUInt8

/-- The number of bytes absorbed at a time. -/
def rate : Nat := 136

/-- The message with its padding, a whole number of blocks. -/
def pad (message : Bytes) : Bytes :=
  let room := rate - message.length % rate
  if room = 1 then message ++ [0x81]
  else message ++ 0x01 :: List.replicate (room - 2) 0 ++ [0x80]

def absorb (s : State) (block : Bytes) : State :=
  permute <| State.ofLanes fun x y =>
    let i := x + 5 * y
    if i < rate / 8 then s.lane x y ^^^ laneOfBytes (block.drop (8 * i)) else s.lane x y

def absorbBlocks : Nat → State → Bytes → State
  | 0, s, _ => s
  | n + 1, s, blocks => absorbBlocks n (absorb s (blocks.take rate)) (blocks.drop rate)

def digest (message : Bytes) : Bytes :=
  let padded := pad message
  let s := absorbBlocks (padded.length / rate) (Vector.replicate 25 0) padded
  (List.range 4).flatMap fun x => bytesOfLane (s.lane x 0)

end TrieJournal.Keccak
