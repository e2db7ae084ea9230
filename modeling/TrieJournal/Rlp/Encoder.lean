import TrieJournal.Rlp.Item

/-!
# Writing RLP items

Byte strings and lists behind the shortest header that tells their length. A byte below `0x80` is
its own encoding, and a number is written as its shortest byte string.
-/

namespace TrieJournal.Rlp

/-- The header of a payload of `n` bytes, where `base` is the header of an empty payload. -/
def encodeHeader (base : Nat) (n : Nat) : Bytes :=
  if n ≤ 55 then [UInt8.ofNat (base + n)]
  else UInt8.ofNat (base + 55 + (Bytes.ofNat n).length) :: Bytes.ofNat n

def encodeBytes (b : Bytes) : Bytes :=
  match b with
  | [byte] => if byte < 0x80 then [byte] else encodeHeader 0x80 1 ++ [byte]
  | b => encodeHeader 0x80 b.length ++ b

def encodeNat (n : Nat) : Bytes := encodeBytes (Bytes.ofNat n)

/-- The encoding of a list whose items are encoded already. -/
def encodeList (items : List Bytes) : Bytes :=
  encodeHeader 0xC0 items.flatten.length ++ items.flatten

end TrieJournal.Rlp
