import TrieJournal.Nibble

/-!
# Compact paths

The hex-prefix form of a trie path: the high nibble of the first byte holds the flags. Bit 0 marks
an odd number of nibbles, the first of which is then the low nibble of that byte; bit 1 marks the
path of a leaf. The other two bits, and the low nibble before an even path, are ignored.
-/

namespace TrieJournal

/-- A trie path and whether it ends in a leaf. -/
structure CompactPath where
  nibbles : List Nibble
  leaf : Bool
  deriving DecidableEq, Repr

namespace CompactPath

/-- Reads the hex-prefix form, which has at least one byte. -/
def decode? : Bytes → Option CompactPath
  | [] => none
  | first :: rest =>
    let flags := (Nibble.high first).val
    let odd := if flags % 2 = 1 then [Nibble.low first] else []
    some ⟨odd ++ Nibble.ofBytes rest, flags / 2 % 2 = 1⟩

def flags (leaf odd : Bool) : Nibble :=
  match leaf, odd with
  | false, false => 0
  | false, true => 1
  | true, false => 2
  | true, true => 3

def encode (p : CompactPath) : Bytes :=
  match p.nibbles with
  | [] => [Nibble.pack (flags p.leaf false) 0]
  | n :: rest =>
    if rest.length % 2 = 0 then Nibble.pack (flags p.leaf true) n :: Nibble.toBytes rest
    else Nibble.pack (flags p.leaf false) 0 :: Nibble.toBytes (n :: rest)

end CompactPath

end TrieJournal
