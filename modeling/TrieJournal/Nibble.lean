import TrieJournal.Bytes

/-!
# Nibbles

Half bytes. Trie paths are lists of nibbles, and a byte is a pair of them, the high one first.
-/

namespace TrieJournal

abbrev Nibble := Fin 16

namespace Nibble

def high (byte : UInt8) : Nibble := ⟨byte.toNat / 16, by have := byte.toNat_lt; omega⟩

def low (byte : UInt8) : Nibble := ⟨byte.toNat % 16, by omega⟩

def pack (high low : Nibble) : UInt8 := UInt8.ofNat (16 * high.val + low.val)

/-- The nibble that a byte stands for on its own, if it is below 16. -/
def ofByte? (byte : UInt8) : Option Nibble :=
  if h : byte.toNat < 16 then some ⟨byte.toNat, h⟩ else none

/-- The nibbles of a byte string, two per byte. -/
def ofBytes (b : Bytes) : List Nibble := b.flatMap fun byte => [high byte, low byte]

/-- Packs nibbles in pairs. An odd one at the end is dropped. -/
def toBytes : List Nibble → Bytes
  | h :: l :: rest => pack h l :: toBytes rest
  | _ => []

def digit (n : Nibble) : Char := Nat.digitChar n.val

end Nibble

end TrieJournal
