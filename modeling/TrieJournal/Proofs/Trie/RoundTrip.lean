import TrieJournal.Proofs.Text.Codec
import TrieJournal.Proofs.Trie.Shape

/-!
# Nodes that read back

A nibble is read back from the byte it is stored as, and a compact path is read back with its flags,
whether its number of nibbles is even or odd. A leaf or an extension made of a compact path and a
byte string is read back as such.
-/

namespace TrieJournal

/-! ### Nibbles -/

namespace Nibble

def toByte (n : Nibble) : UInt8 := UInt8.ofNat n.val

theorem ofByte?_toByte (n : Nibble) : ofByte? n.toByte = some n := by
  have bound := n.isLt
  have value : n.toByte.toNat = n.val := by
    rw [toByte, UInt8.toNat_ofNat']
    omega
  rw [ofByte?, dif_pos (by omega)]
  exact congrArg some (Fin.ext value)

end Nibble

/-! ### Compact paths -/

namespace CompactPath

theorem flags_val (leaf odd : Bool) :
    (flags leaf odd).val % 2 = (if odd then 1 else 0) ∧
      (flags leaf odd).val / 2 % 2 = (if leaf then 1 else 0) := by
  cases leaf <;> cases odd <;> decide

theorem decode?_flags (leaf odd : Bool) (n : Nibble) (rest : Bytes) :
    decode? (Nibble.pack (flags leaf odd) n :: rest) =
      some ⟨(if odd then [n] else []) ++ Nibble.ofBytes rest, leaf⟩ := by
  obtain ⟨parity, kind⟩ := flags_val leaf odd
  simp only [decode?, Nibble.high_pack, Nibble.low_pack, parity, kind]
  cases leaf <;> cases odd <;> rfl

theorem decode?_encode (p : CompactPath) : decode? p.encode = some p := by
  obtain ⟨nibbles, leaf⟩ := p
  unfold encode
  split
  · rename_i empty
    rw [decode?_flags, show nibbles = [] from empty]
    rfl
  · rename_i n rest split
    rw [show nibbles = n :: rest from split]
    split
    · rename_i even
      rw [decode?_flags, Nibble.ofBytes_toBytes even]
      rfl
    · rename_i odd
      rw [decode?_flags, Nibble.ofBytes_toBytes (by rw [List.length_cons]; omega)]
      rfl

theorem length_encode (p : CompactPath) : p.encode.length = p.nibbles.length / 2 + 1 := by
  unfold encode
  split
  · rename_i empty
    rw [empty]
    rfl
  · rename_i n rest split
    rw [split]
    split
    · rw [List.length_cons, Nibble.length_toBytes, List.length_cons]
      omega
    · rw [List.length_cons, Nibble.length_toBytes]

end CompactPath

/-! ### Nodes -/

namespace Node

section

variable {path : CompactPath} {value : Bytes} (pathFits : path.encode.length < Bytes.capacity 8)
  (valueFits : value.length < Bytes.capacity 8)

include pathFits valueFits

theorem short_encodeBytes : short (Rlp.encodeBytes path.encode) (Rlp.encodeBytes value) =
    .ok (if path.leaf then .leaf path.nibbles value else .extension path.nibbles) := by
  have compact := CompactPath.decode?_encode path
  simp only [short, Rlp.isByteString_encodeBytes pathFits, if_true,
    Rlp.payload_encodeBytes pathFits, mapError_ok, bind, Except.bind, compact]
  obtain ⟨nibbles, leaf⟩ := path
  cases leaf with
  | false => rfl
  | true =>
    simp only [Rlp.payload_encodeBytes valueFits, mapError_ok]
    rfl

/-- A node of two items is read back from its compact path and its byte string. -/
theorem decode_encodeShort
    (fits : [Rlp.encodeBytes path.encode, Rlp.encodeBytes value].flatten.length <
      Bytes.capacity 8) : decode (encodeShort path value) =
    .ok (if path.leaf then .leaf path.nibbles value else .extension path.nibbles) := by
  have items : ∀ item ∈ [Rlp.encodeBytes path.encode, Rlp.encodeBytes value], Rlp.Whole item := by
    simpa only [List.forall_mem_cons] using
      ⟨Rlp.whole_encodeBytes pathFits, Rlp.whole_encodeBytes valueFits, by simp⟩
  have read := decode_framed (Rlp.framed_encodeList fits) (Rlp.isList_encodeList fits)
  rw [Rlp.items_flatten items] at read
  exact read.trans (short_encodeBytes pathFits valueFits)

end

end Node

end TrieJournal
