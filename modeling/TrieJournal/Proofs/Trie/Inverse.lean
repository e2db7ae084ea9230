import TrieJournal.Proofs.Rlp.Terms
import TrieJournal.Proofs.Trie.RoundTrip

/-!
# Nodes from their encodings and back

A node is read back from the list that it is encoded as, whatever its path, its payload and its
children are. The other way round, a compact path is written back as it was read but for the bits
that have no meaning: two of the flags, and the padding of a path of even length.
-/

namespace TrieJournal

/-! ### Compact paths that are written back -/

namespace CompactPath

theorem encode_even {p : CompactPath} (even : p.nibbles.length % 2 = 0) :
    p.encode = Nibble.pack (flags p.leaf false) 0 :: Nibble.toBytes p.nibbles := by
  unfold encode
  split
  · rename_i empty
    rw [empty]
    rfl
  · rename_i n rest split
    rw [split, List.length_cons] at even
    rw [if_neg (by omega), split]

theorem encode_odd {n : Nibble} {rest : List Nibble} (leaf : Bool) (even : rest.length % 2 = 0) :
    encode ⟨n :: rest, leaf⟩ = Nibble.pack (flags leaf true) n :: Nibble.toBytes rest :=
  if_pos even

/-- The flags of a first byte, and the byte that they are written back as. -/
theorem pack_flags (first : UInt8) :
    let odd := (Nibble.high first).val % 2 = 1
    let leaf := (Nibble.high first).val / 2 % 2 = 1
    (odd ↔ first &&& 0x10 ≠ 0) ∧ (leaf ↔ first &&& 0x20 ≠ 0) ∧
      Nibble.pack (flags leaf odd) (if odd then Nibble.low first else 0) =
        first &&& if odd then 0x3F else 0x30 := by
  -- All 256 bytes are tried.
  have all : ∀ n : Fin 256,
      let first := UInt8.ofNat n.val
      let odd := (Nibble.high first).val % 2 = 1
      let leaf := (Nibble.high first).val / 2 % 2 = 1
      (odd ↔ first &&& 0x10 ≠ 0) ∧ (leaf ↔ first &&& 0x20 ≠ 0) ∧
        Nibble.pack (flags leaf odd) (if odd then Nibble.low first else 0) =
          first &&& if odd then 0x3F else 0x30 := by
    decide +kernel
  have here := all ⟨first.toNat, first.toNat_lt⟩
  rwa [UInt8.ofNat_toNat] at here

/-- A compact path is written back with the same bits, those without a meaning cleared. -/
theorem encode_of_decode? (first : UInt8) (rest : Bytes) :
    ∃ p, decode? (first :: rest) = some p ∧ (p.leaf = true ↔ first &&& 0x20 ≠ 0) ∧
      (p.nibbles.length % 2 = 1 ↔ first &&& 0x10 ≠ 0) ∧
      p.encode = (first &&& if p.nibbles.length % 2 = 0 then 0x30 else 0x3F) :: rest := by
  obtain ⟨parity, kind, bits⟩ := pack_flags first
  have pairs := Nibble.length_ofBytes rest
  have packed := Nibble.toBytes_ofBytes rest
  by_cases odd : (Nibble.high first).val % 2 = 1
  · have length : (Nibble.low first :: Nibble.ofBytes rest).length % 2 = 1 := by
      rw [List.length_cons, pairs]
      omega
    refine ⟨⟨Nibble.low first :: Nibble.ofBytes rest, (Nibble.high first).val / 2 % 2 = 1⟩, ?_, ?_,
      ?_, ?_⟩
    · rw [decode?, if_pos odd]
      rfl
    · rw [decide_eq_true_iff, kind]
    · exact ⟨fun _ => parity.mp odd, fun _ => length⟩
    · rw [encode_odd _ (by omega), packed, length]
      simp only [odd, if_true, decide_true] at bits
      rw [bits]
      rfl
  · have length : (Nibble.ofBytes rest).length % 2 = 0 := by omega
    refine ⟨⟨Nibble.ofBytes rest, (Nibble.high first).val / 2 % 2 = 1⟩, ?_, ?_, ?_, ?_⟩
    · rw [decode?, if_neg odd]
      rfl
    · rw [decide_eq_true_iff, kind]
    · rw [length, ← parity]
      exact ⟨fun none => absurd none (by decide), fun set => absurd set odd⟩
    · rw [encode_even length, packed, length]
      simp only [odd, if_false, decide_false] at bits
      rw [bits]
      rfl

end CompactPath

/-! ### Nodes that are read back -/

namespace Node

theorem ofItems_of_length {items : List Bytes} (many : items.length = branchItems) :
    ofItems items = .ok branch := by
  unfold ofItems
  split
  · cases many
  · rw [if_pos many]

theorem decode_short {path : CompactPath} {value : Bytes}
    (fits : (encodeShort path value).length < Bytes.capacity 8) :
    decode (encodeShort path value) =
      .ok (if path.leaf then .leaf path.nibbles value else .extension path.nibbles) := by
  have payload := Rlp.length_le_encodeList [Rlp.encodeBytes path.encode, Rlp.encodeBytes value]
  have pathItem := Rlp.length_le_encodeBytes path.encode
  have valueItem := Rlp.length_le_encodeBytes value
  unfold encodeShort at fits
  have fields : [Rlp.encodeBytes path.encode, Rlp.encodeBytes value].flatten.length =
      (Rlp.encodeBytes path.encode).length + (Rlp.encodeBytes value).length := by simp
  exact decode_encodeShort (by omega) (by omega) (by omega)

theorem decode_branch {terms : List Rlp.Term} (many : terms.length = branchItems)
    (fits : (Rlp.Term.list terms).encode.length < Bytes.capacity 8) :
    decode (Rlp.Term.list terms).encode = .ok branch := by
  rw [Rlp.Term.encode] at fits ⊢
  have payload := Rlp.length_le_encodeList (Rlp.Term.encodeAll terms)
  -- A child is no longer than the list, so its size needs no bound of its own.
  have whole : ∀ item ∈ Rlp.Term.encodeAll terms, Rlp.Whole item := by
    intro item mem
    have within := Rlp.length_le_flatten mem
    rw [Rlp.Term.encodeAll_eq_map] at mem
    obtain ⟨t, -, rfl⟩ := List.mem_map.mp mem
    exact (t.isItem_encode (by omega)).whole
  have payloadFits : (Rlp.Term.encodeAll terms).flatten.length < Bytes.capacity 8 := by omega
  rw [Rlp.encodeList, decode_framed (Rlp.framed_encodeList payloadFits)
    (Rlp.isList_encodeList payloadFits), Rlp.items_flatten whole]
  apply ofItems_of_length
  rw [Rlp.Term.encodeAll_eq_map, List.length_map, many]

/-- A leaf or an extension is read back from its compact path and a byte string, and a branch from
any seventeen terms. A compact path of one byte or more is written back with the bits that have a
meaning. -/
theorem decode_inverse :
    (∀ (nibbles : List Nibble) (leaf : Bool) (value : Bytes),
      (encodeShort ⟨nibbles, leaf⟩ value).length < Bytes.capacity 8 →
      decode (encodeShort ⟨nibbles, leaf⟩ value) =
        .ok (if leaf then .leaf nibbles value else .extension nibbles)) ∧
    (∀ terms : List Rlp.Term, terms.length = 17 →
      (Rlp.Term.list terms).encode.length < Bytes.capacity 8 →
      decode (Rlp.Term.list terms).encode = .ok .branch) ∧
    ∀ (first : UInt8) (rest : Bytes), ∃ path, CompactPath.decode? (first :: rest) = some path ∧
      (∀ n ∈ path.nibbles, n.val < 16) ∧ (path.leaf = true ↔ first &&& 0x20 ≠ 0) ∧
      (path.nibbles.length % 2 = 1 ↔ first &&& 0x10 ≠ 0) ∧
      path.encode =
        (first &&& if path.nibbles.length % 2 = 0 then 0x30 else 0x3F) :: rest := by
  refine ⟨fun nibbles leaf value fits => decode_short fits,
    fun terms many fits => decode_branch many fits, fun first rest => ?_⟩
  obtain ⟨path, read, kind, parity, written⟩ := CompactPath.encode_of_decode? first rest
  exact ⟨path, read, fun n _ => n.isLt, kind, parity, written⟩

/-- A path of 111 nibbles fills 56 bytes, the fewest that need a header of two bytes; a child of a
branch is a list in a list; and the unused bits of `0xE7` and `0xF7` are cleared. -/
theorem decode_inverse_boundary :
    let path := List.replicate 111 (7 : Nibble)
    let terms := Rlp.Term.list [.list [], .bytes []] :: List.replicate 16 (.bytes [0x80])
    decode (encodeShort ⟨path, true⟩ []) = .ok (.leaf path []) ∧
      decode (encodeShort ⟨path, false⟩ [0x7F]) = .ok (.extension path) ∧
      decode (Rlp.Term.list terms).encode = .ok .branch ∧
      (∃ p, CompactPath.decode? [0xE7, 0x12] = some p ∧ p.encode = [0x20, 0x12]) ∧
      ∃ p, CompactPath.decode? [0xF7, 0x12] = some p ∧ p.encode = [0x37, 0x12] := by
  intro path terms
  obtain ⟨short, branches, compact⟩ := decode_inverse
  refine ⟨short path true [] (by decide +kernel), short path false [0x7F] (by decide +kernel),
    branches terms rfl (by decide +kernel), ?_, ?_⟩
  · obtain ⟨p, read, -, -, -, written⟩ := compact 0xE7 [0x12]
    obtain rfl : (⟨[1, 2], true⟩ : CompactPath) = p := Option.some.inj (Eq.trans (by decide) read)
    exact ⟨_, read, written⟩
  · obtain ⟨p, read, -, -, -, written⟩ := compact 0xF7 [0x12]
    obtain rfl : (⟨[7, 1, 2], true⟩ : CompactPath) = p :=
      Option.some.inj (Eq.trans (by decide) read)
    exact ⟨_, read, written⟩

end Node

end TrieJournal
