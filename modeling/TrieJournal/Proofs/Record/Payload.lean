import TrieJournal.Proofs.Record.Refusal
import TrieJournal.Proofs.Trie.Inverse

/-!
# Payloads that hold an account

A leaf holds an account if its payload starts with the account, each of whose fields has one
encoding only. An account may stand in a payload that is not its encoding, though: the list may have
more items, or end too early, and other bytes may follow it.
-/

namespace TrieJournal.AccountLeaf

theorem holdsLeaf_encodeShort {kind : OpKind} {key payload : Bytes} {path : List Nibble}
    (fits : (Node.encodeShort ⟨path, true⟩ payload).length < Bytes.capacity 8) :
    (Record.ofPayload kind key (some (Node.encodeShort ⟨path, true⟩ payload))
      .accountTrie).HoldsLeaf path payload :=
  ⟨rfl, _, rfl, Node.decode_short fits⟩

/-- The payload that an account is read from starts with the header of a list and the fields of the
account, and is the encoding of the account if and only if the list ends with them and nothing
follows. A record that passes all other checks is refused for its payload if and only if there is no
such account; so it is for a number with a leading zero and for a hash of another length. -/
theorem payload_of_decode (r : Record) :
    (∀ leaf, decode r = .ok leaf →
      ∃ path payload n rest, r.HoldsLeaf path payload ∧ leaf.account.Within payload n rest ∧
        (payload = leaf.account.encode ↔
          n = leaf.account.fields.flatten.length ∧ rest = [])) ∧
    ∀ path payload, r.HoldsLeaf path payload → (∀ byte ∈ r.key.tail, byte < 16) →
      r.key.tail.length + path.length = 64 →
      ((∃ e, decode r = .error (.account e)) ↔
        ∀ (a : Account) (n : Nat) (rest : Bytes), ¬a.Within payload n rest) ∧
      ∀ (nonce balance root code rest : Bytes) (n : Nat), n < Bytes.capacity 8 →
        payload.length < Bytes.capacity 8 →
        payload = Rlp.encodeHeader 0xC0 n ++ (Rlp.encodeBytes nonce ++
          (Rlp.encodeBytes balance ++ (Rlp.encodeBytes root ++ (Rlp.encodeBytes code ++ rest)))) →
        nonce.head? = some 0 ∨ balance.head? = some 0 ∨ root.length ≠ 32 ∨ code.length ≠ 32 →
        ∃ e, decode r = .error (.account e) := by
  constructor
  · intro leaf decoded
    obtain ⟨path, payload, passed, -⟩ := stitched_of_decode decoded
    obtain ⟨n, rest, within⟩ := Account.decode_eq_ok.mp passed.read
    exact ⟨path, payload, n, rest, passed.leaf, within, within.eq_encode_iff⟩
  intro path payload leaf small length
  have refused : (∀ (a : Account) n rest, ¬a.Within payload n rest) →
      ∃ e, decode r = .error (.account e) := by
    intro none
    cases read : Account.decode payload with
    | error e => exact ⟨e, decode_of_refused (.account leaf small length read)⟩
    | ok a =>
      obtain ⟨n, rest, within⟩ := Account.decode_eq_ok.mp read
      exact absurd within (none a n rest)
  refine ⟨⟨?_, refused⟩, ?_⟩
  · rintro ⟨e, failed⟩ a n rest within
    have read := Account.decode_eq_ok.mpr ⟨n, rest, within⟩
    obtain ⟨hash, decoded, -⟩ := decode_of_stitched ⟨leaf, small, length, read⟩
    rw [failed] at decoded
    cases decoded
  · -- An account read from here has these strings for its fields, and it has none like them.
    intro nonce balance root code rest n wide fits same other
    refine refused fun a m behind within => ?_
    obtain ⟨rfl, rfl, rfl, rfl⟩ := within.fields_eq fits wide same
    rcases other with zero | zero | short | short
    · exact Bytes.head?_ofNat _ zero
    · exact Bytes.head?_ofNat _ zero
    · exact short a.storageRoot.property
    · exact short a.codeHash.property

/-- A list that ends after its first item still gives an account, and one whose nonce starts with a
zero gives none. -/
theorem payload_of_decode_torn :
    let hash : Digest := ⟨List.replicate 32 0x11, rfl⟩
    let account : Account := ⟨⟨1, by decide⟩, ⟨2, by decide⟩, hash, hash⟩
    let stored (payload : Bytes) := Record.ofPayload .put [0x41]
      (some (Node.encodeShort ⟨Nibble.ofBytes hash.val, true⟩ payload)) .accountTrie
    let torn := 0xC1 :: account.fields.flatten
    let zero := [0xC4, 0x82, 0x00, 0x01, 0x02] ++ account.fields.flatten.drop 2
    (∃ leaf, decode (stored torn) = .ok leaf ∧ leaf.account = account ∧
      ∃ path payload n rest, (stored torn).HoldsLeaf path payload ∧
        leaf.account.Within payload n rest) ∧
      ∃ e, decode (stored zero) = .error (.account e) := by
  intro hash account stored torn zero
  have tornLeaf : (stored torn).HoldsLeaf _ torn := holdsLeaf_encodeShort (by decide +kernel)
  have zeroLeaf : (stored zero).HoldsLeaf _ zero := holdsLeaf_encodeShort (by decide +kernel)
  have within : account.Within torn 1 [] :=
    ⟨by decide +kernel, by decide +kernel, by decide +kernel, by decide⟩
  constructor
  · obtain ⟨found, decoded, -⟩ := decode_of_stitched (r := stored torn)
      ⟨tornLeaf, by decide +kernel, by decide +kernel, Account.decode_eq_ok.mpr ⟨_, _, within⟩⟩
    obtain ⟨path, payload, n, rest, held, start, -⟩ := (payload_of_decode _).1 _ decoded
    exact ⟨_, decoded, rfl, path, payload, n, rest, held, start⟩
  · exact ((payload_of_decode _).2 _ _ zeroLeaf (by decide +kernel) (by decide +kernel)).2
      [0, 1] [2] hash.val hash.val [] 4 (by decide) (by decide +kernel) (by decide +kernel)
      (Or.inl rfl)

/-- An account is read from a list of five items, from a list with a byte behind it and from a list
that ends after its first item. None of the three is the encoding of the account. -/
theorem surplus_unnoticed :
    let root : Digest := ⟨List.replicate 32 0x11, rfl⟩
    let code : Digest := ⟨List.replicate 32 0x22, rfl⟩
    let account : Account := ⟨⟨1, by decide⟩, ⟨2, by decide⟩, root, code⟩
    let stored (payload : Bytes) := Record.ofPayload .put [0x41]
      (some (Node.encodeShort ⟨Nibble.ofBytes (List.replicate 32 0x33), true⟩ payload)) .accountTrie
    let five := Rlp.encodeList (account.fields ++ [[0xC0]])
    let followed := account.encode ++ [0xFF]
    let torn := 0xC1 :: account.fields.flatten
    ∀ payload ∈ [five, followed, torn], payload ≠ account.encode ∧
      ∃ hash, decode (stored payload) = .ok ⟨hash, account⟩ := by
  intro root code account stored five followed torn
  have spelled {payload : Bytes} {n : Nat} {rest : Bytes} (within : account.Within payload n rest)
      (fits : (Node.encodeShort ⟨Nibble.ofBytes (List.replicate 32 0x33), true⟩ payload).length <
        Bytes.capacity 8) : ∃ hash, decode (stored payload) = .ok ⟨hash, account⟩ := by
    obtain ⟨hash, decoded, -⟩ := decode_of_stitched (r := stored payload)
      ⟨holdsLeaf_encodeShort fits, by simp [stored, Record.ofPayload], rfl,
        Account.decode_eq_ok.mpr ⟨n, rest, within⟩⟩
    exact ⟨hash, decoded⟩
  have fiveWithin : account.Within five 69 [0xC0] :=
    ⟨by decide +kernel, by decide +kernel, by decide +kernel, by decide⟩
  have followedWithin : account.Within followed 68 [0xFF] :=
    ⟨by decide +kernel, by decide +kernel, by decide +kernel, by decide⟩
  have tornWithin : account.Within torn 1 [] :=
    ⟨by decide +kernel, by decide +kernel, by decide +kernel, by decide⟩
  intro payload mem
  simp only [List.mem_cons, List.not_mem_nil, or_false] at mem
  rcases mem with rfl | rfl | rfl
  · exact ⟨by decide +kernel, spelled fiveWithin (by decide +kernel)⟩
  · exact ⟨by decide +kernel, spelled followedWithin (by decide +kernel)⟩
  · exact ⟨by decide +kernel, spelled tornWithin (by decide +kernel)⟩

end TrieJournal.AccountLeaf
