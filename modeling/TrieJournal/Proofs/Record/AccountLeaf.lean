import TrieJournal.Proofs.Log.Lines
import TrieJournal.Proofs.Trie.Account
import TrieJournal.Record.Leaves

/-!
# Account leaves that are recovered

The path of an account is cut in two: the front stands in the key, one nibble per byte, and the
rest in the leaf, in compact form. Wherever the path is cut, a read or a write of the leaf is
classified, comes back from a log as it was, and gives the whole hash and the account.
-/

namespace TrieJournal

namespace Log

theorem decodeRows_append (a b : List Row) :
    decodeRows (a ++ b) = decodeRows a ++ decodeRows b := by
  simp only [decodeRows, List.filterMap_append]

/-- A record that is read back as it is stands where it was written, whatever the others are. -/
theorem records_render_append {r : Record} (classified : r.keyspace.isClassified = true)
    (same : r.asRead = r) (before after : List Record) :
    Log.records (render (before ++ r :: after)) =
      Log.records (render before) ++ r :: Log.records (render after) := by
  have here : decodeRows (Row.ofRecord r :: after.map Row.ofRecord) =
      r :: decodeRows (after.map Row.ofRecord) := by
    rw [decodeRows, List.filterMap_cons, Row.decode_ofRecord classified, same]
    rfl
  simp only [Log.records, rows_render, List.map_append, List.map_cons, decodeRows_append, here]

end Log

namespace AccountLeaf

/-- The key of the node that a path leads to. -/
def keyAt (path : List Nibble) : Bytes := 0x41 :: path.map Nibble.toByte

/-- The node that holds an account below the rest of its path. -/
def encode (rest : List Nibble) (account : Account) : Bytes :=
  Node.encodeShort ⟨rest, true⟩ account.encode

theorem keyPath_toByte (path : List Nibble) : keyPath (path.map Nibble.toByte) = .ok path := by
  induction path with
  | nil => rfl
  | cons n path ih =>
    simp only [List.map_cons, keyPath, Nibble.ofByte?_toByte, ih]
    rfl

theorem hashOfPath_ofBytes (hash : Digest) : hashOfPath (Nibble.ofBytes hash.val) = .ok hash := by
  have packed := Nibble.toBytes_ofBytes hash.val
  have length : (Nibble.ofBytes hash.val).length = 64 := by
    rw [Nibble.length_ofBytes, hash.property]
  rw [hashOfPath, if_pos length, dif_pos (by rw [packed, hash.property])]
  simp only [packed]

theorem classify_keyAt {path : List Nibble} (short : path.length ≤ 63) (value : Option Bytes) :
    Keyspace.classify (keyAt path) value = .accountTrie := by
  have admitted : Keyspace.isAccountTrieKey (keyAt path) = true := by
    simp only [Keyspace.isAccountTrieKey, keyAt, List.head?_cons, List.length_cons, List.length_map,
      Keyspace.pathLimit, Keyspace.hashLength, Bool.and_eq_true, decide_eq_true_eq, true_and]
    omega
  simp only [Keyspace.classify, Keyspace.classifyBy, Keyspace.rules, List.find?_cons, admitted]
  rfl

variable {rest : List Nibble} (account : Account)

theorem decode_encode (short : rest.length ≤ 64) :
    Node.decode (encode rest account) = .ok (.leaf rest account.encode) := by
  have path : (CompactPath.encode ⟨rest, true⟩).length = rest.length / 2 + 1 :=
    CompactPath.length_encode _
  have value := account.length_encode_le
  have wide : 1000 < Bytes.capacity 8 := by decide
  have pathFits : (CompactPath.encode ⟨rest, true⟩).length < Bytes.capacity 8 := by
    rw [path]
    omega
  have valueFits : account.encode.length < Bytes.capacity 8 := by omega
  have pathItem := Rlp.length_encodeBytes_le pathFits
  have valueItem := Rlp.length_encodeBytes_le valueFits
  refine Node.decode_encodeShort pathFits valueFits ?_
  simp only [List.flatten_cons, List.flatten_nil, List.append_nil, List.length_append]
  omega

theorem encode_ne_nil : encode rest account ≠ [] := by
  intro empty
  have header := congrArg List.length empty
  simp only [encode, Node.encodeShort, Rlp.encodeList, Rlp.encodeHeader, List.length_append]
    at header
  split at header <;> simp at header

/-- The record of a read or a write of a leaf is found among the records of any log that it is
written to, and the hash and the account are those that the leaf was made of. -/
theorem decode_recorded {kind : OpKind} (access : kind = .get ∨ kind = .put) {hash : Digest}
    {stored rest : List Nibble} (whole : stored ++ rest = Nibble.ofBytes hash.val)
    (short : stored.length ≤ 63) (account : Account) :
    let r := Record.ofPayload kind (keyAt stored) (some (encode rest account)) .accountTrie
    Record.classified? kind (keyAt stored) (some (encode rest account)) = some r ∧
      r.isAccountLeaf = true ∧
      (∀ before after, Log.records (Log.render (before ++ r :: after)) =
        Log.records (Log.render before) ++ r :: Log.records (Log.render after)) ∧
      (∀ before after, Record.leaves (Log.records (Log.render (before ++ r :: after))) =
        Record.leaves (Log.records (Log.render before)) ++
          r :: Record.leaves (Log.records (Log.render after))) ∧
      decode r = .ok ⟨hash, account⟩ := by
  intro r
  -- The rest of the path has at most 64 nibbles, so the node stays short enough for its headers.
  have length := congrArg List.length whole
  rw [List.length_append, Nibble.length_ofBytes, hash.property] at length
  have node : Node.decode (encode rest account) = _ := decode_encode account (by omega)
  have keyspace : Record.keyspaceOf kind (keyAt stored) (some (encode rest account)) =
      .accountTrie := by
    rcases access with rfl | rfl <;> exact classify_keyAt short _
  have leaf : r.isAccountLeaf = true := by
    simp only [r, Record.isAccountLeaf, Record.inAccountTrie, Record.ofPayload, Option.any_some,
      node]
    rfl
  have written := Log.records_render_append (r := r) rfl
    (Record.asRead_ofPayload (encode_ne_nil account))
  refine ⟨?_, leaf, written, fun before after => ?_, ?_⟩
  · rw [Record.classified?, keyspace]
    rfl
  · rw [written, Record.leaves, List.filter_append, List.filter_cons_of_pos leaf]
    rfl
  · have path : keyPath r.key.tail = .ok stored := keyPath_toByte stored
    have value : r.value = some (encode rest account) := rfl
    have trie : r.inAccountTrie = true := rfl
    simp only [decode, trie, if_true, value, node, mapError_ok, bind, Except.bind, path, whole,
      hashOfPath_ofBytes, Account.decode_encode]
    rfl

/-- A path that is cut after its seventh nibble, to an account that was never used and holds more
than fits in 31 bytes. -/
theorem decode_recorded_odd :
    let hash : Digest := ⟨(List.range 32).map fun n => UInt8.ofNat (7 * n + 3), by decide⟩
    let path := Nibble.ofBytes hash.val
    let account : Account := ⟨⟨0, by decide⟩, ⟨Bytes.capacity 31, by decide⟩, hash, hash⟩
    let r := Record.ofPayload .get (keyAt (path.take 7)) (some (encode (path.drop 7) account))
      .accountTrie
    r.key = [0x41, 0, 3, 0, 0xA, 1, 1, 1] ∧ r.valueSize = 136 ∧
      r.value.map (List.take 6) = some [0xF8, 0x86, 0x9D, 0x38, 0x1F, 0x26] ∧
      Log.records (Log.render [r]) = [r] ∧ decode r = .ok ⟨hash, account⟩ := by
  intro hash path account r
  obtain ⟨-, -, written, -, decoded⟩ := decode_recorded (Or.inl rfl)
    (List.take_append_drop 7 path) (by decide) account
  exact ⟨by decide, by decide +kernel, by decide +kernel, written [] [], decoded⟩

end AccountLeaf

end TrieJournal
