import TrieJournal.Proofs.Record.AccountLeaf

/-!
# What a record is refused for

An account is read from a record in five steps: the keyspace, the value and its node, the path in
the key, the length of both paths together, and the payload. A record fails at the first step that
it does not pass, and one that passes them all gives the hash whose nibbles are those of the key
followed by those of the leaf.
-/

namespace TrieJournal

/-- The record is in the account trie, and its value is a leaf. -/
structure Record.HoldsLeaf (r : Record) (path : List Nibble) (payload : Bytes) : Prop where
  keyspace : r.keyspace = .accountTrie
  node : ∃ value, r.value = some value ∧ Node.decode value = .ok (.leaf path payload)

namespace AccountLeaf

/-! ### Paths -/

theorem exists_nibbles {b : Bytes} (small : ∀ byte ∈ b, byte < 16) :
    ∃ path : List Nibble, path.map Nibble.toByte = b := by
  induction b with
  | nil => exact ⟨[], rfl⟩
  | cons byte b ih =>
    obtain ⟨first, others⟩ := List.forall_mem_cons.mp small
    obtain ⟨path, same⟩ := ih others
    refine ⟨⟨byte.toNat, first⟩ :: path, ?_⟩
    rw [List.map_cons, same, Nibble.toByte, UInt8.ofNat_toNat]

theorem keyPath_of_large {before after : Bytes} {byte : UInt8}
    (small : ∀ other ∈ before, other < 16) (large : ¬byte < 16) :
    keyPath (before ++ byte :: after) = .error (.notNibble byte) := by
  induction before with
  | nil =>
    have large : ¬byte.toNat < 16 := large
    rw [List.nil_append, keyPath, Nibble.ofByte?, dif_neg large]
    rfl
  | cons other before ih =>
    have first : other.toNat < 16 := small other List.mem_cons_self
    have rest := ih fun byte mem => small byte (List.mem_cons_of_mem _ mem)
    rw [List.cons_append, keyPath, Nibble.ofByte?, dif_pos first, rest]
    rfl

theorem forall_small_or_first_large (b : Bytes) : (∀ byte ∈ b, byte < 16) ∨
    ∃ before byte after, b = before ++ byte :: after ∧ (∀ other ∈ before, other < 16) ∧
      ¬byte < 16 := by
  cases found : b.find? (fun byte => decide (¬byte < 16)) with
  | none =>
    have small := List.find?_eq_none.mp found
    exact Or.inl fun byte mem => by simpa using small byte mem
  | some byte =>
    obtain ⟨large, before, after, same, front⟩ := List.find?_eq_some_iff_append.mp found
    have small : ∀ other ∈ before, other < 16 := fun other mem => by simpa using front other mem
    exact Or.inr ⟨before, byte, after, same, small, of_decide_eq_true large⟩

theorem hashOfPath_of_length {path : List Nibble} (length : path.length = 64) :
    ∃ hash, hashOfPath path = .ok hash ∧ Nibble.ofBytes hash.val = path := by
  have bytes : (Nibble.toBytes path).length = 32 := by rw [Nibble.length_toBytes, length]
  have same : Nibble.ofBytes (Nibble.toBytes path) = path := Nibble.ofBytes_toBytes (by omega)
  have read := hashOfPath_ofBytes ⟨Nibble.toBytes path, bytes⟩
  rw [same] at read
  exact ⟨_, read, same⟩

/-! ### Records -/

/-- Each constructor is a check that the record fails, with those before it passed. -/
inductive Refused (r : Record) : AccountLeafError → Prop where
  | keyspace (other : r.keyspace ≠ .accountTrie) : Refused r (.notAccountTrie r.keyspace)
  | value (trie : r.keyspace = .accountTrie) (none : r.value = none) : Refused r .missingValue
  | node {value : Bytes} {e : NodeError} (trie : r.keyspace = .accountTrie)
      (stored : r.value = some value) (unread : Node.decode value = .error e) : Refused r (.node e)
  | shape {value : Bytes} {node : Node} (trie : r.keyspace = .accountTrie)
      (stored : r.value = some value) (read : Node.decode value = .ok node)
      (other : node.isLeaf = false) : Refused r .notLeaf
  | nibble {path : List Nibble} {payload before after : Bytes} {byte : UInt8}
      (leaf : r.HoldsLeaf path payload) (key : r.key.tail = before ++ byte :: after)
      (small : ∀ other ∈ before, other < 16) (large : ¬byte < 16) : Refused r (.notNibble byte)
  | length {path : List Nibble} {payload : Bytes} (leaf : r.HoldsLeaf path payload)
      (small : ∀ byte ∈ r.key.tail, byte < 16) (other : r.key.tail.length + path.length ≠ 64) :
      Refused r (.pathLength (r.key.tail.length + path.length))
  | account {path : List Nibble} {payload : Bytes} {e : Rlp.Error}
      (leaf : r.HoldsLeaf path payload) (small : ∀ byte ∈ r.key.tail, byte < 16)
      (length : r.key.tail.length + path.length = 64)
      (unread : Account.decode payload = .error e) : Refused r (.account e)

/-- The record passes all checks. -/
structure Stitched (r : Record) (path : List Nibble) (payload : Bytes) (account : Account) :
    Prop where
  leaf : r.HoldsLeaf path payload
  small : ∀ byte ∈ r.key.tail, byte < 16
  length : r.key.tail.length + path.length = 64
  read : Account.decode payload = .ok account

variable {r : Record} {path : List Nibble} {payload : Bytes}

theorem inAccountTrie_iff : r.inAccountTrie = true ↔ r.keyspace = .accountTrie :=
  decide_eq_true_iff

/-- What is read from the node of a record with this key. -/
def ofNode (key : Bytes) : Node → Except AccountLeafError AccountLeaf
  | .leaf path payload => do
    let stored ← keyPath key.tail
    let hash ← hashOfPath (stored ++ path)
    let account ← (Account.decode payload).mapError .account
    return { hash, account }
  | _ => throw .notLeaf

theorem decode_of_value {value : Bytes} (trie : r.keyspace = .accountTrie)
    (stored : r.value = some value) :
    decode r = ((Node.decode value).mapError .node >>= ofNode r.key) := by
  unfold decode
  rw [if_pos (inAccountTrie_iff.mpr trie), stored]
  dsimp only
  cases Node.decode value with
  | error e => rfl
  | ok node => cases node <;> rfl

theorem decode_of_holdsLeaf (leaf : r.HoldsLeaf path payload) :
    decode r = ofNode r.key (.leaf path payload) := by
  obtain ⟨value, stored, read⟩ := leaf.node
  rw [decode_of_value leaf.keyspace stored, read]
  rfl

theorem exists_path (path : List Nibble) (small : ∀ byte ∈ r.key.tail, byte < 16) :
    ∃ stored, keyPath r.key.tail = .ok stored ∧
      (stored ++ path).map Nibble.toByte = r.key.tail ++ path.map Nibble.toByte ∧
      (stored ++ path).length = r.key.tail.length + path.length := by
  obtain ⟨stored, same⟩ := exists_nibbles small
  have read := keyPath_toByte stored
  rw [same] at read
  refine ⟨stored, read, by rw [List.map_append, same], ?_⟩
  rw [List.length_append, ← same, List.length_map]

theorem decode_of_refused {e : AccountLeafError} (refused : Refused r e) : decode r = .error e := by
  cases refused with
  | keyspace other =>
    unfold decode
    rw [if_neg (fun trie => other (inAccountTrie_iff.mp trie))]
    rfl
  | value trie none =>
    unfold decode
    rw [if_pos (inAccountTrie_iff.mpr trie), none]
    rfl
  | node trie stored unread =>
    rw [decode_of_value trie stored, unread]
    rfl
  | shape trie stored read other =>
    rename_i value node
    rw [decode_of_value trie stored, read]
    cases node with
    | leaf path payload => cases other
    | branch | extension => rfl
  | nibble leaf key small large =>
    rw [decode_of_holdsLeaf leaf, ofNode, key, keyPath_of_large small large]
    rfl
  | length leaf small other =>
    rename_i path payload
    obtain ⟨stored, read, -, length⟩ := exists_path path small
    rw [← length] at other ⊢
    have found : hashOfPath (stored ++ path) = .error (.pathLength (stored ++ path).length) :=
      if_neg other
    rw [decode_of_holdsLeaf leaf, ofNode, read]
    simp only [bind, Except.bind, found]
  | account leaf small length unread =>
    rename_i path payload e
    obtain ⟨stored, read, -, whole⟩ := exists_path path small
    obtain ⟨hash, found, -⟩ := hashOfPath_of_length (whole.trans length)
    rw [decode_of_holdsLeaf leaf, ofNode, read]
    simp only [bind, Except.bind, found, unread]
    rfl

theorem decode_of_stitched {account : Account} (stitched : Stitched r path payload account) :
    ∃ hash, decode r = .ok ⟨hash, account⟩ ∧ (Nibble.ofBytes hash.val).map Nibble.toByte =
      r.key.tail ++ path.map Nibble.toByte := by
  obtain ⟨stored, read, spelled, whole⟩ := exists_path path stitched.small
  obtain ⟨hash, found, nibbles⟩ := hashOfPath_of_length (whole.trans stitched.length)
  refine ⟨hash, ?_, by rw [nibbles, spelled]⟩
  rw [decode_of_holdsLeaf stitched.leaf, ofNode, read]
  simp only [bind, Except.bind, found, stitched.read]
  rfl

theorem refused_or_stitched (r : Record) :
    (∃ e, Refused r e) ∨ ∃ path payload account, Stitched r path payload account := by
  by_cases trie : r.keyspace = .accountTrie
  · cases stored : r.value with
    | none => exact Or.inl ⟨_, .value trie stored⟩
    | some value =>
      cases read : Node.decode value with
      | error e => exact Or.inl ⟨_, .node trie stored read⟩
      | ok node =>
        match node with
        | .branch | .extension _ => exact Or.inl ⟨_, .shape trie stored read rfl⟩
        | .leaf path payload =>
          have leaf : r.HoldsLeaf path payload := ⟨trie, value, stored, read⟩
          rcases forall_small_or_first_large r.key.tail with
            small | ⟨before, byte, after, key, front, large⟩
          · by_cases length : r.key.tail.length + path.length = 64
            · cases found : Account.decode payload with
              | error e => exact Or.inl ⟨_, .account leaf small length found⟩
              | ok account => exact Or.inr ⟨path, payload, account, leaf, small, length, found⟩
            · exact Or.inl ⟨_, .length leaf small length⟩
          · exact Or.inl ⟨_, .nibble leaf key front large⟩
  · exact Or.inl ⟨_, .keyspace trie⟩

theorem stitched_of_decode {leaf : AccountLeaf} (decoded : decode r = .ok leaf) :
    ∃ path payload, Stitched r path payload leaf.account ∧
      (Nibble.ofBytes leaf.hash.val).map Nibble.toByte = r.key.tail ++ path.map Nibble.toByte := by
  rcases refused_or_stitched r with ⟨e, refused⟩ | ⟨path, payload, account, passed⟩
  · rw [decode_of_refused refused] at decoded
    cases decoded
  · obtain ⟨hash, again, spelled⟩ := decode_of_stitched passed
    obtain rfl := Except.ok.inj (decoded.symm.trans again)
    exact ⟨path, payload, passed, spelled⟩

theorem refused_of_decode {e : AccountLeafError} (failed : decode r = .error e) : Refused r e := by
  rcases refused_or_stitched r with ⟨other, refused⟩ | ⟨path, payload, account, passed⟩
  · obtain rfl := Except.error.inj (failed.symm.trans (decode_of_refused refused))
    exact refused
  · obtain ⟨hash, decoded, -⟩ := decode_of_stitched passed
    rw [decoded] at failed
    cases failed

/-- An account is read if and only if the record passes every check; its hash is then the path in
the key followed by the path in the leaf. Otherwise the error is that of the first failed check. -/
theorem decode_checked (r : Record) :
    ((∃ leaf, decode r = .ok leaf) ↔
      ∃ path payload account, r.HoldsLeaf path payload ∧ (∀ byte ∈ r.key.tail, byte < 16) ∧
        r.key.tail.length + path.length = 64 ∧ Account.decode payload = .ok account) ∧
    (∀ leaf, decode r = .ok leaf →
      ∃ path payload, r.HoldsLeaf path payload ∧ Account.decode payload = .ok leaf.account ∧
        (Nibble.ofBytes leaf.hash.val).map Nibble.toByte =
          r.key.tail ++ path.map Nibble.toByte) ∧
    ∀ e, decode r = .error e ↔ Refused r e := by
  refine ⟨⟨?_, ?_⟩, ?_, fun e => ⟨refused_of_decode, decode_of_refused⟩⟩
  · rintro ⟨leaf, decoded⟩
    obtain ⟨path, payload, passed, -⟩ := stitched_of_decode decoded
    exact ⟨path, payload, leaf.account, passed.leaf, passed.small, passed.length, passed.read⟩
  · rintro ⟨path, payload, account, leaf, small, length, read⟩
    obtain ⟨hash, decoded, -⟩ := decode_of_stitched ⟨leaf, small, length, read⟩
    exact ⟨_, decoded⟩
  · intro leaf decoded
    obtain ⟨path, payload, passed, spelled⟩ := stitched_of_decode decoded
    exact ⟨path, payload, passed.leaf, passed.read, spelled⟩

/-- One leaf below 61 nibbles, with a key of three nibbles, with one that has two bytes too large,
and with one that is too short. -/
theorem decode_checked_odd :
    let hash : Digest := ⟨List.replicate 32 0x12, rfl⟩
    let account : Account := ⟨⟨5, by decide⟩, ⟨1000, by decide⟩, hash, hash⟩
    let node := encode ((Nibble.ofBytes hash.val).drop 3) account
    let stored (key : Bytes) := Record.ofPayload .put key (some node) .accountTrie
    (∃ leaf, decode (stored [0x41, 1, 2, 1]) = .ok leaf ∧
      ((Nibble.ofBytes leaf.hash.val).map Nibble.toByte).take 3 = [1, 2, 1]) ∧
      decode (stored [0x41, 1, 0x12, 0xFF, 1]) = .error (.notNibble 0x12) ∧
      decode (stored [0x41, 1, 2]) = .error (.pathLength 63) := by
  intro hash account node stored
  have read : Node.decode node = .ok (.leaf ((Nibble.ofBytes hash.val).drop 3) account.encode) :=
    decode_encode account (by decide)
  have leaf (key : Bytes) : (stored key).HoldsLeaf _ _ := ⟨rfl, node, rfl, read⟩
  refine ⟨?_, ?_, ?_⟩
  · obtain ⟨whole, spelled, -⟩ := decode_checked (stored [0x41, 1, 2, 1])
    obtain ⟨found, decoded⟩ := whole.mpr ⟨_, _, account, leaf _, by decide +kernel, by decide,
      account.decode_encode⟩
    obtain ⟨path, payload, -, -, nibbles⟩ := spelled found decoded
    exact ⟨found, decoded, congrArg (List.take 3) nibbles⟩
  · exact ((decode_checked _).2.2 _).mpr (.nibble (leaf _)
      (show [1, 0x12, 0xFF, 1] = [1] ++ 0x12 :: [0xFF, 1] from rfl) (by decide +kernel)
      (by decide))
  · exact ((decode_checked _).2.2 _).mpr (.length (leaf _) (by decide +kernel) (by decide))

end AccountLeaf

end TrieJournal
