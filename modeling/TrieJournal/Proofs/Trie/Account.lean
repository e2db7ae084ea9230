import TrieJournal.Proofs.Rlp.Canonical
import TrieJournal.Proofs.Trie.RoundTrip
import TrieJournal.Trie.Account

/-!
# What an account is read from

The header of a list, then four fields, each in its only encoding: that is what an account is read
from, and it is read from nothing else. The length that the header announces is held against the
first field alone, and what stands behind the fourth is not looked at. The encoding of an account
is the case where the list ends with its fourth field and nothing follows.
-/

namespace TrieJournal

namespace Account

def fields (a : Account) : List Bytes :=
  [Rlp.encodeNat a.nonce.val, Rlp.encodeNat a.balance.val, Rlp.encodeBytes a.storageRoot.val,
    Rlp.encodeBytes a.codeHash.val]

theorem encode_eq (a : Account) : a.encode = Rlp.encodeList a.fields := rfl

theorem length_fields (a : Account) : a.fields.flatten.length ≤ 164 := by
  have wide : 32 < Bytes.capacity 8 := by decide
  have nonce := Bytes.length_ofNat_le a.nonce.isLt
  have balance := Bytes.length_ofNat_le a.balance.isLt
  have root := a.storageRoot.property
  have code := a.codeHash.property
  have nonceSize := Rlp.length_encodeBytes_le (b := Bytes.ofNat a.nonce.val) (by omega)
  have balanceSize := Rlp.length_encodeBytes_le (b := Bytes.ofNat a.balance.val) (by omega)
  have rootSize := Rlp.length_encodeBytes_le (b := a.storageRoot.val) (by omega)
  have codeSize := Rlp.length_encodeBytes_le (b := a.codeHash.val) (by omega)
  simp only [fields, List.flatten_cons, List.flatten_nil, List.append_nil, List.length_append,
    Rlp.encodeNat]
  omega

theorem length_encode_le (a : Account) : a.encode.length ≤ 173 := by
  have fields := a.length_fields
  have wide : 164 < Bytes.capacity 8 := by decide
  rw [encode_eq, Rlp.encodeList, List.length_append]
  have header := Rlp.length_encodeHeader_le 0xC0 (Nat.lt_of_le_of_lt fields wide)
  omega

/-- The payload is the header of a list of `n` bytes, the fields and `rest`. -/
structure Within (a : Account) (payload : Bytes) (n : Nat) (rest : Bytes) : Prop where
  same : payload = Rlp.encodeHeader 0xC0 n ++ (a.fields.flatten ++ rest)
  first : (Rlp.encodeNat a.nonce.val).length ≤ n
  fits : n ≤ (a.fields.flatten ++ rest).length
  wide : n < Bytes.capacity 8

theorem isItem_encodeNat (n : Word256) : Rlp.IsItem (Rlp.encodeNat n.val) := by
  have width := Bytes.length_ofNat_le n.isLt
  have wide : 32 < Bytes.capacity 8 := by decide
  exact Rlp.isItem_encodeBytes (by omega)

theorem isItem_digest (d : Digest) : Rlp.IsItem (Rlp.encodeBytes d.val) := by
  have length := d.property
  have wide : 32 < Bytes.capacity 8 := by decide
  exact Rlp.isItem_encodeBytes (by omega)

theorem flatten_fields (a : Account) (rest : Bytes) : a.fields.flatten ++ rest =
    Rlp.encodeNat a.nonce.val ++ (Rlp.encodeNat a.balance.val ++
      (Rlp.encodeBytes a.storageRoot.val ++ (Rlp.encodeBytes a.codeHash.val ++ rest))) := by
  simp only [fields, List.flatten_cons, List.flatten_nil, List.append_nil, List.append_assoc]

theorem decode_eq_ok {payload : Bytes} {a : Account} :
    decode payload = .ok a ↔ ∃ n rest, a.Within payload n rest := by
  have narrow : 32 ≤ 55 := by decide
  have wide : 32 < Bytes.capacity 8 := by decide
  unfold decode
  simp only [bind_eq_ok, Prod.exists]
  constructor
  · rintro ⟨item, _, first, nonce, nonceRead, item', _, second, balance, balanceRead, item'', _,
      third, root, rootRead, item''', rest, fourth, code, codeRead, made⟩
    -- Only the first item is held against the list; the others are taken off what is left.
    obtain ⟨one, n, rfl, short, fits, bound⟩ := Rlp.firstItem_eq_ok.mp first
    obtain ⟨rfl, two⟩ := Rlp.splitItem_eq_ok.mp second
    obtain ⟨rfl, three⟩ := Rlp.splitItem_eq_ok.mp third
    obtain ⟨rfl, four⟩ := Rlp.splitItem_eq_ok.mp fourth
    obtain rfl := (one.number_eq_ok narrow).mp nonceRead
    obtain rfl := (two.number_eq_ok narrow).mp balanceRead
    obtain rfl := (three.fixed_eq_ok wide).mp rootRead
    obtain rfl := (four.fixed_eq_ok wide).mp codeRead
    obtain rfl := Except.ok.inj made
    rw [← flatten_fields ⟨nonce, balance, root, code⟩] at fits ⊢
    exact ⟨n, rest, rfl, short, fits, bound⟩
  · rintro ⟨n, rest, rfl, short, fits, bound⟩
    rw [flatten_fields] at fits ⊢
    have first := Rlp.firstItem_eq_ok.mpr ⟨isItem_encodeNat a.nonce, n, rfl, short, fits, bound⟩
    exact ⟨_, _, first, _, Rlp.number_encodeNat narrow _,
      _, _, (isItem_encodeNat a.balance).whole _, _, Rlp.number_encodeNat narrow _,
      _, _, (isItem_digest a.storageRoot).whole _, _,
      ((isItem_digest a.storageRoot).fixed_eq_ok wide).mpr rfl,
      _, _, (isItem_digest a.codeHash).whole _, _,
      ((isItem_digest a.codeHash).fixed_eq_ok wide).mpr rfl, rfl⟩

theorem within_encode (a : Account) : a.Within a.encode a.fields.flatten.length [] where
  same := by rw [encode_eq, Rlp.encodeList, List.append_nil]
  first := by
    rw [← List.append_nil a.fields.flatten, flatten_fields, List.length_append]
    exact Nat.le_add_right _ _
  fits := Nat.le_of_eq (congrArg List.length (List.append_nil _).symm)
  wide := Nat.lt_of_le_of_lt a.length_fields (by decide)

theorem decode_encode (a : Account) : decode a.encode = .ok a :=
  decode_eq_ok.mpr ⟨_, _, a.within_encode⟩

namespace Within

variable {a : Account} {payload : Bytes} {n : Nat} {rest : Bytes}

theorem header_inj {m : Nat} {x y : Bytes} (fits : n < Bytes.capacity 8)
    (fits' : m < Bytes.capacity 8)
    (same : Rlp.encodeHeader 0xC0 n ++ x = Rlp.encodeHeader 0xC0 m ++ y) : n = m ∧ x = y := by
  have read := Rlp.leadingHeader_encodeHeader (Or.inr rfl) fits x
  rw [same, Rlp.leadingHeader_encodeHeader (Or.inr rfl) fits' y] at read
  obtain rfl : m = n := congrArg Rlp.Header.payloadLength (Except.ok.inj read)
  exact ⟨rfl, List.append_cancel_left same⟩

theorem eq_encode_iff (within : a.Within payload n rest) :
    payload = a.encode ↔ n = a.fields.flatten.length ∧ rest = [] := by
  have whole := a.within_encode
  constructor
  · intro same
    obtain ⟨length, behind⟩ :=
      header_inj within.wide whole.wide (within.same.symm.trans (same.trans whole.same))
    exact ⟨length, List.append_cancel_left behind⟩
  · rintro ⟨rfl, rfl⟩
    exact within.same.trans whole.same.symm

theorem fields_eq (within : a.Within payload n rest) {nonce balance root code behind : Bytes}
    {m : Nat} (fits : payload.length < Bytes.capacity 8) (wide : m < Bytes.capacity 8)
    (same : payload = Rlp.encodeHeader 0xC0 m ++ (Rlp.encodeBytes nonce ++
      (Rlp.encodeBytes balance ++ (Rlp.encodeBytes root ++ (Rlp.encodeBytes code ++ behind))))) :
    nonce = Bytes.ofNat a.nonce.val ∧ balance = Bytes.ofNat a.balance.val ∧
      root = a.storageRoot.val ∧ code = a.codeHash.val := by
  have length := congrArg List.length same
  simp only [List.length_append] at length
  have nonceSize := Rlp.length_le_encodeBytes nonce
  have balanceSize := Rlp.length_le_encodeBytes balance
  have rootSize := Rlp.length_le_encodeBytes root
  have codeSize := Rlp.length_le_encodeBytes code
  obtain ⟨rfl, fields⟩ := header_inj wide within.wide (same.symm.trans within.same)
  rw [flatten_fields] at fields
  obtain ⟨sameNonce, fields⟩ :=
    (Rlp.isItem_encodeBytes (by omega)).append_inj (isItem_encodeNat a.nonce) fields
  obtain ⟨sameBalance, fields⟩ :=
    (Rlp.isItem_encodeBytes (by omega)).append_inj (isItem_encodeNat a.balance) fields
  obtain ⟨sameRoot, fields⟩ :=
    (Rlp.isItem_encodeBytes (by omega)).append_inj (isItem_digest a.storageRoot) fields
  obtain ⟨sameCode, -⟩ :=
    (Rlp.isItem_encodeBytes (by omega)).append_inj (isItem_digest a.codeHash) fields
  have wordFits (n : Word256) : (Bytes.ofNat n.val).length < Bytes.capacity 8 :=
    Nat.lt_of_le_of_lt (Bytes.length_ofNat_le n.isLt) (by decide)
  have digestFits (d : Digest) : d.val.length < Bytes.capacity 8 := by
    rw [d.property]
    decide
  exact ⟨Rlp.encodeBytes_inj (by omega) (wordFits a.nonce) sameNonce,
    Rlp.encodeBytes_inj (by omega) (wordFits a.balance) sameBalance,
    Rlp.encodeBytes_inj (by omega) (digestFits a.storageRoot) sameRoot,
    Rlp.encodeBytes_inj (by omega) (digestFits a.codeHash) sameCode⟩

end Within

end Account

end TrieJournal
