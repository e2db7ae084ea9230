import TrieJournal.Rlp.Encoder

/-!
# Accounts

The payload of an account leaf: a list of a nonce, a balance, the root of the account's storage
and the hash of its code. The four fields are read in order; items after them are ignored.
-/

namespace TrieJournal

abbrev Word256 := Fin (Bytes.capacity 32)

abbrev Digest := { b : Bytes // b.length = 32 }

/-- An account of the state trie, with its balance in wei. -/
structure Account where
  nonce : Word256
  balance : Word256
  storageRoot : Digest
  codeHash : Digest
  deriving DecidableEq, Repr

namespace Account

def decode (payload : Bytes) : Except Rlp.Error Account := do
  let (item, rest) ← Rlp.firstItem payload
  let nonce ← Rlp.number 32 item
  let (item, rest) ← Rlp.splitItem rest
  let balance ← Rlp.number 32 item
  let (item, rest) ← Rlp.splitItem rest
  let storageRoot ← Rlp.fixed 32 item
  let (item, _) ← Rlp.splitItem rest
  let codeHash ← Rlp.fixed 32 item
  return { nonce, balance, storageRoot, codeHash }

def encode (a : Account) : Bytes :=
  Rlp.encodeList [Rlp.encodeNat a.nonce.val, Rlp.encodeNat a.balance.val,
    Rlp.encodeBytes a.storageRoot.val, Rlp.encodeBytes a.codeHash.val]

end Account

end TrieJournal
