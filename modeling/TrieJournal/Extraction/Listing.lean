import TrieJournal.Record.Leaves
import TrieJournal.Text.Decimal
import TrieJournal.Text.Layout

/-!
# Listing accounts

The accounts that the leaves of a log hold, how often they were read and written, and their total
balance. The total stops at the greatest balance there can be.
-/

namespace TrieJournal

/-- A leaf's account and the kind of operation it was seen in. -/
structure SeenAccount where
  kind : OpKind
  leaf : AccountLeaf
  deriving DecidableEq, Repr

namespace SeenAccount

/-- The accounts of records, in order. Records that hold none are left out. -/
def ofRecords (records : List Record) : List SeenAccount :=
  records.filterMap fun r => (AccountLeaf.decode r).toOption.map (⟨r.kind, ·⟩)

def greatest : Nat := Bytes.capacity 32 - 1

/-- The sum of all balances, or the greatest balance if the sum exceeds it. -/
def totalBalance (accounts : List SeenAccount) : Nat :=
  accounts.foldl (fun total a => min (total + a.leaf.account.balance.val) greatest) 0

def weiPerEther : Nat := 1000000000000000000

/-- A number of wei in ether, with all 18 decimal places. -/
def etherText (wei : Nat) : String :=
  let places := Layout.rightWith '0' 18 (toString (wei % weiPerEther))
  s!"{wei / weiPerEther}.{places}"

def row (hash nonce balance kind : String) : String :=
  " ".intercalate [Layout.left 66 hash, Layout.right 8 nonce, Layout.right 30 balance,
    Layout.right 4 kind]

def accountRow (a : SeenAccount) : String :=
  row a.leaf.hashText (toString a.leaf.account.nonce.val) (toString a.leaf.account.balance.val)
    a.kind.name

def countOf (kind : OpKind) (accounts : List SeenAccount) : Nat :=
  accounts.countP fun a => a.kind = kind

def listing (limit : Nat) (accounts : List SeenAccount) : List String :=
  let total := totalBalance accounts
  ["", s!"Account leaves (first {min limit accounts.length} of {accounts.length}):",
    row "Account Hash" "Nonce" "Balance (wei)" "Op"] ++
  (accounts.take limit).map accountRow ++
  ["", "  ".intercalate
      [s!"GET: {Decimal.grouped (countOf .get accounts)}",
        s!"PUT: {Decimal.grouped (countOf .put accounts)}"],
    s!"Total balance: {total} wei ({etherText total} ETH)"]

end SeenAccount

end TrieJournal
