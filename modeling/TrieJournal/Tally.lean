import TrieJournal.Record.Basic

/-!
# Tallies

How many operations of each kind a list of records holds, and how many bytes of values it states
for reads and for writes. Range deletes count as deletes. There are never so many records at hand
that a count would leave 64 bits, but the sizes that they state can add up to more; then there is
no tally.
-/

namespace TrieJournal

structure Tally where
  gets : Nat
  puts : Nat
  deletes : Nat
  getBytes : UInt64
  putBytes : UInt64
  deriving DecidableEq, Repr

namespace Tally

def zero : Tally := ⟨0, 0, 0, 0, 0⟩

/-- Counts one more record, unless its size does not fit. -/
def count? (t : Tally) (r : Record) : Option Tally :=
  match r.kind with
  | .get =>
    (Bytes.addTo? t.getBytes r.valueSize.toNat).map fun getBytes =>
      { t with gets := t.gets + 1, getBytes }
  | .put =>
    (Bytes.addTo? t.putBytes r.valueSize.toNat).map fun putBytes =>
      { t with puts := t.puts + 1, putBytes }
  | .delete | .deleteRange => some { t with deletes := t.deletes + 1 }

/-- Adds up two tallies, unless their bytes do not fit. -/
def add? (s t : Tally) : Option Tally := do
  let getBytes ← Bytes.addTo? s.getBytes t.getBytes.toNat
  let putBytes ← Bytes.addTo? s.putBytes t.putBytes.toNat
  return ⟨s.gets + t.gets, s.puts + t.puts, s.deletes + t.deletes, getBytes, putBytes⟩

def ofRecords? (records : List Record) : Option Tally := records.foldlM count? zero

end Tally

end TrieJournal
