import TrieJournal.Proofs.Extraction.Again
import TrieJournal.Proofs.Summary.Partition

/-!
# Tables and logs agree

The tallies of the account trie and of its leaves are found in several ways: in one pass for the
comparison, in the entry of the keyspace, over the filtered records, and over what is read back from
the logs made of these. Reading back may change a value that is empty, but neither what is tallied
nor what is a leaf.
-/

namespace TrieJournal

theorem Tally.ofRecords?_render {records : List Record} (within : Record.InAccountTrie records) :
    ofRecords? (Log.records (Log.render records)) = ofRecords? records := by
  rw [Log.records_render within.classified]
  exact ofRecords?_congr fun f => Record.sum_asRead f records

namespace Comparison

theorem ofRecords?_render {records : List Record} (within : Record.InAccountTrie records)
    {c : Comparison} : ofRecords? (Log.records (Log.render records)) = some c ↔
      Tally.ofRecords? records = some c.trie ∧
        Tally.ofRecords? (Record.leaves records) = some c.baseline := by
  rw [ofRecords?_eq_some, Log.accountTrie_render within, Log.records_render within.classified,
    Record.leaves_asRead, Tally.ofRecords?_congr fun f => Record.sum_asRead f _,
    Tally.ofRecords?_congr fun f => Record.sum_asRead f _]

/-- There is a comparison of records if the bytes of the account trie fit. It is that of the
filtered records and of the logs written from them, it has the entry of the account trie in the
summary, and no figure of the leaves is above that of the trie. -/
theorem ofRecords_agrees (records : List Record) :
    let trie := Record.accountTrie records
    let leaves := Record.leaves trie
    leaves = Record.leaves records ∧
      ((∃ c, ofRecords? records = some c) ↔ Record.Fit trie) ∧
      ofRecords? (Log.records (Log.render trie)) = ofRecords? records ∧
      (∀ c, ofRecords? records = some c →
        Tally.ofRecords? trie = some c.trie ∧
        Tally.ofRecords? (Log.records (Log.render trie)) = some c.trie ∧
        Tally.ofRecords? leaves = some c.baseline ∧
        Tally.ofRecords? (Log.records (Log.render leaves)) = some c.baseline ∧
        c.baseline.AtMost c.trie ∧
        ∀ s, Summary.ofRecords? records = some s → c.trie = s.tally .accountTrie) ∧
      (Record.Fit records →
        ∃ c s, ofRecords? records = some c ∧ Summary.ofRecords? records = some s) := by
  intro trie leaves
  have within : Record.InAccountTrie trie := Record.inAccountTrie_accountTrie records
  have selected : leaves = Record.leaves records := Record.leaves_accountTrie records
  refine ⟨selected, exists_ofRecords?, Option.ext fun c => ?_, fun c counted => ?_, fun fit => ?_⟩
  · rw [ofRecords?_render within, ofRecords?_eq_some, ← selected]
  · obtain ⟨all, some⟩ := ofRecords?_eq_some.mp counted
    rw [← selected] at some
    refine ⟨all, ?_, some, ?_, Tally.atMost_of_sublist some all List.filter_sublist, ?_⟩
    · rwa [Tally.ofRecords?_render within]
    · rwa [Tally.ofRecords?_render within.leaves]
    · intro s summed
      have tally := (Summary.ofRecords?_eq_some.mp summed).tally .accountTrie
      exact Option.some.inj (all.symm.trans tally)
  · obtain ⟨s, -, -, summed, -⟩ := Summary.exists_total? fit
    obtain ⟨c, counted⟩ := exists_ofRecords?.mpr (fit.sublist List.filter_sublist)
    exact ⟨c, s, counted, summed⟩

/-- Leaves, an empty value, a value that is no node, a leaf of another keyspace and one without,
with sizes that are not true. -/
theorem ofRecords_agrees_mixed :
    let leaf : Option Bytes := some [0xC2, 0x20, 1]
    let trie : List Record := [⟨.put, [0x41], leaf, 1, 3, .accountTrie⟩,
      ⟨.get, [0x41], some [], 1, 70, .accountTrie⟩, ⟨.get, [0x41], leaf, 1, 500, .accountTrie⟩,
      ⟨.delete, [0x41], none, 1, 9, .accountTrie⟩, ⟨.put, [0x41], some [7], 1, 1, .accountTrie⟩,
      ⟨.deleteRange, [0x41], leaf, 1, 0, .accountTrie⟩]
    let records := ⟨.put, [0x4F], leaf, 1, 3, .storageTrie⟩ :: trie ++
      [⟨.put, [0x20], leaf, 1, 8, .unclassified⟩]
    Record.accountTrie records = trie ∧
      ∃ c s, ofRecords? records = some c ∧ Summary.ofRecords? records = some s ∧
        c = ⟨⟨2, 2, 2, 570, 4⟩, ⟨1, 1, 1, 500, 3⟩⟩ ∧ s.tally .accountTrie = c.trie ∧
        ofRecords? (Log.records (Log.render trie)) = some c ∧ c.baseline.AtMost c.trie := by
  intro leaf trie records
  have filtered : Record.accountTrie records = trie := by decide +kernel
  obtain ⟨-, -, again, agrees, complete⟩ := ofRecords_agrees records
  obtain ⟨c, s, counted, summed⟩ := complete (by decide +kernel)
  obtain ⟨-, -, -, -, atMost, entry⟩ := agrees c counted
  have figures : some c = some ⟨⟨2, 2, 2, 570, 4⟩, ⟨1, 1, 1, 500, 3⟩⟩ :=
    counted.symm.trans (by decide +kernel)
  rw [filtered, counted] at again
  exact ⟨filtered, c, s, counted, summed, Option.some.inj figures, (entry s summed).symm, again,
    atMost⟩

end Comparison

end TrieJournal
