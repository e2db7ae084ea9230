import TrieJournal.Proofs.Log.Lengths
import TrieJournal.Proofs.Replay.Rows
import TrieJournal.Proofs.Summary.Partition

/-!
# Sums beyond 64 bits

A row may state any number of 64 bits as the size of its value, whatever the value is. The
additions that tally the records of a log stay in 64 bits exactly if the sums of what the rows state
do; else one of them fails and there are no totals. If each row states the size of the value that it
holds, the sums are at most the length of the log.
-/

namespace TrieJournal

/-! ### Additions -/

namespace Tally

/-- The additions that count one more record stay in 64 bits. -/
def Takes (t : Tally) (r : Record) : Prop :=
  ∀ f : Figure, t.amount f + f.weight r < UInt64.size

def Joins (t u : Tally) : Prop :=
  ∀ f : Figure, t.amount f + u.amount f < UInt64.size

theorem takes_of_part {t : Tally} {before after part : List Record} {r : Record}
    (fits : ∀ f : Figure, f.sum (before ++ r :: after) < UInt64.size)
    (figures : ∀ f, t.amount f = f.sum part) (within : part.Sublist before) : t.Takes r := by
  intro f
  have whole := fits f
  have below := f.sum_le_of_sublist within
  rw [f.sum_append, f.sum_cons] at whole
  rw [figures f]
  omega

end Tally

/-- Every addition made for the tallies of the records stays in 64 bits: each record is counted in
the entry of its keyspace after those before it, the total adds up the entries in their order, and
records of the account trie are counted for the comparison. -/
structure Record.AdditionsFit (records : List Record) : Prop where
  entries : ∀ before r after, records = before ++ r :: after →
    ∃ s, Summary.ofRecords? before = some s ∧ (s.tally r.keyspace).Takes r
  total : ∃ s, Summary.ofRecords? records = some s ∧
    ∀ before e after, s.entries = before ++ e :: after →
      ∃ t, (Summary.mk before).total? = some t ∧ t.Joins e.2
  trie : ∀ before r after, records = before ++ r :: after → r.inAccountTrie = true →
    ∃ c, Comparison.ofRecords? before = some c ∧ c.trie.Takes r
  baseline : ∀ before r after, records = before ++ r :: after → r.isAccountLeaf = true →
    ∃ c, Comparison.ofRecords? before = some c ∧ c.baseline.Takes r

namespace Summary

variable {entries : List (Keyspace × Tally)}

theorem held_append (f : Figure) (entries others : List (Keyspace × Tally)) :
    held f (entries ++ others) = held f entries + held f others := by
  rw [held, List.map_append, List.sum_append, ← held, ← held]

/-- Adding up entries stays in 64 bits exactly if all they hold does. -/
theorem joins_iff : (∀ before e after, entries = before ++ e :: after →
      ∃ t, (Summary.mk before).total? = some t ∧ t.Joins e.2) ↔
    ∀ f, held f entries < UInt64.size := by
  constructor
  · intro joins f
    -- The last addition reaches what all entries hold.
    rcases entries.eq_nil_or_concat' with rfl | ⟨before, e, rfl⟩
    · exact Nat.two_pow_pos 64
    · obtain ⟨t, earlier, last⟩ := joins before e [] rfl
      rw [held_append, ← total?_eq_some.mp earlier f]
      exact last f
  · rintro fits before e after rfl
    have room (f : Figure) : held f before + e.2.amount f < UInt64.size := by
      have whole := fits f
      rw [held_append, held_cons] at whole
      omega
    obtain ⟨t, figures⟩ :=
      Tally.exists_amount.mpr fun f _ => (Nat.le_add_right ..).trans_lt (room f)
    exact ⟨t, total?_eq_some.mpr figures, fun f => figures f ▸ room f⟩

end Summary

theorem Record.additionsFit_iff {records : List Record} :
    AdditionsFit records ↔ ∀ f : Figure, f.sum records < UInt64.size := by
  constructor
  · intro fits f
    obtain ⟨s, summed, joins⟩ := fits.total
    rw [← (Summary.ofRecords?_eq_some.mp summed).held f]
    exact Summary.joins_iff.mp joins f
  · intro fits
    have fit : Record.Fit records := fun f _ => fits f
    have compared {before after : List Record} {r : Record}
        (split : records = before ++ r :: after) :
        ∃ c, Comparison.ofRecords? before = some c := by
      have part : before.Sublist records := split ▸ List.sublist_append_left ..
      exact Comparison.exists_ofRecords?.mpr (fit.sublist (List.filter_sublist.trans part))
    refine ⟨?_, ?_, ?_, ?_⟩
    · rintro before r after rfl
      obtain ⟨s, -, describes, summed, -⟩ :=
        Summary.exists_total? (fit.sublist (List.sublist_append_left ..))
      exact ⟨s, summed, Tally.takes_of_part fits (describes.tallies _) List.filter_sublist⟩
    · obtain ⟨s, -, describes, summed, -⟩ := Summary.exists_total? fit
      exact ⟨s, summed, Summary.joins_iff.mpr fun f => describes.held f ▸ fits f⟩
    · rintro before r after rfl -
      obtain ⟨c, counted⟩ := compared rfl
      have figures := Tally.ofRecords?_eq_some.mp (Comparison.ofRecords?_eq_some.mp counted).1
      exact ⟨c, counted, Tally.takes_of_part fits figures List.filter_sublist⟩
    · rintro before r after rfl -
      obtain ⟨c, counted⟩ := compared rfl
      have figures := Tally.ofRecords?_eq_some.mp (Comparison.ofRecords?_eq_some.mp counted).2
      exact ⟨c, counted, Tally.takes_of_part fits figures List.filter_sublist⟩

/-! ### Sizes that are true -/

theorem Figure.weight_le_of_sized {r : Record} (sized : r.Sized) (f : Figure) :
    f.weight r ≤ max 1 (r.value.getD []).length := by
  have stated : r.valueSize.toNat ≤ (r.value.getD []).length := by
    rw [sized, UInt64.toNat_ofNat']
    exact Nat.mod_le ..
  cases f <;> cases kind : r.kind <;> simp only [weight, kind] <;> omega

/-- Records that state the true sizes of their values add up to no more than their log is long. -/
theorem Figure.sum_le_length {log : Bytes} (sized : ∀ r ∈ Log.records log, r.Sized) (f : Figure) :
    f.sum (Log.records log) ≤ log.length := by
  refine Nat.le_trans (List.sum_le_sum fun r mem => weight_le_of_sized (sized r mem) f) ?_
  refine Log.sum_map_records_le (fun line row r inLine read => ?_) log
  have filled : line ≠ [] := by
    rintro rfl
    rw [Log.rowOfLine?_nil] at inLine
    cases inLine
  have long := List.length_pos_iff.mpr filled
  have value := Log.length_value_of_rowOfLine? inLine read
  omega

/-! ### Totals of a log -/

namespace Summary

def cell (count bytes : Figure) (records : List Record) : String :=
  s!"{Decimal.grouped (count.sum records)} ({Decimal.grouped (bytes.sum records)}B)"

/-- The additions for a log stay in 64 bits if and only if the sums of what its rows state do. There
are totals if the bytes do, and then all figures are these sums. Rows that state true sizes cannot
add up to `2 ^ 64` in a log that is shorter. -/
theorem figures_of_log (log : Bytes) :
    let records := Log.records log
    (Record.AdditionsFit records ↔ ∀ f : Figure, f.sum records < UInt64.size) ∧
      ((∃ s t c, ofRecords? records = some s ∧ s.total? = some t ∧
        Comparison.ofRecords? records = some c) ↔ ∀ f ∈ Figure.bytes, f.sum records < UInt64.size) ∧
      (∀ s t c, ofRecords? records = some s → s.total? = some t →
        Comparison.ofRecords? records = some c →
        (∀ f k, (s.tally k).amount f = f.sum (records.filter fun r => r.keyspace = k)) ∧
        (∀ f, t.amount f = f.sum records) ∧
        (∀ f, c.trie.amount f = f.sum (Record.accountTrie records)) ∧
        (∀ f, c.baseline.amount f = f.sum (Record.leaves records)) ∧
        totalLine t = row "TOTAL" "All Operations" (cell .gets .getBytes records)
          (cell .puts .putBytes records) (Decimal.grouped (Figure.deletes.sum records))) ∧
      ((∀ r ∈ records, r.Sized) → log.length < UInt64.size → Record.AdditionsFit records) := by
  intro records
  refine ⟨Record.additionsFit_iff, ⟨?_, fun fit => ?_⟩, fun s t c summed added counted => ?_,
    fun sized short => ?_⟩
  · rintro ⟨s, t, -, summed, added, -⟩
    exact fit_of_total? summed added
  · obtain ⟨s, t, -, summed, added, -⟩ := exists_total? fit
    obtain ⟨c, counted⟩ :=
      Comparison.exists_ofRecords?.mpr (Record.Fit.sublist fit List.filter_sublist)
    exact ⟨s, t, c, summed, added, counted⟩
  · have describes := ofRecords?_eq_some.mp summed
    obtain ⟨trie, leaves⟩ := Comparison.ofRecords?_eq_some.mp counted
    have total : ∀ f, t.amount f = f.sum records :=
      Tally.ofRecords?_eq_some.mp (describes.total?.symm.trans added)
    refine ⟨fun f k => describes.tallies k f, total, Tally.ofRecords?_eq_some.mp trie,
      Tally.ofRecords?_eq_some.mp leaves, ?_⟩
    simp only [totalLine, tallyRow, Tally.figure, cell, ← total, Tally.amount]
  · exact Record.additionsFit_iff.mpr fun f => (f.sum_le_length sized).trans_lt short

/-- Reads of two keyspaces whose stated sizes add up to the largest number of 64 bits, and a write
that states the size of its value. -/
theorem figures_of_log_full :
    let reads : List Record := [⟨.get, [0x41], some [0], 1, 0xFFFFFFFFFFFFFFFE, .accountTrie⟩,
      ⟨.get, [0x41], some [0], 1, 1, .hashTrie⟩]
    let writes : List Record := [⟨.put, [0x61], some [1, 2], 1, 2, .snapshotAccount⟩]
    (∀ f : Figure, f.sum (Log.records (Log.render reads)) < UInt64.size) ∧
      Record.AdditionsFit (Log.records (Log.render reads)) ∧
      (∃ s t, ofRecords? (Log.records (Log.render reads)) = some s ∧ s.total? = some t ∧
        t.amount .getBytes = 2 ^ 64 - 1) ∧
      (∀ r ∈ Log.records (Log.render writes), r.Sized) ∧
      (Log.render writes).length < UInt64.size ∧
      Record.AdditionsFit (Log.records (Log.render writes)) := by
  intro reads writes
  have readBack : Log.records (Log.render reads) = reads := Log.records_render (by decide)
  have writtenBack : Log.records (Log.render writes) = writes := Log.records_render (by decide)
  have fits : ∀ f : Figure, f.sum (Log.records (Log.render reads)) < UInt64.size := by
    intro f
    rw [readBack]
    cases f <;> decide +kernel
  have sized : ∀ r ∈ Log.records (Log.render writes), r.Sized := by
    rw [writtenBack]
    simp [writes, Record.Sized]
  have short : (Log.render writes).length < UInt64.size := by decide +kernel
  obtain ⟨additions, totals, figures, -⟩ := figures_of_log (Log.render reads)
  obtain ⟨-, -, -, small⟩ := figures_of_log (Log.render writes)
  obtain ⟨s, t, c, summed, added, counted⟩ := totals.mpr fun f _ => fits f
  have sum : Figure.getBytes.sum (Log.records (Log.render reads)) = 2 ^ 64 - 1 := by
    rw [readBack]
    decide +kernel
  have total := (figures s t c summed added counted).2.1 .getBytes
  exact ⟨fits, additions.mpr fits, ⟨s, t, summed, added, total.trans sum⟩, sized, short,
    small sized short⟩

/-- Two reads whose stated sizes add up to `2 ^ 64`, so that there is no summary. -/
theorem sizes_overflow :
    let log := Log.render [⟨.get, [0x41], some [0], 1, 0xFFFFFFFFFFFFFFFF, .hashTrie⟩,
      ⟨.get, [0x41], some [0], 1, 1, .hashTrie⟩]
    let records := Log.records log
    ¬Record.AdditionsFit records ∧ Figure.getBytes.sum records = 2 ^ 64 ∧
      ofRecords? records = none := by
  intro log records
  have read : records = _ := Log.records_render (by decide)
  rw [read]
  refine ⟨fun additions => ?_, by decide +kernel, by decide +kernel⟩
  exact absurd (Record.additionsFit_iff.mp additions .getBytes) (by decide +kernel)

end Summary

end TrieJournal
