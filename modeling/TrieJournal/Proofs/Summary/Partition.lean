import Mathlib.Data.List.Induction
import TrieJournal.Proofs.Lookup
import TrieJournal.Proofs.Summary.Tallies

/-!
# The parts of a summary

A summary splits records by keyspace. Its entries stay in the order of their keyspaces, each once,
and which entries there are and what they hold depends on the records of each keyspace alone. So
there is a summary if each keyspace has a tally, the summary is the same for the records in any
order, and the figures of its parts add up to those of the whole.
-/

namespace TrieJournal

/-- The records are those of the classified keyspaces and the unclassified ones. -/
theorem Figure.sum_keyspaces (f : Figure) (records : List Record) : f.sum records =
    ((Keyspace.classified ++ [Keyspace.unclassified]).map fun k =>
      f.sum (records.filter fun r => r.keyspace = k)).sum := by
  induction records with
  | nil => rfl
  | cons r records ih =>
    have step (k : Keyspace) : f.sum ((r :: records).filter fun r => r.keyspace = k) =
        (if r.keyspace = k then f.weight r else 0) +
          f.sum (records.filter fun r => r.keyspace = k) := by
      by_cases same : r.keyspace = k
      · rw [List.filter_cons_of_pos (by simpa using same), sum_cons, if_pos same]
      · rw [List.filter_cons_of_neg (by simpa using same), if_neg same, Nat.zero_add]
    simp only [step, List.sum_map_add, sum_cons, ← ih]
    cases r.keyspace <;> simp [Keyspace.classified]

theorem Keyspace.rank_inj {k other : Keyspace} (same : k.rank = other.rank) : k = other := by
  revert same
  cases k <;> cases other <;> decide

/-- Every figure is the sum of those of the parts. -/
def Tally.IsSum (t : Tally) (parts : List Tally) : Prop :=
  ∀ f, t.amount f = (parts.map fun part => part.amount f).sum

namespace Summary

/-! ### Entries -/

def Ranked (entries : List (Keyspace × Tally)) : Prop :=
  entries.Pairwise fun d e => d.1.rank < e.1.rank

variable {entries : List (Keyspace × Tally)} {k : Keyspace} {t : Tally}

theorem mem_setEntry {e : Keyspace × Tally} (mem : e ∈ setEntry k t entries) :
    e = (k, t) ∨ e ∈ entries := by
  induction entries with
  | nil => exact Or.inl (List.mem_singleton.mp mem)
  | cons first rest ih =>
    obtain ⟨other, u⟩ := first
    rw [setEntry] at mem
    split at mem
    · exact (List.mem_cons.mp mem).imp_right (List.mem_cons_of_mem _)
    · split at mem
      · exact List.mem_cons.mp mem
      · rcases List.mem_cons.mp mem with rfl | later
        · exact Or.inr List.mem_cons_self
        · exact (ih later).imp_right (List.mem_cons_of_mem _)

theorem Ranked.above_of_lt {first : Keyspace × Tally} (ranked : Ranked (first :: entries)) {n : Nat}
    (below : n < first.1.rank) : ∀ e ∈ first :: entries, n < e.1.rank := by
  intro e mem
  rcases List.mem_cons.mp mem with rfl | later
  · exact below
  · exact Nat.lt_trans below ((List.pairwise_cons.mp ranked).1 e later)

theorem Ranked.setEntry (ranked : Ranked entries) (k : Keyspace) (t : Tally) :
    Ranked (setEntry k t entries) := by
  induction entries with
  | nil => exact List.pairwise_singleton _ _
  | cons first rest ih =>
    obtain ⟨other, u⟩ := first
    obtain ⟨above, later⟩ := List.pairwise_cons.mp ranked
    rw [Summary.setEntry]
    split
    · rename_i same
      subst same
      exact List.pairwise_cons.mpr ⟨above, later⟩
    · rename_i differ
      split
      · rename_i below
        exact List.pairwise_cons.mpr ⟨ranked.above_of_lt below, ranked⟩
      · rename_i notBelow
        refine List.pairwise_cons.mpr ⟨fun e mem => ?_, ih later⟩
        rcases mem_setEntry mem with rfl | old
        · have apart : k.rank ≠ other.rank := fun same => differ (Keyspace.rank_inj same)
          change other.rank < k.rank
          omega
        · exact above e old

theorem lookup_of_above (above : ∀ e ∈ entries, k.rank < e.1.rank) : entries.lookup k = none := by
  refine List.lookup_eq_none_iff.mpr fun e mem => ?_
  have apart : k ≠ e.1 := by
    intro same
    have less := above e mem
    rw [← same] at less
    exact Nat.lt_irrefl _ less
  simpa using apart

/-- Only the entry of the keyspace changes. Were the entries in another order, one further on would
be passed over. -/
theorem lookup_setEntry (ranked : Ranked entries) (k : Keyspace) (t : Tally) (other : Keyspace) :
    (setEntry k t entries).lookup other = if other = k then some t else entries.lookup other := by
  induction entries with
  | nil => exact lookup_cons_eq k t other []
  | cons first rest ih =>
    obtain ⟨l, u⟩ := first
    obtain ⟨-, later⟩ := List.pairwise_cons.mp ranked
    rw [setEntry]
    by_cases here : k = l
    · subst here
      rw [if_pos rfl, lookup_cons_eq, lookup_cons_eq]
      split <;> rfl
    · rw [if_neg here]
      by_cases below : k.rank < l.rank
      · rw [if_pos below, lookup_cons_eq]
      · rw [if_neg below, lookup_cons_eq, lookup_cons_eq, ih later]
        by_cases found : other = l
        · have differ : other ≠ k := fun same => here (same.symm.trans found)
          rw [if_pos found, if_neg differ, if_pos found]
        · rw [if_neg found, if_neg found]

def held (f : Figure) (entries : List (Keyspace × Tally)) : Nat :=
  (entries.map fun e => e.2.amount f).sum

theorem held_cons (f : Figure) (e : Keyspace × Tally) (entries : List (Keyspace × Tally)) :
    held f (e :: entries) = e.2.amount f + held f entries := by
  rw [held, List.map_cons, List.sum_cons, ← held]

/-- Setting an entry exchanges what its keyspace had. -/
theorem held_setEntry (ranked : Ranked entries) (k : Keyspace) (t : Tally) (f : Figure) :
    held f (setEntry k t entries) + ((entries.lookup k).getD .zero).amount f =
      held f entries + t.amount f := by
  have none : (Option.none.getD Tally.zero).amount f = 0 := Tally.amount_zero f
  induction entries with
  | nil => rw [setEntry, held_cons, List.lookup_nil, none, Nat.add_zero, Nat.add_comm]
  | cons first rest ih =>
    obtain ⟨other, u⟩ := first
    obtain ⟨-, later⟩ := List.pairwise_cons.mp ranked
    have rest := ih later
    rw [setEntry]
    by_cases here : k = other
    · rw [if_pos here, lookup_cons_eq, if_pos here, Option.getD_some]
      simp only [held_cons]
      omega
    · rw [if_neg here]
      by_cases below : k.rank < other.rank
      · rw [if_pos below, lookup_of_above (ranked.above_of_lt below), none, held_cons, Nat.add_zero,
          Nat.add_comm]
      · rw [if_neg below, lookup_cons_eq, if_neg here]
        simp only [held_cons]
        omega

theorem total?_eq_some {s : Summary} {t : Tally} :
    s.total? = some t ↔ ∀ f, t.amount f = held f s.entries := by
  have added : s.total? = some t ↔ ∀ f, t.amount f = Tally.zero.amount f + held f s.entries :=
    @Tally.foldlM_eq_some (Keyspace × Tally) (fun t e => t.add? e.2) (fun f e => e.2.amount f)
      (fun _ _ _ => Tally.add?_eq_some) .zero t s.entries
  simp only [added, Tally.amount_zero, Nat.zero_add]

/-! ### Summaries of records -/

/-- There is an entry for each keyspace of the records and for no other, in order. Each keyspace has
the sums of its records, and the entries together those of all. -/
structure Describes (s : Summary) (records : List Record) : Prop where
  ranked : Ranked s.entries
  entries : ∀ k, (s.entries.lookup k).isSome = records.any fun r => r.keyspace = k
  tallies : ∀ k f, (s.tally k).amount f = f.sum (records.filter fun r => r.keyspace = k)
  held : ∀ f, held f s.entries = f.sum records

variable {s s' : Summary} {records others : List Record}

namespace Describes

theorem empty : Summary.empty.Describes [] where
  ranked := List.Pairwise.nil
  entries _ := rfl
  tallies _ f := Tally.amount_zero f
  held _ := rfl

theorem count? (describes : s.Describes records) {r : Record} (counted : s.count? r = some s') :
    s'.Describes (records ++ [r]) := by
  obtain ⟨t, fits, rfl⟩ := Option.map_eq_some_iff.mp counted
  have amounts (f : Figure) : t.amount f = (s.tally r.keyspace).amount f + f.weight r :=
    Tally.count?_eq_some.mp fits f
  have found (k : Keyspace) : (Summary.setEntry r.keyspace t s.entries).lookup k =
      if k = r.keyspace then some t else s.entries.lookup k :=
    lookup_setEntry describes.ranked r.keyspace t k
  refine ⟨describes.ranked.setEntry _ _, fun k => ?_, fun k f => ?_, fun f => ?_⟩
  · rw [found, List.any_append, ← describes.entries]
    by_cases same : k = r.keyspace
    · simp [same]
    · simp [same, Ne.symm same]
  · rw [tally, found, List.filter_append, f.sum_append, ← describes.tallies]
    by_cases same : k = r.keyspace
    · subst same
      rw [if_pos rfl, Option.getD_some, amounts]
      simp [Figure.sum]
    · rw [if_neg same]
      simp [Figure.sum, Ne.symm same, tally]
  · have exchanged := held_setEntry describes.ranked r.keyspace t f
    rw [describes.held, amounts, tally] at exchanged
    rw [f.sum_append, f.sum_cons]
    change Summary.held f (Summary.setEntry r.keyspace t s.entries) =
      f.sum records + (f.weight r + 0)
    omega

theorem perm (describes : s.Describes records) (perm : records.Perm others) :
    s.Describes others where
  ranked := describes.ranked
  entries k := (describes.entries k).trans perm.any_eq
  tallies k f := (describes.tallies k f).trans ((perm.filter _).map _).sum_eq
  held f := (describes.held f).trans (perm.map _).sum_eq

theorem unique (describes : s.Describes records) (describes' : s'.Describes records) : s = s' := by
  have entries : s.entries = s'.entries := by
    refine eq_of_lookup_eq (r := fun j k : Keyspace => j.rank < k.rank) (fun _ _ => Nat.lt_asymm)
      describes.ranked describes'.ranked fun k => ?_
    have tally : s.tally k = s'.tally k := Tally.ext_amount fun f => by
      rw [describes.tallies, describes'.tallies]
    have present := (describes.entries k).trans (describes'.entries k).symm
    rw [Summary.tally, Summary.tally] at tally
    cases found : s.entries.lookup k <;> cases found' : s'.entries.lookup k <;>
      simp_all
  cases s
  cases s'
  exact congrArg Summary.mk entries

theorem tally (describes : s.Describes records) (k : Keyspace) :
    Tally.ofRecords? (records.filter fun r => r.keyspace = k) = some (s.tally k) :=
  Tally.ofRecords?_eq_some.mpr (describes.tallies k)

theorem total? (describes : s.Describes records) : s.total? = Tally.ofRecords? records := by
  refine Option.ext fun t => ?_
  simp only [total?_eq_some, describes.held, Tally.ofRecords?_eq_some]

end Describes

theorem ofRecords?_concat (records : List Record) (r : Record) :
    ofRecords? (records ++ [r]) = (ofRecords? records).bind (count? · r) := by
  simp only [ofRecords?, List.foldlM_append, List.foldlM_cons, List.foldlM_nil, bind_pure]
  rfl

theorem describes_of_ofRecords? (summed : ofRecords? records = some s) : s.Describes records := by
  induction records using List.reverseRecOn generalizing s with
  | nil => exact Option.some.inj summed ▸ Describes.empty
  | append_singleton records r ih =>
    rw [ofRecords?_concat] at summed
    obtain ⟨before, earlier, last⟩ := Option.bind_eq_some_iff.mp summed
    exact (ih earlier).count? last

/-- There is a summary if the records of each keyspace have a tally. -/
theorem exists_ofRecords? : (∃ s, ofRecords? records = some s) ↔
    ∀ k, Record.Fit (records.filter fun r => r.keyspace = k) := by
  constructor
  · rintro ⟨s, summed⟩ k
    exact Tally.exists_ofRecords?.mp ⟨_, (describes_of_ofRecords? summed).tally k⟩
  · intro fits
    induction records using List.reverseRecOn with
    | nil => exact ⟨empty, rfl⟩
    | append_singleton records r ih =>
      obtain ⟨s, earlier⟩ := ih fun k =>
        (fits k).sublist ((List.sublist_append_left ..).filter _)
      have tallies := (describes_of_ofRecords? earlier).tallies r.keyspace
      have room : ∀ f ∈ Figure.bytes,
          (s.tally r.keyspace).amount f + f.weight r < UInt64.size := by
        intro f bytes
        have whole := fits r.keyspace f bytes
        rw [List.filter_append, f.sum_append, ← tallies] at whole
        simpa [Figure.sum] using whole
      obtain ⟨t, amounts⟩ := Tally.exists_amount.mpr room
      have last : (s.tally r.keyspace).count? r = some t := Tally.count?_eq_some.mpr amounts
      exact ⟨⟨setEntry r.keyspace t s.entries⟩, by
        rw [ofRecords?_concat, earlier, Option.bind_some, count?, last, Option.map_some]⟩

theorem ofRecords?_eq_some : ofRecords? records = some s ↔ s.Describes records := by
  constructor
  · exact describes_of_ofRecords?
  · intro describes
    have fits (k : Keyspace) : Record.Fit (records.filter fun r => r.keyspace = k) :=
      Tally.exists_ofRecords?.mp ⟨_, describes.tally k⟩
    obtain ⟨s', summed⟩ := exists_ofRecords?.mpr fits
    rw [summed, (describes_of_ofRecords? summed).unique describes]

theorem ofRecords?_perm (perm : records.Perm others) : ofRecords? records = ofRecords? others := by
  refine Option.ext fun s => ?_
  rw [ofRecords?_eq_some, ofRecords?_eq_some]
  exact ⟨fun describes => describes.perm perm, fun describes => describes.perm perm.symm⟩

theorem fit_of_total? {t : Tally} (summed : ofRecords? records = some s)
    (added : s.total? = some t) : Record.Fit records :=
  Tally.exists_ofRecords?.mp ⟨t, (ofRecords?_eq_some.mp summed).total?.symm.trans added⟩

/-- Records whose bytes fit have a summary with a total. -/
theorem exists_total? (fit : Record.Fit records) :
    ∃ s t, s.Describes records ∧ ofRecords? records = some s ∧ s.total? = some t ∧
      ∀ f, t.amount f = f.sum records := by
  obtain ⟨s, summed⟩ := exists_ofRecords?.mpr fun k => fit.sublist List.filter_sublist
  obtain ⟨t, tallied⟩ := Tally.exists_ofRecords?.mpr fit
  have describes := ofRecords?_eq_some.mp summed
  exact ⟨s, t, describes, summed, describes.total?.trans tallied,
    Tally.ofRecords?_eq_some.mp tallied⟩

/-- There is a summary of records if each keyspace has a tally of its records. It holds these, its
total is the tally of all records, and their order does not matter. If all bytes fit, the total is
the sum of the keyspaces, and joined records have the sums of what each part has. -/
theorem ofRecords_partition (records others : List Record) :
    ((∃ s, ofRecords? records = some s) ↔
        ∀ k, Record.Fit (records.filter fun r => r.keyspace = k)) ∧
      (∀ s, ofRecords? records = some s →
        (∀ k, Tally.ofRecords? (records.filter fun r => r.keyspace = k) = some (s.tally k)) ∧
        s.total? = Tally.ofRecords? records) ∧
      (∀ reordered : List Record, reordered.Perm records →
        ofRecords? reordered = ofRecords? records) ∧
      (Record.Fit (records ++ others) → ∃ s t joined a b c,
        (ofRecords? records = some s ∧ s.total? = some a) ∧
        (ofRecords? others = some t ∧ t.total? = some b) ∧
        (ofRecords? (records ++ others) = some joined ∧ joined.total? = some c) ∧
        a.IsSum (Keyspace.classified.map s.tally ++ [s.tally .unclassified]) ∧
        (∀ k, (joined.tally k).IsSum [s.tally k, t.tally k]) ∧
        c.IsSum [a, b]) := by
  refine ⟨exists_ofRecords?, fun s summed => ?_, fun _ => ofRecords?_perm, fun fit => ?_⟩
  · have describes := ofRecords?_eq_some.mp summed
    exact ⟨describes.tally, describes.total?⟩
  · obtain ⟨s, a, first, summed, added, all⟩ :=
      exists_total? (fit.sublist (List.sublist_append_left ..))
    obtain ⟨t, b, second, summed', added', all'⟩ :=
      exists_total? (fit.sublist (List.sublist_append_right ..))
    obtain ⟨joined, c, both, summed'', added'', all''⟩ := exists_total? fit
    refine ⟨s, t, joined, a, b, c, ⟨summed, added⟩, ⟨summed', added'⟩, ⟨summed'', added''⟩,
      fun f => ?_, fun k f => ?_, fun f => ?_⟩
    · rw [all, f.sum_keyspaces]
      simp only [List.map_append, List.map_map, Function.comp_def, List.map_cons, List.map_nil,
        first.tallies]
    · rw [both.tallies, List.filter_append, f.sum_append, ← first.tallies, ← second.tallies]
      simp
    · rw [all'', f.sum_append, ← all, ← all']
      simp

/-- Records of three keyspaces and one without, whose sizes add up to the largest number of 64
bits. -/
theorem ofRecords_partition_full :
    let records : List Record := [⟨.put, [0x6F], none, 1, 0xFFFFFFFFFFFFFF00, .snapshotStorage⟩,
      ⟨.put, [0x20], some [7], 1, 0xF0, .unclassified⟩, ⟨.get, [0x41], some [], 1, 9, .accountTrie⟩,
      ⟨.deleteRange, [0x41], none, 1, 0, .accountTrie⟩]
    let others : List Record := [⟨.put, [0x41], some [1], 1, 0xF, .accountTrie⟩,
      ⟨.delete, [0x61], none, 1, 3, .snapshotAccount⟩]
    Record.Fit (records ++ others) ∧ Figure.putBytes.sum (records ++ others) = 2 ^ 64 - 1 ∧
      records.reverse.Perm records ∧ ofRecords? records.reverse = ofRecords? records ∧
      (ofRecords? (records ++ others)).bind total? = some ⟨1, 3, 2, 9, 0xFFFFFFFFFFFFFFFF⟩ ∧
      ∃ s a, ofRecords? records = some s ∧ s.total? = some a ∧
        a.IsSum (Keyspace.classified.map s.tally ++ [s.tally .unclassified]) := by
  intro records others
  have fit : Record.Fit (records ++ others) := by decide +kernel
  have perm : records.reverse.Perm records := records.reverse_perm
  obtain ⟨-, -, reordered, sums⟩ := ofRecords_partition records others
  obtain ⟨s, t, joined, a, b, c, ⟨summed, added⟩, -, -, parts, -⟩ := sums fit
  exact ⟨fit, by decide +kernel, perm, reordered _ perm, by decide +kernel, s, a, summed, added,
    parts⟩

end Summary

end TrieJournal
