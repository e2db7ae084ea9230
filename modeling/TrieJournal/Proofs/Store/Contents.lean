import TrieJournal.Proofs.Lookup
import TrieJournal.Store.Basic

/-!
# Contents of stores

What the changes of a store do to the values under its keys. Entries stay in ascending order of
their keys, and two ordered stores with the same values are equal.
-/

namespace TrieJournal

/-! ### Values under keys -/

namespace Store

theorem lookup_insertEntry (key value other : Bytes) (entries : List (Bytes × Bytes)) :
    (insertEntry key value entries).lookup other =
      if other = key then some value else entries.lookup other := by
  induction entries with
  | nil => exact lookup_cons_eq key value other []
  | cons e rest ih =>
    obtain ⟨k, v⟩ := e
    rw [insertEntry]
    split
    · rename_i same
      subst same
      rw [lookup_cons_eq, lookup_cons_eq]
      split <;> rfl
    · rename_i differ
      split
      · exact lookup_cons_eq key value other _
      · rw [lookup_cons_eq, lookup_cons_eq, ih]
        by_cases atKey : other = key
        · rw [if_pos atKey, if_pos atKey, if_neg (atKey ▸ differ)]
        · rw [if_neg atKey, if_neg atKey]

theorem get?_insert (s : Store) (key value other : Bytes) :
    (s.insert key value).get? other = if other = key then some value else s.get? other :=
  lookup_insertEntry key value other s.entries

theorem get?_erase (s : Store) (key other : Bytes) :
    (s.erase key).get? other = if other = key then none else s.get? other := by
  have filtered := lookup_filter_key (fun k => k ≠ key) other s.entries
  simp only [decide_eq_true_eq] at filtered
  exact filtered.trans (ite_not ..)

end Store

/-- Whether a key lies in a range, whose start belongs to it and whose end does not. An empty end
means that there is no upper bound. -/
def inRange (start stop key : Bytes) : Bool :=
  start ≤ key && (stop.isEmpty || key < stop)

theorem KeyRange.contains_upTo {start stop : Bytes} (ascending : stop = [] ∨ start ≤ stop)
    (key : Bytes) : (upTo start stop ascending).contains key = inRange start stop key := by
  cases stop <;> rfl

/-- A range that ends where it starts, or before, has no keys. -/
theorem lt_of_inRange {start stop key : Bytes} (inside : inRange start stop key = true) :
    stop = [] ∨ start < stop := by
  simp only [inRange, Bool.and_eq_true, Bool.or_eq_true, decide_eq_true_eq, List.isEmpty_iff]
    at inside
  obtain ⟨above, unbounded | below⟩ := inside
  · exact Or.inl unbounded
  · exact Or.inr (List.lt_of_le_of_lt above below)

namespace Store

theorem entries_foldl_erase (s : Store) (keys : List Bytes) :
    (keys.foldl erase s).entries = s.entries.filter fun e => e.1 ∉ keys := by
  induction keys generalizing s with
  | nil => exact (List.filter_eq_self.mpr fun _ _ => by simp).symm
  | cons key keys ih =>
    rw [List.foldl_cons, ih, erase, List.filter_filter]
    refine List.filter_congr fun e _ => ?_
    simp [Bool.and_comm]

theorem entries_removeRange (s : Store) (r : KeyRange) :
    (s.removeRange r).entries = s.entries.filter fun e => !r.contains e.1 := by
  rw [removeRange, entries_foldl_erase]
  refine List.filter_congr fun e mem => ?_
  have present : e.1 ∈ s.entries.map Prod.fst := List.mem_map_of_mem mem
  simp [List.mem_filter, present]

/-- The keys of the range go, and with a guard against ranges that the map cannot be asked for. -/
theorem eraseRange_eq (s : Store) (start stop : Bytes) :
    s.eraseRange start stop = ⟨s.entries.filter fun e => !inRange start stop e.1⟩ := by
  rw [eraseRange]
  split
  · rename_i ascending
    have removed := s.entries_removeRange (.upTo start stop (ascending.imp_right List.le_of_lt))
    simp only [KeyRange.contains_upTo] at removed
    exact congrArg mk removed
  · rename_i empty
    have all : s.entries.filter (fun e => !inRange start stop e.1) = s.entries := by
      refine List.filter_eq_self.mpr fun e _ => ?_
      have outside : ¬inRange start stop e.1 = true := fun inside => empty (lt_of_inRange inside)
      simpa using outside
    rw [all]

theorem get?_eraseRange (s : Store) (start stop key : Bytes) :
    (s.eraseRange start stop).get? key = if inRange start stop key then none else s.get? key := by
  have filtered := lookup_filter_key (fun k => !inRange start stop k) key s.entries
  rw [get?, eraseRange_eq, filtered]
  cases inRange start stop key <;> rfl

/-! ### Order of the keys -/

/-- The entries stand in ascending order of their keys, so no key stands twice. -/
def Ordered (s : Store) : Prop := s.entries.Pairwise fun d e => d.1 < e.1

theorem ordered_empty : empty.Ordered := List.Pairwise.nil

theorem lt_of_not_eq_of_not_lt {key k : Bytes} (differ : key ≠ k) (above : ¬key < k) : k < key :=
  (Std.Trichotomous.rel_or_eq_or_rel_swap (r := (· < · : Bytes → Bytes → Prop)) (a := key) (b := k))
    |>.resolve_left above |>.resolve_left differ

theorem mem_insertEntry {key value : Bytes} {e : Bytes × Bytes} {entries : List (Bytes × Bytes)}
    (mem : e ∈ insertEntry key value entries) : e = (key, value) ∨ e ∈ entries := by
  induction entries with
  | nil => exact Or.inl (List.mem_singleton.mp mem)
  | cons d rest ih =>
    obtain ⟨k, v⟩ := d
    rw [insertEntry] at mem
    split at mem
    · exact (List.mem_cons.mp mem).imp_right (List.mem_cons_of_mem _)
    · split at mem
      · exact List.mem_cons.mp mem
      · rcases List.mem_cons.mp mem with rfl | later
        · exact Or.inr List.mem_cons_self
        · exact (ih later).imp_right (List.mem_cons_of_mem _)

theorem Ordered.insert {s : Store} (ordered : s.Ordered) (key value : Bytes) :
    (s.insert key value).Ordered := by
  unfold Ordered Store.insert at *
  generalize s.entries = entries at ordered
  dsimp only
  induction entries with
  | nil => exact List.pairwise_singleton _ _
  | cons d rest ih =>
    obtain ⟨k, v⟩ := d
    obtain ⟨first, later⟩ := List.pairwise_cons.mp ordered
    rw [insertEntry]
    split
    · rename_i same
      subst same
      exact List.pairwise_cons.mpr ⟨first, later⟩
    · rename_i differ
      split
      · rename_i below
        refine List.pairwise_cons.mpr ⟨fun e mem => ?_, ordered⟩
        rcases List.mem_cons.mp mem with rfl | mem
        · exact below
        · exact List.lt_trans below (first e mem)
      · rename_i above
        refine List.pairwise_cons.mpr ⟨fun e mem => ?_, ih later⟩
        rcases mem_insertEntry mem with rfl | mem
        · exact lt_of_not_eq_of_not_lt differ above
        · exact first e mem

theorem Ordered.apply {s : Store} (ordered : s.Ordered) (intent : Intent) :
    (s.apply intent).Ordered := by
  cases intent with
  | put key value => exact ordered.insert key value
  | delete key => exact List.Pairwise.filter _ ordered
  | deleteRange start stop =>
    rw [Store.apply, eraseRange_eq]
    exact List.Pairwise.filter _ ordered

theorem applyAll_append (s : Store) (intents others : List Intent) :
    s.applyAll (intents ++ others) = (s.applyAll intents).applyAll others :=
  List.foldl_append

theorem Ordered.applyAll {s : Store} (ordered : s.Ordered) (intents : List Intent) :
    (s.applyAll intents).Ordered := by
  induction intents generalizing s with
  | nil => exact ordered
  | cons intent intents ih => exact ih (ordered.apply intent)

theorem Ordered.mem_iff {s : Store} (ordered : s.Ordered) {key value : Bytes} :
    (key, value) ∈ s.entries ↔ s.get? key = some value :=
  mem_iff_lookup (r := (· < ·)) (fun _ _ => List.lt_asymm) ordered

theorem Ordered.ext {s t : Store} (ordered : s.Ordered) (ordered' : t.Ordered)
    (same : ∀ key, s.get? key = t.get? key) : s = t := by
  have entries : s.entries = t.entries :=
    eq_of_lookup_eq (r := (· < ·)) (fun _ _ => List.lt_asymm) ordered ordered' same
  cases s
  cases t
  exact congrArg Store.mk entries

theorem get?_filter {s : Store} (ordered : s.Ordered) (keeps : Bytes × Bytes → Bool) (key : Bytes) :
    (⟨s.entries.filter keeps⟩ : Store).get? key =
      (s.get? key).filter fun value => keeps (key, value) := by
  have kept : (⟨s.entries.filter keeps⟩ : Store).Ordered := List.Pairwise.filter _ ordered
  apply Option.ext
  intro value
  rw [← kept.mem_iff, List.mem_filter, ordered.mem_iff, Option.filter_eq_some_iff]

end Store

end TrieJournal
