import TrieJournal.Bytes

/-!
# Lookups

What is found under a key of a list of pairs, behind another pair and once the list is filtered by
keys. The first pair with the key counts. If the keys ascend, what is found determines the list.
-/

namespace TrieJournal

variable {κ ν : Type} [BEq κ] [LawfulBEq κ] [DecidableEq κ]

theorem lookup_cons_eq (k : κ) (v : ν) (key : κ) (entries : List (κ × ν)) :
    ((k, v) :: entries).lookup key = if key = k then some v else entries.lookup key := by
  by_cases same : key = k
  · simp [same]
  · rw [List.lookup_cons, beq_false_of_ne same, if_neg same]

theorem lookup_filter_key (keeps : κ → Bool) (key : κ) (entries : List (κ × ν)) :
    (entries.filter fun e => keeps e.1).lookup key =
      if keeps key then entries.lookup key else none := by
  induction entries with
  | nil => split <;> rfl
  | cons e rest ih =>
    obtain ⟨k, v⟩ := e
    rw [List.filter_cons, lookup_cons_eq]
    by_cases same : key = k
    · subst same
      rw [if_pos rfl]
      split
      · rw [lookup_cons_eq, if_pos rfl]
      · rename_i dropped
        rw [ih, if_neg dropped]
    · rw [if_neg same]
      split
      · rw [lookup_cons_eq, if_neg same, ih]
      · exact ih

section Ascending

variable {r : κ → κ → Prop} (asymm : ∀ j k, r j k → ¬r k j)
  {entries others : List (κ × ν)}
include asymm

theorem mem_iff_lookup (ascending : entries.Pairwise fun d e => r d.1 e.1) {key : κ} {value : ν} :
    (key, value) ∈ entries ↔ entries.lookup key = some value := by
  induction entries with
  | nil => simp
  | cons e rest ih =>
    obtain ⟨k, v⟩ := e
    obtain ⟨first, later⟩ := List.pairwise_cons.mp ascending
    rw [lookup_cons_eq, List.mem_cons, ih later]
    split
    · rename_i same
      subst same
      have absent : rest.lookup key ≠ some value := fun found =>
        have again := first _ ((ih later).mpr found)
        asymm key key again again
      simp [absent, eq_comm]
    · rename_i differ
      simp [differ]

/-- Ascending entries with the same values under all keys are equal. -/
theorem eq_of_lookup_eq (ascending : entries.Pairwise fun d e => r d.1 e.1)
    (ascending' : others.Pairwise fun d e => r d.1 e.1)
    (same : ∀ key, entries.lookup key = others.lookup key) : entries = others := by
  have members : ∀ e, e ∈ entries ↔ e ∈ others := by
    rintro ⟨key, value⟩
    rw [mem_iff_lookup asymm ascending, mem_iff_lookup asymm ascending', same]
  have distinct {l : List (κ × ν)} (ascending : l.Pairwise fun d e => r d.1 e.1) : l.Nodup := by
    refine ascending.imp ?_
    rintro d e before rfl
    exact asymm _ _ before before
  have perm := (List.perm_ext_iff_of_nodup (distinct ascending) (distinct ascending')).mpr members
  exact perm.eq_of_pairwise (fun _ _ _ _ before after => absurd after (asymm _ _ before)) ascending
    ascending'

end Ascending

end TrieJournal
