import Mathlib.Algebra.GroupWithZero.Nat
import TrieJournal.Proofs.Store.Serving

/-!
# The history of a store

The changes that requests have asked for, batches among them, form one history. The last change that
touches a key settles what is found under it: the value if it is a write, and nothing if it is a
delete or a range delete, or if there is no such change. Entries list just these values in ascending
order of their keys, and the figures of a store are theirs.
-/

namespace TrieJournal

namespace Intent

/-- Whether a change touches a key. A range touches the keys from its start on and, unless its end
is empty, before its end. -/
def Touches (intent : Intent) (key : Bytes) : Prop :=
  match intent with
  | put k _ | delete k => key = k
  | deleteRange start stop => start ≤ key ∧ (stop = [] ∨ key < stop)

instance (intent : Intent) (key : Bytes) : Decidable (intent.Touches key) :=
  match intent with
  | put k _ | delete k => inferInstanceAs (Decidable (key = k))
  | deleteRange start stop => inferInstanceAs (Decidable (start ≤ key ∧ (stop = [] ∨ key < stop)))

/-- The value that a change leaves under the keys that it touches. -/
def value? : Intent → Option Bytes
  | put _ value => some value
  | delete _ | deleteRange _ _ => none

def lastTouching? (key : Bytes) (changes : List Intent) : Option Intent :=
  changes.reverse.find? fun change => change.Touches key

theorem lastTouching?_cons (key : Bytes) (change : Intent) (changes : List Intent) :
    lastTouching? key (change :: changes) =
      (lastTouching? key changes).or (if change.Touches key then some change else none) := by
  rw [lastTouching?, List.reverse_cons, List.find?_append, List.find?_singleton]
  simp only [decide_eq_true_eq]
  rfl

/-- A range touches nothing if it ends before it starts, or where it starts. -/
theorem exists_touches_deleteRange (start stop : Bytes) :
    (∃ key, (deleteRange start stop).Touches key) ↔ stop = [] ∨ start < stop := by
  constructor
  · rintro ⟨key, above, unbounded | below⟩
    · exact Or.inl unbounded
    · exact Or.inr (List.lt_of_le_of_lt above below)
  · intro nonempty
    exact ⟨start, List.le_refl start, nonempty⟩

end Intent

namespace Store

theorem get?_apply (s : Store) (intent : Intent) (key : Bytes) :
    (s.apply intent).get? key = if intent.Touches key then intent.value? else s.get? key := by
  cases intent with
  | put k value => exact get?_insert s k value key
  | delete k => exact get?_erase s k key
  | deleteRange start stop =>
    have touched :
        (inRange start stop key = true) = (Intent.deleteRange start stop).Touches key := by
      simp [inRange, Intent.Touches]
    exact (get?_eraseRange s start stop key).trans
      (ite_congr touched (fun _ => rfl) fun _ => rfl)

/-- The last change that touches a key settles what is found under it. -/
theorem get?_applyAll (s : Store) (changes : List Intent) (key : Bytes) :
    (s.applyAll changes).get? key =
      ((Intent.lastTouching? key changes).map Intent.value?).getD (s.get? key) := by
  induction changes generalizing s with
  | nil => rfl
  | cons change changes ih =>
    have rest := ih (s.apply change)
    rw [get?_apply] at rest
    rw [Intent.lastTouching?_cons]
    refine rest.trans ?_
    -- A later change that touches the key hides the first one.
    cases Intent.lastTouching? key changes with
    | some later => rfl
    | none =>
      rw [Option.none_or]
      split <;> rfl

theorem byteSize_eq (s : Store) :
    s.byteSize = (s.entries.map fun e => e.1.length + e.2.length).sum := by
  rw [byteSize, List.sum_eq_foldl, List.foldl_map]

/-- After any requests an empty store answers from the history of its changes. -/
theorem serve_history (requests : List Request) :
    let s := StorageEngine.serveAll empty requests
    let changes := requests.flatMap Request.intents
    let found (key : Bytes) := (Intent.lastTouching? key changes).bind Intent.value?
    (∀ key, StorageEngine.serve s (.get key) = (.value (found key), s)) ∧
      (∀ key, StorageEngine.serve s (.has key) = (.present (found key).isSome, s)) ∧
      (∀ intent : Intent, (StorageEngine.serve s intent.request).1 = .done) ∧
      (∀ intents, StorageEngine.serve s (.writeBatch intents) =
        (.done, StorageEngine.serveAll s (intents.map Intent.request))) ∧
      (s.entries.Pairwise fun d e => d.1 < e.1) ∧
      (∀ key value, (key, value) ∈ s.entries ↔ found key = some value) ∧
      StorageEngine.serve s .keyCount = (.count s.entries.length, s) ∧
      StorageEngine.serve s (.property .memoryUsage) =
        (.figure (some (toString (s.entries.map fun e => e.1.length + e.2.length).sum)), s) ∧
      ∀ start stop,
        (∃ key, (Intent.deleteRange start stop).Touches key) ↔ stop = [] ∨ start < stop := by
  intro s changes found
  have reads (key : Bytes) : s.get? key = found key := by
    have settled := get?_applyAll empty changes key
    rw [← StorageEngine.serveAll_store] at settled
    refine settled.trans ?_
    simp only [found]
    cases Intent.lastTouching? key changes <;> rfl
  have ordered : s.Ordered := ordered_empty.serveAll requests
  refine ⟨fun key => ?_, fun key => ?_, fun intent => ?_, fun intents => ?_, ordered,
    fun key value => ?_, rfl, ?_, Intent.exists_touches_deleteRange⟩
  · rw [← reads]
    rfl
  · rw [← reads]
    rfl
  · cases intent <;> rfl
  · rw [StorageEngine.serveAll_singles]
    rfl
  · rw [ordered.mem_iff, reads]
  · rw [← byteSize_eq]
    rfl

end Store

end TrieJournal
