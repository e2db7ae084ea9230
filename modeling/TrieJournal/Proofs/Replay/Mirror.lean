import Mathlib.Data.List.Basic
import TrieJournal.Proofs.Keyspace.Classify
import TrieJournal.Proofs.Recorder.Recorded
import TrieJournal.Proofs.Replay.Rows
import TrieJournal.Proofs.Store.Contents

/-!
# The store behind a log

The changes that a log describes lead from an empty store to a mirror of the recorded one. Changes
that were not logged, or that a filter has dropped, are missing from the mirror, so it may hold
values that the recorded store has lost. But every recorded value that would be logged, and would
pass the filter, is there, and this is all that a logged read looks for.
-/

namespace TrieJournal

/-! ### What a log shows of an operation -/

def Record.shown (keep : Record → Bool) (records : List Record) : List Record :=
  (records.map asRead).filter keep

def Operation.shown? (keep : Record → Bool) (op : Operation) : Option Record :=
  (op.record?.map Record.asRead).filter keep

def Intent.shown? (keep : Record → Bool) (intent : Intent) : Option Record :=
  (Operation.ofIntent? intent).bind (Operation.shown? keep)

/-- The keyspace under which a change is logged. -/
def Intent.keyspace : Intent → Keyspace
  | .put key value => Keyspace.classify key (some value)
  | .delete key => Keyspace.classifyKey key
  | .deleteRange start _ => Keyspace.classifyKey start

/-- A filter that looks at keys, values and keyspaces, but not at kinds. -/
def Kindless (keep : Record → Bool) : Prop :=
  ∀ (r : Record) (kind : OpKind), keep { r with kind } = keep r

/-- A value that is shown by a log when it is written or read. -/
structure Kept (keep : Record → Bool) (key value : Bytes) : Prop where
  ne_nil : value ≠ []
  classified : (Keyspace.classify key (some value)).isClassified = true
  passes : keep (.ofPayload .put key (some value) (Keyspace.classify key (some value))) = true

theorem Record.shown_append (keep : Record → Bool) (records others : List Record) :
    shown keep (records ++ others) = shown keep records ++ shown keep others := by
  rw [shown, List.map_append, List.filter_append]
  rfl

variable {keep : Record → Bool}

theorem Operation.shown_records (ops : List Operation) :
    Record.shown keep (ops.filterMap record?) = ops.filterMap (shown? keep) := by
  induction ops with
  | nil => rfl
  | cons op ops ih =>
    rw [Record.shown] at ih ⊢
    rw [List.filterMap_cons, List.filterMap_cons, ← ih, shown?]
    cases op.record? with
    | none => rfl
    | some r =>
      rw [List.map_cons, List.filter_cons, Option.map_some, Option.filter_some]
      split <;> rfl

theorem Operation.shown?_eq_some {op : Operation} {r : Record} :
    op.shown? keep = some r ↔ (Record.keyspaceOf op.kind op.key op.value).isClassified = true ∧
      (Record.ofPayload op.kind op.key op.value
        (Record.keyspaceOf op.kind op.key op.value)).asRead = r ∧ keep r = true := by
  rw [shown?, Option.filter_eq_some_iff, Option.map_eq_some_iff, ← and_assoc]
  refine and_congr_left' ⟨?_, ?_⟩
  · rintro ⟨logged, record, rfl⟩
    obtain ⟨classified, rfl⟩ := Record.classified?_eq_some.mp record
    exact ⟨classified, rfl⟩
  · rintro ⟨classified, rfl⟩
    exact ⟨_, Record.classified?_eq_some.mpr ⟨classified, rfl⟩, rfl⟩

theorem Operation.shown?_sized {op : Operation} {r : Record} (shown : op.shown? keep = some r) :
    r.Sized := by
  obtain ⟨-, rfl, -⟩ := shown?_eq_some.mp shown
  rw [Record.Sized, Record.getD_value_asRead]
  rfl

theorem Operation.ofRead?_eq_some {key : Bytes} {value : Option Bytes} {op : Operation}
    (asked : ofRead? key value = some op) :
    ∃ v, value = some v ∧ v ≠ [] ∧ op = ⟨.get, key, some v⟩ := by
  cases value with
  | none => cases asked
  | some v =>
    simp only [ofRead?, Option.ite_none_left_eq_some, Option.some.injEq, Bool.or_eq_true,
      List.isEmpty_iff, not_or] at asked
    obtain ⟨⟨-, ne_nil⟩, rfl⟩ := asked
    exact ⟨v, rfl, ne_nil, rfl⟩

/-- What a log shows of a change is that change. -/
theorem Intent.shown?_eq_some {intent : Intent} {r : Record} (shown : intent.shown? keep = some r) :
    r.Sized ∧ r.kind ≠ .get ∧ r.intent? = some intent ∧ intent.keyspace.isClassified = true := by
  obtain ⟨op, asked, shown⟩ := Option.bind_eq_some_iff.mp shown
  refine ⟨Operation.shown?_sized shown, ?_⟩
  obtain ⟨classified, rfl, -⟩ := Operation.shown?_eq_some.mp shown
  rw [Record.intent?, Record.getD_value_asRead]
  cases intent with
  | put key value | delete key | deleteRange start stop =>
    simp only [Operation.ofIntent?, Option.ite_none_left_eq_some, Option.some.injEq] at asked
    obtain ⟨-, rfl⟩ := asked
    exact ⟨by simp [Record.asRead, Record.ofPayload], rfl, classified⟩

theorem Intent.shown?_ne_none {intent : Intent} {op : Operation}
    (asked : Operation.ofIntent? intent = some op)
    (classified : (Record.keyspaceOf op.kind op.key op.value).isClassified = true)
    (passes : keep (Record.ofPayload op.kind op.key op.value
      (Record.keyspaceOf op.kind op.key op.value)).asRead = true) :
    intent.shown? keep ≠ none := by
  have shown := Operation.shown?_eq_some.mpr ⟨classified, rfl, passes⟩
  rw [shown?, asked, Option.bind_some, shown]
  exact Option.some_ne_none _

theorem Kept.shown?_put {key value : Bytes} (kept : Kept keep key value) :
    Intent.shown? keep (.put key value) ≠ none := by
  have asked : Operation.ofIntent? (.put key value) = some ⟨.put, key, some value⟩ := by
    simp [Operation.ofIntent?, Keyspace.ne_nil_of_classified kept.classified, kept.ne_nil]
  refine Intent.shown?_ne_none asked kept.classified ?_
  rw [Record.asRead_ofPayload kept.ne_nil]
  exact kept.passes

theorem Kept.of_read {key value : Bytes} {r : Record} (kindless : Kindless keep)
    (ne_nil : value ≠ []) (shown : Operation.shown? keep ⟨.get, key, some value⟩ = some r) :
    Kept keep key value ∧
      r = .ofPayload .get key (some value) (Keyspace.classify key (some value)) := by
  obtain ⟨classified, same, passes⟩ := Operation.shown?_eq_some.mp shown
  rw [Record.asRead_ofPayload ne_nil] at same
  subst same
  exact ⟨⟨ne_nil, classified, (kindless _ .put).trans passes⟩, rfl⟩

/-! ### Mirrors -/

namespace Store

theorem get?_insert_self (s : Store) (key value : Bytes) :
    (s.insert key value).get? key = some value := by
  rw [get?_insert, if_pos rfl]

/-- A value that is there after a change was put there by it, or was there before and would be left
in any store. -/
theorem get?_apply_some {s : Store} {intent : Intent} {key value : Bytes}
    (present : (s.apply intent).get? key = some value) :
    intent = .put key value ∨ s.get? key = some value ∧
      ∀ t : Store, t.get? key = some value → (t.apply intent).get? key = some value := by
  cases intent with
  | put k v =>
    simp only [apply, get?_insert] at present ⊢
    split at present
    · rename_i same
      rw [same, Option.some.inj present]
      exact Or.inl rfl
    · rename_i differ
      exact Or.inr ⟨present, fun t there => by rwa [if_neg differ]⟩
  | delete k =>
    simp only [apply, get?_erase] at present ⊢
    split at present
    · cases present
    · rename_i differ
      exact Or.inr ⟨present, fun t there => by rwa [if_neg differ]⟩
  | deleteRange start stop =>
    simp only [apply, get?_eraseRange] at present ⊢
    split at present
    · cases present
    · rename_i outside
      exact Or.inr ⟨present, fun t there => by rwa [if_neg outside]⟩

/-- The store to which the changes that records describe lead. -/
def after (records : List Record) : Store := empty.applyAll (records.filterMap Record.intent?)

theorem after_append (records others : List Record) :
    after (records ++ others) = (after records).applyAll (others.filterMap Record.intent?) := by
  rw [after, List.filterMap_append, applyAll_append]
  rfl

end Store

/-- The records lead to a store that holds every kept value of `s`, and their reads are found on
the way. -/
structure Mirrors (keep : Record → Bool) (s : Store) (records : List Record) : Prop where
  sized : ∀ r ∈ records, r.Sized
  found : ReadsFound .empty records
  holds : ∀ {key value : Bytes}, s.get? key = some value → Kept keep key value →
    (Store.after records).get? key = some value

namespace Mirrors
variable {s : Store} {records : List Record}

theorem empty : Mirrors keep .empty [] where
  sized := by simp
  found := trivial
  holds present := by cases present

/-- A record that is neither of the wrong size nor of a read that finds nothing. -/
theorem snoc {t : Store} {r : Record} (mirrors : Mirrors keep s records) (sized : r.Sized)
    (found : r.ReadFrom (Store.after records))
    (holds : ∀ {key value : Bytes}, t.get? key = some value → Kept keep key value →
      (Store.after (records ++ [r])).get? key = some value) :
    Mirrors keep t (records ++ [r]) where
  sized other mem := by
    rcases List.mem_append.mp mem with before | last
    · exact mirrors.sized other before
    · rwa [List.mem_singleton.mp last]
  found := (readsFound_append _ _ _).mpr ⟨mirrors.found, found, trivial⟩
  holds := holds

/-- A change of the recorded store. If the log shows it, it is made in the mirror as well; else it
puts no kept value into the recorded store. -/
theorem intent (mirrors : Mirrors keep s records) (intent : Intent) :
    Mirrors keep (s.apply intent) (records ++ (intent.shown? keep).toList) := by
  cases shown : intent.shown? keep with
  | none =>
    rw [Option.toList_none, List.append_nil]
    refine ⟨mirrors.sized, mirrors.found, fun present kept => ?_⟩
    rcases Store.get?_apply_some present with rfl | ⟨before, -⟩
    · exact absurd shown kept.shown?_put
    · exact mirrors.holds before kept
  | some r =>
    obtain ⟨sized, change, same, -⟩ := Intent.shown?_eq_some shown
    refine mirrors.snoc sized (fun read => absurd read change) fun present kept => ?_
    rw [Store.after_append, List.filterMap_cons_some same]
    rcases Store.get?_apply_some present with rfl | ⟨before, left⟩
    · exact Store.get?_insert_self _ _ _
    · exact left _ (mirrors.holds before kept)

/-- A read of the recorded store. If the log shows it, the value is kept, so it is in the mirror. -/
theorem read (kindless : Kindless keep) (mirrors : Mirrors keep s records) (key : Bytes) :
    Mirrors keep s (records ++
      ((Operation.ofRead? key (s.get? key)).bind (Operation.shown? keep)).toList) := by
  cases shown : (Operation.ofRead? key (s.get? key)).bind (Operation.shown? keep) with
  | none => rwa [Option.toList_none, List.append_nil]
  | some r =>
    obtain ⟨op, asked, shown⟩ := Option.bind_eq_some_iff.mp shown
    obtain ⟨value, present, ne_nil, rfl⟩ := Operation.ofRead?_eq_some asked
    obtain ⟨kept, rfl⟩ := Kept.of_read kindless ne_nil shown
    refine mirrors.snoc (Operation.shown?_sized shown) (fun _ => ?_) fun there other => ?_
    · exact ⟨value, rfl, mirrors.holds present kept⟩
    · rw [Store.after_append]
      exact mirrors.holds there other

end Mirrors

/-! ### Runs -/

section Runs

/- What every change and every read of the recorded store keeps true of the store and of the records
shown so far is kept true by requests. -/
variable {P : Store → List Record → Prop} {s : Store} {records : List Record}

theorem intents_shown {intents : List Intent}
    (change : ∀ s records, ∀ intent ∈ intents, P s records →
      P (s.apply intent) (records ++ (intent.shown? keep).toList))
    (holds : P s records) :
    P (s.applyAll intents) (records ++ intents.filterMap (Intent.shown? keep)) := by
  induction intents generalizing s records with
  | nil => rwa [List.filterMap_nil, List.append_nil]
  | cons intent intents ih =>
    have rest := ih (fun s records other mem => change s records other (List.mem_cons_of_mem _ mem))
      (change s records intent List.mem_cons_self holds)
    rw [List.filterMap_eq_flatMap_toList, List.append_assoc] at rest
    rw [List.filterMap_eq_flatMap_toList, List.flatMap_cons]
    exact rest

variable (read : ∀ s records key, P s records →
  P s (records ++ ((Operation.ofRead? key (s.get? key)).bind (Operation.shown? keep)).toList))
include read

theorem request_shown {request : Request}
    (change : ∀ s records, ∀ intent ∈ request.intents, P s records →
      P (s.apply intent) (records ++ (intent.shown? keep).toList))
    (holds : P s records) :
    P (StorageEngine.serve s request).2 (records ++ Record.shown keep (request.logged s)) := by
  have changed : P (s.applyAll request.intents) (records ++
      (request.intents.filterMap Operation.ofIntent?).filterMap (Operation.shown? keep)) := by
    rw [List.filterMap_filterMap]
    exact intents_shown change holds
  rw [Request.logged, Operation.shown_records]
  cases request with
  | get key =>
    have found := read s records key holds
    rw [Option.toList_bind] at found
    rw [List.filterMap_eq_flatMap_toList]
    exact found
  | put | delete | deleteRange | writeBatch | has | keyCount | property | path => exact changed

theorem requests_shown {requests : List Request}
    (change : ∀ s records, ∀ intent ∈ requests.flatMap Request.intents, P s records →
      P (s.apply intent) (records ++ (intent.shown? keep).toList))
    (holds : P s records) :
    P (StorageEngine.serveAll s requests)
      (records ++ Record.shown keep (Request.loggedAll s requests)) := by
  induction requests generalizing s records with
  | nil => rwa [Request.loggedAll, Record.shown, List.map_nil, List.filter_nil, List.append_nil]
  | cons request requests ih =>
    have first := request_shown read (fun s records intent mem => change s records intent
      (List.mem_append_left _ mem)) holds
    have rest := ih (fun s records intent mem => change s records intent
      (List.mem_append_right _ mem)) first
    rw [List.append_assoc, ← Record.shown_append] at rest
    exact rest

end Runs

theorem Mirrors.requests (kindless : Kindless keep) (requests : List Request) :
    Mirrors keep (StorageEngine.serveAll .empty requests)
      (Record.shown keep (Request.loggedAll Store.empty requests)) :=
  requests_shown (fun _ _ key mirrors => mirrors.read kindless key)
    (fun _ _ intent _ mirrors => mirrors.intent intent) Mirrors.empty

/-! ### Faithful mirrors -/

/-- The value under a key, if it is one that is logged when it is written or read. -/
def Store.loggable? (s : Store) (key : Bytes) : Option Bytes :=
  (s.get? key).filter fun value => (Keyspace.classify key (some value)).isClassified

/-- The records lead to a store that holds the loggable values of `s` and nothing else. -/
def Faithful (s : Store) (records : List Record) : Prop :=
  ∀ key, (Store.after records).get? key = s.loggable? key

/-- A change that is logged if it bears on loggable values. -/
def Intent.Covered : Intent → Prop
  | .put key value => (Keyspace.classifyKey key).isClassified = true →
    value ≠ [] ∧ (Keyspace.classify key (some value)).isClassified = true
  | .delete _ => True
  | .deleteRange start _ => (Keyspace.classifyKey start).isClassified = true

theorem Store.loggable?_congr {s t : Store}
    (same : ∀ key, (Keyspace.classifyKey key).isClassified = true → s.get? key = t.get? key)
    (key : Bytes) : s.loggable? key = t.loggable? key := by
  by_cases classified : (Keyspace.classifyKey key).isClassified = true
  · rw [loggable?, loggable?, same key classified]
  · have never (value : Bytes) : (Keyspace.classify key (some value)).isClassified = false :=
      Bool.eq_false_iff.mpr fun known => classified (Keyspace.classifyKey_of_classify known)
    simp [loggable?, never]

/-- A change under a keyspace does the same to the loggable values as to a store of just these. -/
theorem Store.loggable?_apply {s t : Store} {intent : Intent}
    (classified : intent.keyspace.isClassified = true)
    (same : ∀ key, t.get? key = s.loggable? key) (key : Bytes) :
    (t.apply intent).get? key = (s.apply intent).loggable? key := by
  have here := same key
  rw [loggable?] at here ⊢
  cases intent with
  | put k v =>
    have known : (Keyspace.classify k (some v)).isClassified = true := classified
    rw [apply, apply, get?_insert, get?_insert]
    split
    · rename_i atKey
      rw [atKey, Option.filter_some, if_pos known]
    · exact here
  | delete k =>
    rw [apply, apply, get?_erase, get?_erase]
    split
    · rfl
    · exact here
  | deleteRange start stop =>
    rw [apply, apply, get?_eraseRange, get?_eraseRange]
    split
    · rfl
    · exact here

/-- A covered change that a log does not show does nothing to the loggable values. -/
theorem Store.loggable?_apply_hidden {s : Store} {intent : Intent} (covered : intent.Covered)
    (hidden : intent.shown? (fun _ => true) = none) (key : Bytes) :
    (s.apply intent).loggable? key = s.loggable? key := by
  refine loggable?_congr (fun other classified => ?_) key
  cases intent with
  | put k v =>
    have differ : other ≠ k := by
      rintro rfl
      obtain ⟨ne_nil, known⟩ := covered classified
      exact Kept.shown?_put ⟨ne_nil, known, rfl⟩ hidden
    rw [apply, get?_insert, if_neg differ]
  | delete k =>
    have differ : other ≠ k := by
      rintro rfl
      have asked : Operation.ofIntent? (.delete other) = some ⟨.delete, other, none⟩ := by
        simp [Operation.ofIntent?, Keyspace.ne_nil_of_classified classified]
      exact Intent.shown?_ne_none asked classified rfl hidden
    rw [apply, get?_erase, if_neg differ]
  | deleteRange start stop =>
    have asked : Operation.ofIntent? (.deleteRange start stop) =
        some ⟨.deleteRange, start, some stop⟩ := by
      simp [Operation.ofIntent?, Keyspace.ne_nil_of_classified covered]
    exact absurd hidden (Intent.shown?_ne_none asked covered rfl)

namespace Faithful
variable {s : Store} {records : List Record}

theorem intent (faithful : Faithful s records) {intent : Intent} (covered : intent.Covered) :
    Faithful (s.apply intent) (records ++ (intent.shown? fun _ => true).toList) := by
  intro key
  cases shown : intent.shown? fun _ => true with
  | none =>
    rw [Option.toList_none, List.append_nil, Store.loggable?_apply_hidden covered shown]
    exact faithful key
  | some r =>
    obtain ⟨-, -, same, classified⟩ := Intent.shown?_eq_some shown
    rw [Store.after_append, Option.toList_some, List.filterMap_cons_some same]
    exact Store.loggable?_apply classified faithful key

theorem read (faithful : Faithful s records) (key : Bytes) :
    Faithful s (records ++
      ((Operation.ofRead? key (s.get? key)).bind (Operation.shown? fun _ => true)).toList) := by
  intro other
  cases shown : (Operation.ofRead? key (s.get? key)).bind (Operation.shown? fun _ => true) with
  | none =>
    rw [Option.toList_none, List.append_nil]
    exact faithful other
  | some r =>
    obtain ⟨op, asked, shown⟩ := Option.bind_eq_some_iff.mp shown
    obtain ⟨value, -, -, rfl⟩ := Operation.ofRead?_eq_some asked
    obtain ⟨-, rfl, -⟩ := Operation.shown?_eq_some.mp shown
    rw [Store.after_append]
    exact faithful other

theorem requests {requests : List Request}
    (covered : ∀ intent ∈ requests.flatMap Request.intents, intent.Covered) :
    Faithful (StorageEngine.serveAll .empty requests)
      (Record.shown (fun _ => true) (Request.loggedAll Store.empty requests)) := by
  have begun : Faithful .empty [] := fun _ => rfl
  exact requests_shown (P := Faithful) (fun _ _ key faithful => faithful.read key)
    (fun _ _ intent mem faithful => faithful.intent (covered intent mem)) begun

end Faithful

end TrieJournal
