import TrieJournal.Proofs.Log.Lengths
import TrieJournal.Proofs.Replay.Mirror
import TrieJournal.Record.Leaves

/-!
# Replaying a recorded run

The log of a recorded run is replayed on an empty store, either all of it, or what it holds of the
account trie, or the leaves of that. The replay completes as long as the bytes of the values fit in
64 bits, as they do in any log that is shorter. Then all rows are applied, and the totals are the
tally of the records. The replayed store has every recorded value that would be logged; it has
nothing else if all changes of the run that bear on such values were logged.
-/

namespace TrieJournal

/-- What is replayed of a log: all of it, its account trie, or the leaves of that. -/
inductive LogPart where
  | whole
  | accountTrie
  | leaves

namespace LogPart

def select (records : List Record) : LogPart → List Record
  | whole => records
  | accountTrie => Record.accountTrie records
  | leaves => Record.leaves records

def keeps : LogPart → Record → Bool
  | whole => fun _ => true
  | accountTrie => Record.inAccountTrie
  | leaves => Record.isAccountLeaf

theorem kindless_keeps (part : LogPart) : Kindless part.keeps := by
  intro r kind
  cases part <;> rfl

theorem shown_keeps (part : LogPart) (records : List Record) :
    Record.shown part.keeps records = part.select (records.map Record.asRead) := by
  cases part with
  | whole => exact List.filter_eq_self.mpr fun _ _ => rfl
  | accountTrie | leaves => rfl

theorem select_sublist (part : LogPart) (records : List Record) :
    (part.select records).Sublist records := by
  cases part with
  | whole => exact List.Sublist.refl _
  | accountTrie | leaves => exact List.filter_sublist

end LogPart

namespace Record

theorem bytesOf_le_of_sublist {few many : List Record} (kind : OpKind)
    (within : few.Sublist many) : bytesOf kind few ≤ bytesOf kind many :=
  ((within.filter _).map _).sum_le_sum fun _ _ => Nat.zero_le _

theorem ValuesFit.sublist {few many : List Record} (fit : ValuesFit many)
    (within : few.Sublist many) : ValuesFit few :=
  ⟨(bytesOf_le_of_sublist _ within).trans_lt fit.1, (bytesOf_le_of_sublist _ within).trans_lt fit.2⟩

theorem bytesOf_le_length (kind : OpKind) (log : Bytes) :
    bytesOf kind (Log.records log) ≤ log.length := by
  have all : bytesOf kind (Log.records log) ≤ _ :=
    (List.filter_sublist.map _).sum_le_sum fun _ _ => Nat.zero_le _
  exact all.trans (Log.sum_map_records_le (fun _ _ _ => Log.length_value_of_rowOfLine?) log)

theorem valuesFit_of_length {log : Bytes} (short : log.length < UInt64.size) :
    ValuesFit (Log.records log) :=
  ⟨(bytesOf_le_length _ log).trans_lt short, (bytesOf_le_length _ log).trans_lt short⟩

end Record

/-! ### Accounting -/

namespace Replay

/-- The outcomes and the result of replaying the rows of records on an empty store. -/
def ofRecords? (records : List Record) : Option (List Outcome × Replay Store) :=
  (start Store.empty).run? (records.map Row.ofRecord)

/-- A replay of records in which every row is applied, every read finds the value of its row, and
the totals are those of a tally. -/
structure Accounted (records : List Record) (outcomes : List Outcome) (last : Replay Store)
    (t : Tally) : Prop where
  applied : outcomes = List.replicate records.length .applied
  skipped : last.stats.skipped = .zero
  totalOps : last.stats.totalOps = records.length
  getOps : last.stats.getOps = t.gets
  putOps : last.stats.putOps = t.puts
  deleteOps : last.stats.deleteOps = t.deletes
  bytesRead : last.stats.bytesRead = t.getBytes
  bytesWritten : last.stats.bytesWritten = t.putBytes
  readBack : ∀ before r after, records = before ++ r :: after → r.kind = .get →
    ∃ v outcomes last, r.value = some v ∧ ofRecords? before = some (outcomes, last) ∧
      last.engine.get? r.key = some v

variable {records : List Record} {outcomes : List Outcome} {last : Replay Store}

theorem accounted_of_readsFound (sized : ∀ r ∈ records, r.Sized)
    (found : ReadsFound .empty records) (run : ofRecords? records = some (outcomes, last)) :
    ∃ t, Tally.ofRecords? records = some t ∧ Accounted records outcomes last t := by
  have followed := followed_of_run? run sized found
  have fit := (exists_run?_ofRecord found).mp ⟨_, _, run⟩
  have tallied : Tally.ofRecords? records = some last.stats.tally :=
    Tally.ofRecords?_eq_some.mpr fun f => by
      have figures := followed.figures f
      cases f <;> simpa [start, ReplayStats.zero, ReplayStats.tally, Tally.amount] using figures
  refine ⟨last.stats.tally, tallied, followed.applied, followed.skipped, ?_, rfl, rfl, rfl, rfl,
    rfl, fun before r after split read => ?_⟩
  · rw [followed.totalOps]
    exact Nat.zero_add _
  · subst split
    obtain ⟨earlier, here, -⟩ := (readsFound_append _ _ _).mp found
    obtain ⟨outcomes, prior, replayed⟩ :=
      (exists_run?_ofRecord earlier).mpr (fit.sublist (List.sublist_append_left ..))
    obtain ⟨v, stated, present⟩ := here read
    have engine := (followed_of_run? replayed
      (fun other mem => sized other (List.mem_append_left _ mem)) earlier).engine
    exact ⟨v, outcomes, prior, stated, replayed, engine ▸ present⟩

end Replay

theorem Request.records_recorded (requests : List Request) :
    ∃ r, Recorder.recorded Store.empty requests = .ok r ∧
      r.engine = StorageEngine.serveAll Store.empty requests ∧
      Log.records r.logText = (Request.loggedAll Store.empty requests).map Record.asRead ∧
      Log.rows r.logText = (Log.records r.logText).map Row.ofRecord := by
  obtain ⟨r, run, engine, text⟩ := Recorder.recorded_eq Store.empty requests
  have read := Log.records_render (Request.isClassified_of_loggedAll Store.empty requests)
  refine ⟨r, run, engine, by rw [text, read], ?_⟩
  rw [text, read, Log.rows_render, List.map_map]
  exact List.map_congr_left fun r _ => (Row.ofRecord_asRead r).symm

/-- The log of a recorded run holds what was logged of it. Replaying any part of it completes if and
only if its values fit, and applies every row. -/
theorem Replay.accounted_recorded (requests : List Request) (part : LogPart) :
    ∃ r, Recorder.recorded Store.empty requests = .ok r ∧
      let records := Log.records r.logText
      let selected := part.select records
      records = (Request.loggedAll Store.empty requests).map Record.asRead ∧
      Log.rows r.logText = records.map Row.ofRecord ∧
      ((∃ outcomes last, ofRecords? selected = some (outcomes, last)) ↔
        Record.ValuesFit selected) ∧
      (r.logText.length < UInt64.size → Record.ValuesFit selected) ∧
      ∀ outcomes last, ofRecords? selected = some (outcomes, last) →
        ∃ t, Tally.ofRecords? selected = some t ∧ Accounted selected outcomes last t := by
  obtain ⟨r, run, -, read, rows⟩ := Request.records_recorded requests
  have mirrors := Mirrors.requests part.kindless_keeps requests
  rw [part.shown_keeps, ← read] at mirrors
  refine ⟨r, run, read, rows, exists_run?_ofRecord mirrors.found, fun short => ?_, ?_⟩
  · exact (Record.valuesFit_of_length short).sublist (part.select_sublist _)
  · exact fun _ _ => accounted_of_readsFound mirrors.sized mirrors.found

/-- Of a write, a read of it, a write to a key that is never logged, and a batch that overwrites and
removes, the part of the account trie has four rows. -/
theorem Replay.accounted_recorded_trie :
    ∃ r outcomes last, Recorder.recorded Store.empty [.put [0x41] [1, 2], .get [0x41],
        .put [0x42] [2], .put [0x61] [5], .writeBatch [.put [0x41] [4], .delete [0x41]]] = .ok r ∧
      let selected := LogPart.accountTrie.select (Log.records r.logText)
      selected.length = 4 ∧ ofRecords? selected = some (outcomes, last) ∧
        Accounted selected outcomes last ⟨1, 2, 1, 2, 3⟩ := by
  obtain ⟨r, run, read, -, completes, -, accounted⟩ := Replay.accounted_recorded
    [.put [0x41] [1, 2], .get [0x41], .put [0x42] [2], .put [0x61] [5],
      .writeBatch [.put [0x41] [4], .delete [0x41]]] .accountTrie
  rw [read] at completes accounted
  obtain ⟨outcomes, last, replayed⟩ := completes.mpr ⟨by decide +kernel, by decide +kernel⟩
  obtain ⟨t, tallied, accounts⟩ := accounted outcomes last replayed
  have figures : some t = some ⟨1, 2, 1, 2, 3⟩ := tallied.symm.trans (by decide +kernel)
  obtain rfl := Option.some.inj figures
  refine ⟨r, outcomes, last, run, ?_⟩
  rw [read]
  exact ⟨by decide +kernel, replayed, accounts⟩

/-! ### Contents -/

namespace Store

theorem ordered_after (records : List Record) : (after records).Ordered :=
  ordered_empty.applyAll _

theorem entries_of_faithful {s : Store} {records : List Record} (ordered : s.Ordered)
    (faithful : Faithful s records) : (after records).entries =
      s.entries.filter fun e => (Keyspace.classify e.1 (some e.2)).isClassified := by
  have filtered : (⟨s.entries.filter fun e => (Keyspace.classify e.1 (some e.2)).isClassified⟩ :
      Store).Ordered := List.Pairwise.filter _ ordered
  refine congrArg entries ((ordered_after records).ext filtered fun key => ?_)
  rw [faithful, get?_filter ordered]
  rfl

end Store

theorem Mirrors.engine_eq {keep : Record → Bool} {s : Store} {records : List Record}
    {outcomes : List Outcome} {last : Replay Store} (mirrors : Mirrors keep s records)
    (run : Replay.ofRecords? records = some (outcomes, last)) :
    last.engine = Store.after records :=
  (Replay.followed_of_run? run mirrors.sized mirrors.found).engine

theorem Mirrors.mem_after {keep : Record → Bool} {s : Store} {records : List Record}
    {key value : Bytes} (mirrors : Mirrors keep s records) (ordered : s.Ordered)
    (mem : (key, value) ∈ s.entries) (kept : Kept keep key value) :
    (key, value) ∈ (Store.after records).entries :=
  (Store.ordered_after records).mem_iff.mpr (mirrors.holds (ordered.mem_iff.mp mem) kept)

theorem Kept.of_leaf {key value payload : Bytes} {path : List Nibble}
    (accountTrie : Keyspace.classify key (some value) = .accountTrie)
    (leaf : Node.decode value = .ok (.leaf path payload)) :
    Kept LogPart.leaves.keeps key value where
  ne_nil := by
    rintro rfl
    cases leaf
  classified := by
    rw [accountTrie]
    rfl
  passes := by
    simp [LogPart.keeps, Record.isAccountLeaf, Record.inAccountTrie, Record.ofPayload, accountTrie,
      leaf, Except.toOption, Node.isLeaf]

/-- The store behind the log of a recorded run has every recorded value that is classified, and the
store behind its leaves has every leaf of the account trie. The former has nothing else if all
changes under classified keys were logged. -/
theorem Replay.contents_recorded (requests : List Request) :
    ∃ r, Recorder.recorded Store.empty requests = .ok r ∧
      let records := Log.records r.logText
      let leaves := Record.leaves records
      ((∃ outcomes last, (start Store.empty).run? (Log.rows r.logText) = some (outcomes, last)) ↔
        Record.ValuesFit records) ∧
      ((∃ outcomes last, ofRecords? leaves = some (outcomes, last)) ↔ Record.ValuesFit leaves) ∧
      (r.logText.length < UInt64.size → Record.ValuesFit records ∧ Record.ValuesFit leaves) ∧
      (∀ outcomes last, (start Store.empty).run? (Log.rows r.logText) = some (outcomes, last) →
        (∀ key value, (key, value) ∈ r.engine.entries → value ≠ [] →
          (Keyspace.classify key (some value)).isClassified = true →
          (key, value) ∈ last.engine.entries) ∧
        ((∀ intent ∈ requests.flatMap Request.intents, intent.Covered) →
          last.engine.entries =
            r.engine.entries.filter fun e => (Keyspace.classify e.1 (some e.2)).isClassified)) ∧
      (∀ outcomes last, ofRecords? leaves = some (outcomes, last) →
        ∀ key value path payload, (key, value) ∈ r.engine.entries →
          Keyspace.classify key (some value) = .accountTrie →
          Node.decode value = .ok (.leaf path payload) → (key, value) ∈ last.engine.entries) := by
  obtain ⟨r, run, engine, read, rows⟩ := Request.records_recorded requests
  have ordered : r.engine.Ordered := by
    rw [engine]
    exact Store.ordered_empty.serveAll requests
  have whole := Mirrors.requests LogPart.whole.kindless_keeps requests
  have leaves := Mirrors.requests LogPart.leaves.kindless_keeps requests
  rw [← engine, LogPart.shown_keeps, ← read] at whole leaves
  refine ⟨r, run, ?_, exists_run?_ofRecord leaves.found, fun short => ?_,
    fun outcomes last replayed => ?_, fun outcomes last replayed => ?_⟩
  · rw [rows]
    exact exists_run?_ofRecord whole.found
  · have fit := Record.valuesFit_of_length short
    exact ⟨fit, fit.sublist (LogPart.leaves.select_sublist _)⟩
  · rw [rows] at replayed
    rw [whole.engine_eq replayed]
    refine ⟨fun key value mem ne_nil classified => ?_, fun covered => ?_⟩
    · exact whole.mem_after ordered mem ⟨ne_nil, classified, rfl⟩
    · have faithful : Faithful r.engine
          (Record.shown LogPart.whole.keeps (Request.loggedAll Store.empty requests)) := by
        rw [engine]
        exact Faithful.requests covered
      rw [LogPart.shown_keeps, ← read] at faithful
      exact Store.entries_of_faithful ordered faithful
  · intro key value path payload mem accountTrie leaf
    rw [leaves.engine_eq replayed]
    exact leaves.mem_after ordered mem (.of_leaf accountTrie leaf)

/-- A run with a key that is never logged, an overwrite, a delete and a range without an end. -/
theorem Replay.contents_recorded_covered :
    ∃ r outcomes last, Recorder.recorded Store.empty [.put [0x41] [1], .put [0x42] [2],
        .put [0x41, 3] [3], .get [0x41], .writeBatch [.put [0x41] [4], .put [0x61] [5],
          .deleteRange [0x41, 9] [], .delete [0x41, 3]], .put [0x42] [6]] = .ok r ∧
      r.engine.entries = [([0x41], [4]), ([0x42], [6])] ∧
      (start Store.empty).run? (Log.rows r.logText) = some (outcomes, last) ∧
      last.engine.entries = [([0x41], [4])] := by
  obtain ⟨r, run, completes, -, -, contents, -⟩ := Replay.contents_recorded [.put [0x41] [1],
    .put [0x42] [2], .put [0x41, 3] [3], .get [0x41], .writeBatch [.put [0x41] [4], .put [0x61] [5],
      .deleteRange [0x41, 9] [], .delete [0x41, 3]], .put [0x42] [6]]
  obtain ⟨other, same, engine, read, -⟩ := Request.records_recorded _
  obtain rfl : r = other := Except.ok.inj (run.symm.trans same)
  have entries : r.engine.entries = [([0x41], [4]), ([0x42], [6])] := by
    rw [engine]
    decide
  rw [read] at completes
  obtain ⟨outcomes, last, replayed⟩ := completes.mpr ⟨by decide +kernel, by decide +kernel⟩
  obtain ⟨-, only⟩ := contents outcomes last replayed
  refine ⟨r, outcomes, last, run, entries, replayed, ?_⟩
  rw [only (by simp [Request.intents, Intent.Covered]; decide), entries]
  decide

end TrieJournal
