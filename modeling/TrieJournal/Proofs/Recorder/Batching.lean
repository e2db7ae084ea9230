import TrieJournal.Proofs.Recorder.Noting
import TrieJournal.Proofs.Recorder.Recorded
import TrieJournal.Recorder.Batch

/-!
# Batches and single changes

A batch is written to the log as one block, which is flushed once and ends at the first line that is
refused. Single changes are written and flushed one by one, and each of them is tried. As long as
the sink does not change its ways the log and the store are the same in the end, and the counts are
too if the sink does not fail.
-/

namespace TrieJournal

def Intent.records (intents : List Intent) : List Record :=
  Operation.records (intents.filterMap Operation.ofIntent?)

/-- The batch in which changes are queued. -/
def Batch.ofIntents (intents : List Intent) : Batch := intents.foldl Batch.queue .empty

theorem Batch.intents_foldl_queue (b : Batch) (intents : List Intent) :
    (intents.foldl Batch.queue b).intents = b.intents ++ intents := by
  induction intents generalizing b with
  | nil => exact (List.append_nil _).symm
  | cons intent intents ih =>
    rw [List.foldl_cons, ih, queue, List.append_assoc]
    rfl

theorem Batch.intents_ofIntents (intents : List Intent) : (ofIntents intents).intents = intents :=
  intents_foldl_queue .empty intents

namespace Recorder

variable {σ : Type}

/-- The log and the counts of `r'` are those of `r` once the operations have been noted, be it in
one block or in several. -/
structure Noted (r r' : Recorder σ) (ops : List Operation) : Prop where
  recording : r'.recording = r.recording
  sink : r'.log.sink = if r.recording then r.log.sink.keep (Operation.records ops) else r.log.sink
  unclassified : r'.counts.unclassified = r.counts.unclassified + Operation.unclassified ops
  booked : (r.recording = true → r.log.sink.Serves (Operation.records ops)) →
    r'.counts.recorded =
        r.counts.recorded + (if r.recording then (Operation.records ops).length else 0) ∧
      r'.counts.logFailures = r.counts.logFailures

namespace Noted
variable {r r' r'' : Recorder σ} {ops others : List Operation}

theorem note (r : Recorder σ) (ops : List Operation) : Noted r (r.note ops) ops := by
  refine ⟨note_recording r ops, ?_, note_unclassified r ops, fun serves => ?_⟩
  · cases opened : r.recording with
    | true => exact note_sink opened ops
    | false =>
      rw [note_of_closed opened]
      rfl
  · cases opened : r.recording with
    | true =>
      have whole := serves opened
      rw [note_counts opened, Log.Block.recorded, Log.Block.failed, if_pos whole, if_pos whole]
      exact ⟨rfl, rfl⟩
    | false =>
      rw [note_of_closed opened]
      exact ⟨rfl, rfl⟩

/-- What is noted in two blocks might as well have been noted in one. -/
theorem trans (first : Noted r r' ops) (second : Noted r' r'' others) :
    Noted r r'' (ops ++ others) := by
  refine ⟨second.recording.trans first.recording, ?_, ?_, fun serves => ?_⟩
  · rw [second.sink, first.sink, first.recording, Operation.records_append, Log.Sink.keep_append]
    split <;> rfl
  · rw [second.unclassified, first.unclassified, Operation.unclassified_append, Nat.add_assoc]
  · rw [Operation.records_append, Log.Sink.serves_append] at serves
    obtain ⟨recorded, failures⟩ := first.booked fun opened => (serves opened).1
    have later : r'.recording = true → r'.log.sink.Serves (Operation.records others) := by
      intro opened
      rw [first.recording] at opened
      rw [first.sink, if_pos opened]
      exact (serves opened).2
    obtain ⟨recorded', failures'⟩ := second.booked later
    rw [recorded', recorded, failures', failures, first.recording, Operation.records_append,
      List.length_append]
    refine ⟨?_, rfl⟩
    split <;> omega

variable [StorageEngine σ]

theorem serve (r : Recorder σ) (request : Request) :
    Noted r (r.serve request).2 (request.operations r.engine) := by
  have noted := note r (request.operations r.engine)
  rw [serve_eq]
  exact ⟨noted.recording, noted.sink, noted.unclassified, noted.booked⟩

theorem singles (r : Recorder σ) (intents : List Intent) :
    Noted r (r.serveAll (intents.map Intent.request))
      (intents.filterMap Operation.ofIntent?) := by
  induction intents generalizing r with
  | nil =>
    have nothing := note r []
    rwa [note_nil] at nothing
  | cons intent intents ih =>
    have first := serve r intent.request
    have rest := ih (r.serve intent.request).2
    have operations : intent.request.operations r.engine =
        [intent].filterMap Operation.ofIntent? := by
      cases intent <;> rfl
    rw [operations] at first
    have both := first.trans rest
    rwa [← List.filterMap_append] at both

theorem commit (r : Recorder σ) (intents : List Intent) :
    Noted r (r.actOn (.ofIntents intents) .commit).2.2
      (intents.filterMap Operation.ofIntent?) := by
  have noted := note r (intents.filterMap Operation.ofIntent?)
  rw [actOn, Batch.intents_ofIntents, writeBatch_eq]
  exact ⟨noted.recording, noted.sink, noted.unclassified, noted.booked⟩

end Noted

theorem Noted.logText_eq {r r' r'' : Recorder σ} {ops : List Operation} (noted : Noted r r' ops)
    (noted' : Noted r r'' ops) : r'.logText = r''.logText := by
  rw [logText, logText, noted.sink, noted'.sink]

theorem Noted.counts_eq {r r' r'' : Recorder σ} {ops : List Operation} (noted : Noted r r' ops)
    (noted' : Noted r r'' ops)
    (serves : r.recording = true → r.log.sink.Serves (Operation.records ops)) :
    r'.counts = r''.counts := by
  obtain ⟨recorded, failures⟩ := noted.booked serves
  obtain ⟨recorded', failures'⟩ := noted'.booked serves
  have unclassified := noted.unclassified.trans noted'.unclassified.symm
  have sameRecorded := recorded.trans recorded'.symm
  have sameFailures := failures.trans failures'.symm
  cases same : r'.counts
  cases same' : r''.counts
  simp only [same, same'] at unclassified sameRecorded sameFailures
  rw [unclassified, sameRecorded, sameFailures]

/-- A committed batch leaves the same log and the same store behind as its changes one by one,
whatever the sink does as long as it keeps doing it. The counts are the same if no line and no flush
fails. -/
theorem commit_ofIntents (r : Recorder Store) (intents : List Intent) :
    let batched := (r.actOn (.ofIntents intents) .commit).2.2
    let single := r.serveAll (intents.map Intent.request)
    batched.logText = single.logText ∧ batched.engine = single.engine ∧
      ((r.recording = true → r.log.sink.Serves (Intent.records intents)) →
        batched.counts = single.counts) := by
  intro batched single
  have commit := Noted.commit r intents
  have singles := Noted.singles r intents
  refine ⟨commit.logText_eq singles, ?_, commit.counts_eq singles⟩
  calc batched.engine = r.engine.applyAll intents := by
        simp only [batched, actOn, writeBatch_eq, Batch.intents_ofIntents]
        rfl
    _ = StorageEngine.serveAll r.engine (intents.map Intent.request) :=
        (StorageEngine.serveAll_singles r.engine intents).symm
    _ = single.engine := (serveAll_engine r _).symm

/-- Of five changes three are to be logged. A sink with room for one more line keeps the first of
them either way, but the batch counts three failures and the single changes two. A sink that never
fails leaves the same counts. -/
theorem commit_ofIntents_full :
    let changes : List Intent := [.put [0x41, 1] [1], .put [] [2], .put [0x78] [3],
      .deleteRange [0x41] [], .delete [0x41, 2]]
    let full : Recorder Store := .fresh .empty (.limited false false (some 2))
    let ample := full.withPolicy .reliable
    (full.actOn (.ofIntents changes) .commit).2.2.logText =
        (full.serveAll (changes.map Intent.request)).logText ∧
      (full.actOn (.ofIntents changes) .commit).2.2.counts = ⟨0, 1, 3⟩ ∧
      (full.serveAll (changes.map Intent.request)).counts = ⟨1, 1, 2⟩ ∧
      (ample.actOn (.ofIntents changes) .commit).2.2.counts =
        (ample.serveAll (changes.map Intent.request)).counts := by
  intro changes full ample
  have served : ample.log.sink.Serves (Intent.records changes) := Log.Sink.serves_reliable rfl _
  refine ⟨(commit_ofIntents full changes).1, ?_, ?_,
    (commit_ofIntents ample changes).2.2 fun _ => served⟩
  · decide +kernel
  · decide +kernel

end Recorder

end TrieJournal
