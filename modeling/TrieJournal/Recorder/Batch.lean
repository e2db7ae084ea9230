import TrieJournal.Recorder.Basic

/-!
# Batches

Changes are queued in a batch and reach the recorder, its log and its engine only when the batch is
committed. A committed batch is empty again, whether or not the engine took the changes.
-/

namespace TrieJournal

def Intent.byteSize : Intent → Nat
  | .put key value => key.length + value.length
  | .delete key => key.length
  | .deleteRange start stop => start.length + stop.length

/-- Changes that are queued for a recorder, in order, and a running total of their bytes. -/
structure Batch where
  intents : List Intent
  valueSize : Nat
  deriving DecidableEq, Repr

namespace Batch

def empty : Batch := ⟨[], 0⟩

def queue (b : Batch) (intent : Intent) : Batch :=
  ⟨b.intents ++ [intent], b.valueSize + intent.byteSize⟩

def size (b : Batch) : Nat := b.intents.length

def isEmpty (b : Batch) : Bool := b.intents.isEmpty

end Batch

inductive BatchAction where
  | queue (intent : Intent)
  | reset
  | commit
  deriving DecidableEq, Repr

/-- Does something with a batch for a recorder. Only a commit can fail, and only a commit reaches
the recorder. -/
def Recorder.actOn {σ : Type} [StorageEngine σ] (r : Recorder σ) (b : Batch) :
    BatchAction → Except EngineError Unit × Batch × Recorder σ
  | .queue intent => (.ok (), b.queue intent, r)
  | .reset => (.ok (), .empty, r)
  | .commit =>
    let (result, r) := r.writeBatch b.intents
    (result, .empty, r)

end TrieJournal
