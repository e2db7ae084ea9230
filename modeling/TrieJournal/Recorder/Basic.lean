import TrieJournal.Log.Writer
import TrieJournal.Store.Engine

/-!
# Recording

A recorder stands in front of an engine and logs the operations that it passes on. Logged are reads
that found something, writes, deletes and range deletes, if neither their key nor the value read or
written is empty and if their key is classified. Reads are logged after the engine has answered,
everything else before it is asked. What one request asks for is written to the log as one block.

Logging never changes what the engine does: a block that cannot be written is counted and
forgotten.
-/

namespace TrieJournal

/-- A store operation that is to be logged if its key is classified. A range has its start for a key
and its end for a value. -/
structure Operation where
  kind : OpKind
  key : Bytes
  value : Option Bytes
  deriving DecidableEq, Repr

namespace Operation

def record? (op : Operation) : Option Record := Record.classified? op.kind op.key op.value

/-- The operation of a read that found `value`. -/
def ofRead? (key : Bytes) (value : Option Bytes) : Option Operation :=
  match value with
  | some v => if key.isEmpty || v.isEmpty then none else some ⟨.get, key, some v⟩
  | none => none

/-- The operation of a change. The end of a range may be empty. -/
def ofIntent? : Intent → Option Operation
  | .put key value => if key.isEmpty || value.isEmpty then none else some ⟨.put, key, some value⟩
  | .delete key => if key.isEmpty then none else some ⟨.delete, key, none⟩
  | .deleteRange start stop =>
    if start.isEmpty then none else some ⟨.deleteRange, start, some stop⟩

end Operation

/-- How many operations were in blocks that were written to the log, had no keyspace, or were in
blocks that could not be written. -/
structure Counts where
  recorded : Nat
  unclassified : Nat
  logFailures : Nat
  deriving DecidableEq, Repr

/-- An engine and the log of what was done with it. -/
structure Recorder (σ : Type) where
  engine : σ
  log : Log.Writer
  recording : Bool
  counts : Counts

namespace Recorder

variable {σ : Type}

def start (engine : σ) (sink : Log.Sink) : Except Log.SinkError (Recorder σ) := do
  let log ← Log.Writer.start sink
  return ⟨engine, log, true, ⟨0, 0, 0⟩⟩

/-- Writes records to the log as one block. Nothing is written once the log is closed. -/
def append (r : Recorder σ) (records : List Record) : Recorder σ :=
  if r.recording && !records.isEmpty then
    match r.log.appendBlock records with
    | (.ok (), log) =>
      { r with log, counts.recorded := r.counts.recorded + records.length }
    | (.error _, log) =>
      { r with log, counts.logFailures := r.counts.logFailures + records.length }
  else r

/-- Logs the classified ones of some operations as one block and counts the others. -/
def note (r : Recorder σ) (ops : List Operation) : Recorder σ :=
  let records := ops.filterMap Operation.record?
  let unclassified := ops.length - records.length
  append { r with counts.unclassified := r.counts.unclassified + unclassified } records

/-- Closes the log and tells whether it was still open. It is closed even if it cannot be
flushed. -/
def close (r : Recorder σ) : Except Log.SinkError Bool × Recorder σ :=
  if r.recording then (r.log.finish.map fun () => true, { r with recording := false })
  else (.ok false, r)

def withPolicy (r : Recorder σ) (policy : Log.SinkPolicy) : Recorder σ :=
  { r with log := r.log.withPolicy policy }

def logText (r : Recorder σ) : Bytes := r.log.sink.text

variable [StorageEngine σ]

/-- Logs the operations of some changes and then lets the engine make them. -/
def change (r : Recorder σ) (intents : List Intent) (act : σ → Except EngineError Unit × σ) :
    Except EngineError Unit × Recorder σ :=
  let r := r.note (intents.filterMap Operation.ofIntent?)
  let (result, engine) := act r.engine
  (result, { r with engine })

def get (r : Recorder σ) (key : Bytes) : Except EngineError (Option Bytes) × Recorder σ :=
  match StorageEngine.get r.engine key with
  | (.ok value, engine) => (.ok value, { r with engine }.note (Operation.ofRead? key value).toList)
  | (.error e, engine) => (.error e, { r with engine })

def pass {α : Type} (r : Recorder σ) (ask : σ → α × σ) : α × Recorder σ :=
  let (answer, engine) := ask r.engine
  (answer, { r with engine })

def writeBatch (r : Recorder σ) (intents : List Intent) : Except EngineError Unit × Recorder σ :=
  r.change intents (StorageEngine.writeBatch · intents)

def serve (r : Recorder σ) : Request → Answer × Recorder σ
  | .get key => (r.get key).map (.ofRead .value) id
  | .put key value =>
    (r.change [.put key value] (StorageEngine.put · key value)).map .ofWrite id
  | .delete key => (r.change [.delete key] (StorageEngine.delete · key)).map .ofWrite id
  | .deleteRange start stop => (r.writeBatch [.deleteRange start stop]).map .ofWrite id
  | .writeBatch intents => (r.writeBatch intents).map .ofWrite id
  | .has key => (r.pass (StorageEngine.has · key)).map (.ofRead .present) id
  | .keyCount => (r.pass StorageEngine.keyCount).map (.ofRead .count) id
  | .property p => (r.pass (StorageEngine.property? · p)).map .figure id
  | .path => (r.pass StorageEngine.path?).map .directory id

end Recorder

end TrieJournal
