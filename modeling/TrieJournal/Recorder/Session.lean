import TrieJournal.Recorder.Batch

/-!
# Sessions

What can happen to a recorder over time: requests, closing the log, work on any number of named
batches, and changes of the engine or the sink from outside.
-/

namespace TrieJournal

/-- Something that happens to a recorder, its batches and its sink, or to the engine by itself. A
batch that was never used is empty. -/
inductive Event (σ : Type) where
  | request (r : Request)
  | close
  | batch (name : String) (action : BatchAction)
  | sink (policy : Log.SinkPolicy)
  | engine (change : σ → σ)

inductive Reply where
  | answer (a : Answer)
  | closed (result : Except Log.SinkError Bool)
  | batch (result : Except EngineError Unit) (b : Batch)
  | quiet

structure Session (σ : Type) where
  recorder : Recorder σ
  batches : String → Batch

namespace Session

variable {σ : Type}

def start (engine : σ) (sink : Log.Sink) : Except Log.SinkError (Session σ) := do
  return ⟨← Recorder.start engine sink, fun _ => .empty⟩

variable [StorageEngine σ]

def step (s : Session σ) : Event σ → Reply × Session σ
  | .request request =>
    let (answer, recorder) := s.recorder.serve request
    (.answer answer, { s with recorder })
  | .close =>
    let (result, recorder) := s.recorder.close
    (.closed result, { s with recorder })
  | .batch name action =>
    let (result, b, recorder) := s.recorder.actOn (s.batches name) action
    (.batch result b, ⟨recorder, fun other => if other = name then b else s.batches other⟩)
  | .sink policy => (.quiet, { s with recorder := s.recorder.withPolicy policy })
  | .engine change =>
    (.quiet, { s with recorder := { s.recorder with engine := change s.recorder.engine } })

def run (s : Session σ) : List (Event σ) → List Reply × Session σ
  | [] => ([], s)
  | event :: events =>
    let (reply, s) := s.step event
    let (replies, s) := s.run events
    (reply :: replies, s)

end Session

end TrieJournal
