import TrieJournal.Proofs.Log.Lines
import TrieJournal.Proofs.Recorder.Serving

/-!
# Recorded runs

A run of requests on an engine, recorded with a sink that never fails and closed at its end. The
log then holds the classified ones of the noted operations, in order, and nothing else.
-/

namespace TrieJournal

namespace Record

theorem classified?_eq_some {kind : OpKind} {key : Bytes} {value : Option Bytes} {r : Record} :
    classified? kind key value = some r ↔ (keyspaceOf kind key value).isClassified = true ∧
      ofPayload kind key value (keyspaceOf kind key value) = r := by
  by_cases classified : (keyspaceOf kind key value).isClassified = true
  · rw [classified?, if_pos classified, Option.some.injEq, and_iff_right classified]
  · simp [classified?, classified]

end Record

theorem Operation.isClassified_of_record? {op : Operation} {r : Record}
    (logged : op.record? = some r) :
    r.keyspace.isClassified = true := by
  obtain ⟨classified, rfl⟩ := Record.classified?_eq_some.mp logged
  exact classified

section Engine
variable {σ : Type} [StorageEngine σ]

def Request.logged (engine : σ) (request : Request) : List Record :=
  (request.operations engine).filterMap Operation.record?

/-- The records of requests that an engine serves one after the other. -/
def Request.loggedAll (engine : σ) : List Request → List Record
  | [] => []
  | request :: requests =>
    request.logged engine ++ loggedAll (StorageEngine.serve engine request).2 requests

theorem Request.isClassified_of_loggedAll (engine : σ) (requests : List Request) :
    ∀ r ∈ loggedAll engine requests, r.keyspace.isClassified = true := by
  induction requests generalizing engine with
  | nil => simp [loggedAll]
  | cons request requests ih =>
    intro r mem
    rcases List.mem_append.mp mem with now | later
    · obtain ⟨op, -, logged⟩ := List.mem_filterMap.mp now
      exact Operation.isClassified_of_record? logged
    · exact ih _ r later

end Engine

namespace Recorder

variable {σ : Type}

/-- The log is open, its sink never fails, and it holds the records. -/
structure Logs (r : Recorder σ) (records : List Record) : Prop where
  recording : r.recording = true
  reliable : r.log.sink.policy = .reliable
  text : r.logText = Log.render records

namespace Logs
variable {r : Recorder σ} {records : List Record}

theorem append (logs : r.Logs records) (added : List Record) :
    (r.append added).Logs (records ++ added) := by
  unfold Recorder.append
  split
  · rw [Log.Writer.appendBlock_reliable logs.reliable]
    refine ⟨logs.recording, logs.reliable, ?_⟩
    have text := logs.text
    rw [logText] at text
    simp only [logText, Log.Writer.extend, text, Log.render, List.flatMap_append, List.append_assoc]
  · rename_i nothing
    rw [logs.recording, Bool.true_and, Bool.not_eq_true', Bool.not_eq_false, List.isEmpty_iff]
      at nothing
    rw [nothing, List.append_nil]
    exact logs

theorem note (logs : r.Logs records) (ops : List Operation) :
    (r.note ops).Logs (records ++ ops.filterMap Operation.record?) := by
  have counted := Logs.mk (r := { r with counts.unclassified := r.counts.unclassified +
    (ops.length - (ops.filterMap Operation.record?).length) })
    logs.recording logs.reliable logs.text
  exact counted.append _

theorem close (logs : r.Logs records) : r.close = (.ok true, { r with recording := false }) := by
  rw [Recorder.close, if_pos logs.recording, Log.Writer.finish, Log.Sink.flush, logs.reliable]
  rfl

end Logs

variable [StorageEngine σ]

def serveAll (r : Recorder σ) (requests : List Request) : Recorder σ :=
  requests.foldl (fun r request => (r.serve request).2) r

theorem Logs.serve {r : Recorder σ} {records : List Record} (logs : r.Logs records)
    (request : Request) :
    (r.serve request).2.Logs (records ++ request.logged r.engine) := by
  have noted := logs.note (request.operations r.engine)
  rw [serve_eq]
  exact ⟨noted.recording, noted.reliable, noted.text⟩

theorem Logs.serveAll {r : Recorder σ} {records : List Record} (logs : r.Logs records)
    (requests : List Request) :
    (r.serveAll requests).Logs (records ++ Request.loggedAll r.engine requests) := by
  induction requests generalizing r records with
  | nil => rwa [Request.loggedAll, List.append_nil]
  | cons request requests ih =>
    have rest := ih (logs.serve request)
    rw [serve_eq, List.append_assoc] at rest
    rw [Request.loggedAll, Recorder.serveAll, List.foldl_cons, serve_eq]
    exact rest

theorem serveAll_engine (r : Recorder σ) (requests : List Request) :
    (r.serveAll requests).engine = StorageEngine.serveAll r.engine requests := by
  induction requests generalizing r with
  | nil => rfl
  | cons request requests ih =>
    have rest := ih (r.serve request).2
    rw [serve_eq] at rest
    rw [serveAll, List.foldl_cons, serve_eq]
    exact rest

/-- Records requests on an engine with a sink that never fails, and closes the log. -/
def recorded (engine : σ) (requests : List Request) : Except Log.SinkError (Recorder σ) := do
  let r ← start engine (.empty .reliable)
  let (closed, r) := (r.serveAll requests).close
  let _ ← closed
  return r

/-- A recorded run leaves the engine as it is without recording, and a log of all that was noted. -/
theorem recorded_eq (engine : σ) (requests : List Request) :
    ∃ r, recorded engine requests = .ok r ∧ r.engine = StorageEngine.serveAll engine requests ∧
      r.logText = Log.render (Request.loggedAll engine requests) := by
  let opened : Recorder σ := fresh engine .reliable
  have started : start engine (.empty .reliable) = .ok opened := rfl
  have logs : opened.Logs [] := ⟨rfl, rfl, (List.append_nil _).symm⟩
  have served := logs.serveAll requests
  refine ⟨{ opened.serveAll requests with recording := false }, ?_, serveAll_engine _ _,
    served.text⟩
  simp only [recorded, started, bind, Except.bind, served.close, pure, Except.pure]

end Recorder

end TrieJournal
