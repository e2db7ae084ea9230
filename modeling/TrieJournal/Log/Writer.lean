import TrieJournal.Log.Sink
import TrieJournal.Record.Row

/-!
# Writing logs

A log is a header line and one line per record. A single record is flushed as soon as it is
written, and counts once the flush has succeeded; of several records each counts as it is written,
and the sink is flushed after the last. Writing stops at the first failure.

A log that exists already is continued: a last line without a newline is ended first, and the
header is written to an empty log only.
-/

namespace TrieJournal.Log

def lineOf (s : String) : Bytes := Utf8.encode s ++ [Bytes.newline]

def headerLine : Bytes := lineOf Row.header.render

def recordLine (r : Record) : Bytes := lineOf r.line

structure Writer where
  sink : Sink
  rowsWritten : Nat

namespace Writer

def start (sink : Sink) : Except SinkError Writer := do
  let (result, sink) := sink.writeLine headerLine
  result
  sink.flush
  return ⟨sink, 0⟩

def withPolicy (w : Writer) (policy : SinkPolicy) : Writer :=
  { w with sink := { w.sink with policy } }

def append (w : Writer) (r : Record) : Except SinkError Unit × Writer :=
  match w.sink.writeLine (recordLine r) with
  | (.error e, sink) => (.error e, { w with sink })
  | (.ok (), sink) =>
    match sink.flush with
    | .error e => (.error e, { w with sink })
    | .ok () => (.ok (), ⟨sink, w.rowsWritten + 1⟩)

def appendAll (w : Writer) : List Record → Except SinkError Unit × Writer
  | [] => (w.sink.flush, w)
  | r :: records =>
    match w.sink.writeLine (recordLine r) with
    | (.error e, sink) => (.error e, { w with sink })
    | (.ok (), sink) => appendAll ⟨sink, w.rowsWritten + 1⟩ records

/-- Writes records as one block: a single one on its own, any other number together. -/
def appendBlock (w : Writer) : List Record → Except SinkError Unit × Writer
  | [r] => w.append r
  | records => w.appendAll records

def finish (w : Writer) : Except SinkError Unit := w.sink.flush

end Writer

/-- The text of a new log that holds the records. -/
def render (records : List Record) : Bytes := headerLine ++ records.flatMap recordLine

/-- The text of a log once it is opened for more records. -/
def reopen (log : Bytes) : Bytes :=
  match log.getLast? with
  | none => headerLine
  | some last => if last = Bytes.newline then log else log ++ [Bytes.newline]

/-- The text of a log after a session that opens it and appends records. -/
def continued (log : Bytes) (records : List Record) : Bytes :=
  reopen log ++ records.flatMap recordLine

end TrieJournal.Log
