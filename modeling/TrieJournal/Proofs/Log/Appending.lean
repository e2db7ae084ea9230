import TrieJournal.Log.Writer

/-!
# Appending to a log

A sink that never fails keeps every line, whether records are appended one at a time or together.
-/

namespace TrieJournal.Log.Writer

inductive Call where
  | append (r : Record)
  | appendAll (records : List Record)

def Call.records : Call → List Record
  | append r => [r]
  | appendAll records => records

def perform (w : Writer) : Call → Except SinkError Unit × Writer
  | .append r => w.append r
  | .appendAll records => w.appendAll records

/-- The writer after calls, whether they have succeeded or not. -/
def performAll (w : Writer) (calls : List Call) : Writer :=
  calls.foldl (fun w call => (w.perform call).2) w

def extend (w : Writer) (records : List Record) : Writer where
  sink := { w.sink with text := w.sink.text ++ records.flatMap recordLine }
  rowsWritten := w.rowsWritten + records.length

theorem extend_nil (w : Writer) : w.extend [] = w := by
  simp [extend]

theorem extend_extend (w : Writer) (records others : List Record) :
    (w.extend records).extend others = w.extend (records ++ others) := by
  simp [extend, Nat.add_assoc]

variable {w : Writer} (reliable : w.sink.policy = .reliable)
include reliable

theorem writeLine_reliable (line : Bytes) :
    w.sink.writeLine line = (.ok (), { w.sink with text := w.sink.text ++ line }) := by
  rw [Sink.writeLine, if_pos (by rw [reliable]; rfl)]

theorem append_reliable (r : Record) : w.append r = (.ok (), w.extend [r]) := by
  simp only [append, writeLine_reliable reliable, Sink.flush, reliable, SinkPolicy.reliable,
    ↓reduceIte, extend, List.flatMap_cons, List.flatMap_nil, List.append_nil, List.length_singleton]

theorem appendAll_reliable (records : List Record) :
    w.appendAll records = (.ok (), w.extend records) := by
  induction records generalizing w with
  | nil =>
    rw [appendAll, Sink.flush, reliable, extend_nil]
    rfl
  | cons r records ih =>
    have rest := ih (w := w.extend [r]) reliable
    have written : (⟨{ w.sink with text := w.sink.text ++ recordLine r }, w.rowsWritten + 1⟩ :
        Writer) = w.extend [r] := by
      simp [extend]
    rw [appendAll, writeLine_reliable reliable]
    simp only
    rw [written, rest, extend_extend, List.singleton_append]

theorem appendBlock_reliable (records : List Record) :
    w.appendBlock records = (.ok (), w.extend records) := by
  unfold appendBlock
  split
  · exact append_reliable reliable _
  · exact appendAll_reliable reliable records

theorem perform_reliable (call : Call) : w.perform call = (.ok (), w.extend call.records) := by
  cases call with
  | append r => exact append_reliable reliable r
  | appendAll records => exact appendAll_reliable reliable records

theorem performAll_reliable (calls : List Call) :
    w.performAll calls = w.extend (calls.flatMap Call.records) := by
  induction calls generalizing w with
  | nil => exact w.extend_nil.symm
  | cons call calls ih =>
    have rest := ih (w := w.extend call.records) reliable
    rw [extend_extend] at rest
    rw [performAll, List.foldl_cons, perform_reliable reliable]
    exact rest

end TrieJournal.Log.Writer
