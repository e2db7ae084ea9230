import TrieJournal.Bytes

/-!
# Sinks

Where the lines of a log go. A sink keeps a line whole or refuses it and keeps nothing; what it
does is laid down by a policy, which may be exchanged at any time.
-/

namespace TrieJournal.Log

inductive SinkError where
  | writeFailed
  | flushFailed
  deriving DecidableEq, Repr

def SinkError.message : SinkError → String
  | .writeFailed => "disk full"
  | .flushFailed => "flush failed"

/-- Which lines a sink keeps beside the text that it holds, and whether it can be flushed. -/
structure SinkPolicy where
  keepsLine : Bytes → Bool
  flushes : Bool

namespace SinkPolicy

def reliable : SinkPolicy := ⟨fun _ => true, true⟩

/-- Refuses all lines if `full`, refuses lines once the sink holds `maxLines?` of them, and fails
to flush if `stuck`. -/
def limited (full stuck : Bool) (maxLines? : Option Nat) : SinkPolicy where
  keepsLine text := !full && maxLines?.all fun n => text.count Bytes.newline < n
  flushes := !stuck

end SinkPolicy

structure Sink where
  policy : SinkPolicy
  text : Bytes

namespace Sink

def empty (policy : SinkPolicy) : Sink := ⟨policy, []⟩

def writeLine (s : Sink) (line : Bytes) : Except SinkError Unit × Sink :=
  if s.policy.keepsLine s.text then (.ok (), { s with text := s.text ++ line })
  else (.error .writeFailed, s)

def flush (s : Sink) : Except SinkError Unit :=
  if s.policy.flushes then .ok () else .error .flushFailed

end Sink

end TrieJournal.Log
