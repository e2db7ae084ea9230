import TrieJournal.Record.Row
import TrieJournal.Store.Engine

/-!
# Replay

Rows of a log are carried out on an engine, one by one. A row has an effect or is skipped for a
reason. A row whose key cannot be read counts for nothing but the skip; any other counts towards
the totals of its operation even if it is skipped. Sizes and keyspaces are not looked at. There are
never so many rows that a count would leave 64 bits, but the bytes read or written can add up to
more; then the replay breaks off without a result.
-/

namespace TrieJournal

/-- Why a row had no effect. A malformed value is that of a write or the end of a range. -/
inductive SkipReason where
  | malformedKey
  | malformedValue
  | unknownOperation
  | missingKey
  | engineFailure
  deriving DecidableEq, Repr

inductive Outcome where
  | applied
  | skipped (reason : SkipReason)
  deriving DecidableEq, Repr

structure SkipCounts where
  malformedKey : Nat
  malformedValue : Nat
  unknownOperation : Nat
  missingKey : Nat
  engineFailure : Nat
  deriving DecidableEq, Repr

namespace SkipCounts

def zero : SkipCounts := ⟨0, 0, 0, 0, 0⟩

def count (c : SkipCounts) : SkipReason → SkipCounts
  | .malformedKey => { c with malformedKey := c.malformedKey + 1 }
  | .malformedValue => { c with malformedValue := c.malformedValue + 1 }
  | .unknownOperation => { c with unknownOperation := c.unknownOperation + 1 }
  | .missingKey => { c with missingKey := c.missingKey + 1 }
  | .engineFailure => { c with engineFailure := c.engineFailure + 1 }

def total (c : SkipCounts) : Nat :=
  c.malformedKey + c.malformedValue + c.unknownOperation + c.missingKey + c.engineFailure

end SkipCounts

/-- The totals of a replay. Rows whose keys could be read count in `totalOps`, range deletes as
deletes, and of the bytes only those of values that were found or written. -/
structure ReplayStats where
  totalOps : Nat
  getOps : Nat
  putOps : Nat
  deleteOps : Nat
  bytesWritten : UInt64
  bytesRead : UInt64
  skipped : SkipCounts
  deriving DecidableEq, Repr

def ReplayStats.zero : ReplayStats := ⟨0, 0, 0, 0, 0, 0, .zero⟩

structure Replay (σ : Type) where
  engine : σ
  stats : ReplayStats

namespace Replay

variable {σ : Type}

def start (engine : σ) : Replay σ := ⟨engine, .zero⟩

def skip (r : Replay σ) (reason : SkipReason) : Outcome × Replay σ :=
  (.skipped reason, { r with stats.skipped := r.stats.skipped.count reason })

/-- Takes over what the engine has done. -/
def settle (r : Replay σ) : Except EngineError Unit × σ → Outcome × Replay σ
  | (.ok (), engine) => (.applied, { r with engine })
  | (.error _, engine) => { r with engine }.skip .engineFailure

variable [StorageEngine σ]

def perform? (r : Replay σ) (key : Bytes) (value : String) :
    OpKind → Option (Outcome × Replay σ)
  | .get =>
    let r := { r with stats.getOps := r.stats.getOps + 1 }
    match StorageEngine.get r.engine key with
    | (.ok (some found), engine) =>
      (Bytes.addTo? r.stats.bytesRead found.length).map fun bytesRead =>
        (.applied, { r with engine, stats.bytesRead := bytesRead })
    | (.ok none, engine) => some ({ r with engine }.skip .missingKey)
    | (.error _, engine) => some ({ r with engine }.skip .engineFailure)
  | .put =>
    let r := { r with stats.putOps := r.stats.putOps + 1 }
    match Hex.decode value with
    | .error _ => some (r.skip .malformedValue)
    | .ok payload =>
      match r.settle (StorageEngine.put r.engine key payload) with
      | (.applied, r) =>
        (Bytes.addTo? r.stats.bytesWritten payload.length).map fun bytesWritten =>
          (.applied, { r with stats.bytesWritten := bytesWritten })
      | skipped => some skipped
  | .delete =>
    let r := { r with stats.deleteOps := r.stats.deleteOps + 1 }
    some (r.settle (StorageEngine.delete r.engine key))
  | .deleteRange =>
    let r := { r with stats.deleteOps := r.stats.deleteOps + 1 }
    match Hex.decode value with
    | .error _ => some (r.skip .malformedValue)
    | .ok stop => some (r.settle (StorageEngine.deleteRange r.engine key stop))

def step? (r : Replay σ) (row : Row) : Option (Outcome × Replay σ) :=
  match Hex.decode row.key with
  | .error _ => some (r.skip .malformedKey)
  | .ok key =>
    let r := { r with stats.totalOps := r.stats.totalOps + 1 }
    match OpKind.ofName? row.operation with
    | none => some (r.skip .unknownOperation)
    | some kind => r.perform? key row.value kind

def run? (r : Replay σ) : List Row → Option (List Outcome × Replay σ)
  | [] => some ([], r)
  | row :: rows => do
    let (outcome, r) ← r.step? row
    let (outcomes, r) ← r.run? rows
    return (outcome :: outcomes, r)

end Replay

end TrieJournal
