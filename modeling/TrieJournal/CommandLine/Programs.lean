import TrieJournal.CommandLine.Arguments
import TrieJournal.Files.Path

/-!
# The programs' arguments

What the two programs are told on their command lines: which log to replay, and into which store;
which log to split, and where to put its parts. The replaying program takes long flags behind one
dash.
-/

namespace TrieJournal

/-- What the replaying program is told: the log, the directory of the store, whether that is emptied
first, and whether the report is in JSON. -/
structure ReplayOptions where
  csv : Path
  db : Path
  clean : Bool
  json : Bool
  deriving DecidableEq, Repr

namespace ReplayOptions

def specs : List ArgumentSpec :=
  [⟨"csv", .path, some "KV_REPLAY_CSV", true⟩, ⟨"db", .path, some "KV_REPLAY_DB", true⟩,
    ⟨"clean", .none, none, false⟩, ⟨"json", .none, none, false⟩]

def parse (env : Environment) (args : List Bytes) : Except Halt ReplayOptions := do
  let names := specs.map fun spec => Utf8.encode spec.name
  let a ← Arguments.parse specs env (Flags.normalize names args)
  return {
    csv := (a.lookup "csv").getD []
    db := (a.lookup "db").getD []
    clean := a.given "clean"
    json := a.given "json" }

end ReplayOptions

/-- What the extracting program is told: the log, the directory of the new logs if it is another
one, whether accounts are listed, and how many. -/
structure ExtractOptions where
  csv : Path
  outDir : Option Path
  accounts : Bool
  limit : UInt64
  deriving DecidableEq, Repr

namespace ExtractOptions

def specs : List ArgumentSpec :=
  [⟨"csv", .path, some "KV_EXTRACT_CSV", true⟩, ⟨"out-dir", .path, none, false⟩,
    ⟨"accounts", .none, none, false⟩, ⟨"limit", .count, none, false⟩]

def defaultLimit : UInt64 := 20

def parse (env : Environment) (args : List Bytes) : Except Halt ExtractOptions := do
  let a ← Arguments.parse specs env args
  return {
    csv := (a.lookup "csv").getD []
    outDir := a.lookup "out-dir"
    accounts := a.given "accounts"
    limit := ((a.lookup "limit").bind Arguments.countOf?).getD defaultLimit }

end ExtractOptions

def packageName : String := "kv_tools"

def versionText : String := s!"{packageName} 0.1.0"

end TrieJournal
