import TrieJournal.Replay
import TrieJournal.Text.Fixed
import TrieJournal.Text.Decimal

/-!
# Reports

What is known about an engine after a replay: the figures that it reports about itself, the size of
its directory, the number of its keys and the totals of the replay.
-/

namespace TrieJournal

structure Report where
  figures : List (Property × String)
  diskSize? : Option Nat
  keyCount : Nat
  replay : ReplayStats

/-- Asks an engine for figures about itself and lists those that it reports. -/
def StorageEngine.figures {σ : Type} [StorageEngine σ] (engine : σ) :
    List Property → List (Property × String) × σ
  | [] => ([], engine)
  | p :: rest =>
    let (text?, engine) := property? engine p
    let (figures, engine) := figures engine rest
    ((text?.map fun text => (p, text)).toList ++ figures, engine)

namespace Report

/-- Asks an engine for everything that a report tells. `sizeOf` sizes a directory. -/
def collect {σ : Type} [StorageEngine σ] (engine : σ) (sizeOf : Bytes → Option Nat)
    (replay : ReplayStats) : Except EngineError Report × σ :=
  let (figures, engine) := StorageEngine.figures engine Property.reported
  let (path?, engine) := StorageEngine.path? engine
  let (keyCount, engine) := StorageEngine.keyCount engine
  (keyCount.map fun keyCount => ⟨figures, path?.bind sizeOf, keyCount, replay⟩, engine)

def figure? (r : Report) (p : Property) : Option String := r.figures.lookup p

def width : Nat := 100

def chapter (title : String) : List String := [Layout.rule '=' width, title, Layout.rule '=' width]

def sectionHead (title : String) : List String :=
  [Layout.rule '-' width, "", title ++ ":", Layout.rule '-' width]

def line (r : Report) (p : Property) (render : String → String) : List String :=
  ((r.figure? p).map render).toList

def levelLines (r : Report) (p : Nat → Property) (render : Nat → String → Option String) :
    List String :=
  Property.levels.filterMap fun level => (r.figure? (p level)).bind (render level)

def filesLine (level : Nat) (files : String) : Option String := some s!"Level {level}: {files}"

def bytesLine (level : Nat) (size : String) : Option String :=
  if size = "" ∨ size = "0" then none else some s!"  Level {level}: {size} bytes"

/-- The line about the directory. A megabyte is 1024 times 1024 bytes. -/
def diskLine (size : Nat) : String :=
  let megabytes := (UInt64.ofNat size).toFloat / (1024 * 1024)
  s!"Database Size on Disk: {size} bytes ({twoPlaces megabytes} MB)"

def engineLines (r : Report) : List String :=
  chapter "Storage Engine Internal Statistics" ++ r.line .stats id ++
  sectionHead "SSTable Statistics" ++ r.line .tables id ++
  sectionHead "Files Per Level" ++ r.levelLines .filesAtLevel filesLine ++
  sectionHead "Memory Usage" ++ r.line .blockCacheUsage (fun v => s!"Block Cache: {v}") ++
  r.line .memoryUsage (fun v => s!"Approximate Memory Usage: {v} bytes") ++
  sectionHead "I/O Statistics" ++ r.line .ioStats id ++
  sectionHead "Compaction Statistics" ++
  r.line .compactionCount (fun v => s!"Compaction Count: {v}") ++
  r.line .writeAmplification (fun v => s!"Write Amplification: {v}")

def storageLines (r : Report) : List String :=
  chapter "Storage Information" ++ (r.diskSize?.map diskLine).toList ++
  [s!"Total Keys in Database: {r.keyCount}", "", "Size Per Level:"] ++
  r.levelLines .bytesAtLevel bytesLine

def replayLines (r : Report) : List String :=
  let s := r.replay
  let counts :=
    [s!"GET: {Decimal.grouped s.getOps}", s!"PUT: {Decimal.grouped s.putOps}",
      s!"DELETE: {Decimal.grouped s.deleteOps}"]
  chapter "Replay Statistics" ++
  [s!"Total Operations: {Decimal.grouped s.totalOps}", "  ".intercalate counts,
    s!"Bytes Written: {Decimal.grouped s.bytesWritten.toNat}",
    s!"Bytes Read: {Decimal.grouped s.bytesRead.toNat}",
    s!"Skipped: {Decimal.grouped s.skipped.total}"]

/-- The report as text, without a newline at its end. There is none if the skipped rows add up to a
number of more than 64 bits. -/
def text? (r : Report) : Option String :=
  if r.replay.skipped.total < UInt64.size then
    some ("\n".intercalate (r.engineLines ++ r.storageLines ++ r.replayLines))
  else none

end Report

end TrieJournal
