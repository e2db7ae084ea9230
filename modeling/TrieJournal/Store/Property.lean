import TrieJournal.Text.Decimal

/-!
# Engine properties

Figures that a storage engine may report about itself, some of them for each level of its tables.
-/

namespace TrieJournal

/-- A figure that an engine may report. -/
inductive Property where
  | stats
  | tables
  | filesAtLevel (level : Nat)
  | blockCacheUsage
  | memoryUsage
  | ioStats
  | compactionCount
  | writeAmplification
  | bytesAtLevel (level : Nat)
  deriving DecidableEq, Repr

namespace Property

def levels : List Nat := List.range 7

def reported : List Property :=
  [stats, tables] ++ levels.map filesAtLevel ++
    [blockCacheUsage, memoryUsage, ioStats, compactionCount, writeAmplification] ++
    levels.map bytesAtLevel

def title : Property → String
  | stats => "Stats"
  | tables => "SSTables"
  | filesAtLevel level => s!"Files at Level {level}"
  | blockCacheUsage => "Block Cache Usage"
  | memoryUsage => "Approximate Memory Usage"
  | ioStats => "I/O Stats"
  | compactionCount => "Compaction Count"
  | writeAmplification => "Write Amplification"
  | bytesAtLevel level => s!"Size at Level {level}"

end Property

end TrieJournal
