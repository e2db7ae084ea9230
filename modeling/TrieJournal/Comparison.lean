import TrieJournal.Record.Leaves
import TrieJournal.Summary
import TrieJournal.Text.Fixed

/-!
# Comparison with the baseline

All records of the account trie against the baseline, those whose values are leaves. The baseline's
share and the overhead above it are percentages, computed in floating point from the tallies.
-/

namespace TrieJournal

structure Comparison where
  trie : Tally
  baseline : Tally
  deriving DecidableEq, Repr

structure Percentages where
  gets : Float
  puts : Float
  deletes : Float
  getBytes : Float
  putBytes : Float

def percentText (x : Float) : String := s!"{twoPlaces x}%"

namespace Comparison

def count? (c : Comparison) (r : Record) : Option Comparison :=
  if r.inAccountTrie then do
    let trie ← c.trie.count? r
    let baseline ← if r.isAccountLeaf then c.baseline.count? r else some c.baseline
    return ⟨trie, baseline⟩
  else some c

def ofRecords? (records : List Record) : Option Comparison :=
  records.foldlM count? ⟨.zero, .zero⟩

/-- The percentage that `part` is of `whole`, or zero if there is no whole. -/
def percent (part whole : UInt64) : Float :=
  if whole = 0 then 0 else part.toFloat / whole.toFloat * 100

/-- The percentage by which `full` exceeds `base`, or zero if there is no base. -/
def excess (full base : UInt64) : Float :=
  if base = 0 then 0 else (full.toFloat - base.toFloat) / base.toFloat * 100

def combine (f : UInt64 → UInt64 → Float) (s t : Tally) : Percentages where
  gets := f (UInt64.ofNat s.gets) (UInt64.ofNat t.gets)
  puts := f (UInt64.ofNat s.puts) (UInt64.ofNat t.puts)
  deletes := f (UInt64.ofNat s.deletes) (UInt64.ofNat t.deletes)
  getBytes := f s.getBytes t.getBytes
  putBytes := f s.putBytes t.putBytes

def share (c : Comparison) : Percentages := combine percent c.baseline c.trie

def overhead (c : Comparison) : Percentages := combine excess c.trie c.baseline

def row (metric gets puts deletes : String) : String :=
  " ".intercalate [Layout.left 50 metric, Layout.right 23 gets, Layout.right 23 puts,
    Layout.right 10 deletes]

def tallyRow (metric : String) (t : Tally) : String :=
  row metric (Tally.figure t.gets t.getBytes) (Tally.figure t.puts t.putBytes)
    (Decimal.grouped t.deletes)

/-- The rows of percentages, for counts and for bytes, each percentage behind `sign`. Deletes have
no bytes. -/
def percentRows (metric sign : String) (p : Percentages) : List String :=
  let cell x := sign ++ percentText x
  [row (metric ++ " (count)") (cell p.gets) (cell p.puts) (cell p.deletes),
    row (metric ++ " (bytes)") (cell p.getBytes) (cell p.putBytes) "N/A"]

def table (c : Comparison) : String :=
  let double := Layout.rule '=' Tally.tableWidth
  let single := Layout.rule '-' Tally.tableWidth
  Layout.block <|
    [double, "Baseline Comparison (MPT vs Baseline):", double,
      row "Metric" "GET" "PUT" "DELETE", single,
      tallyRow "MPT (PATH_ACCOUNT_TRIE)" c.trie,
      tallyRow "Baseline (Leaf Nodes)" c.baseline, single] ++
    percentRows "Baseline % of MPT" "" c.share ++ [single] ++
    percentRows "MPT overhead vs Baseline" "+" c.overhead

end Comparison

end TrieJournal
