import TrieJournal.CommandLine.Programs
import TrieJournal.Comparison
import TrieJournal.Extraction.Listing
import TrieJournal.Files.LogFile

/-!
# Extraction

The program that splits a log: the records of the account trie go to one new log and those among
them whose values are leaves to another. It prints the summary of all records, the comparison of the
two parts, how many rows do not decode, and, if asked to, the accounts that the leaves hold.
Printing breaks off at a total that does not fit in 64 bits. `Extraction.plan` says what is written
and printed for the text of a log.
-/

namespace TrieJournal

inductive ExtractionError where
  | log (e : LogFileError)
  | unnamed (path : Path)
  | unwritable (path : Path) (e : FileError)
  deriving DecidableEq, Repr

namespace ExtractionError

/-- The message of the error, followed by those of its causes. -/
def chain : ExtractionError → List String
  | log e => "Error reading operation log" :: e.chain
  | unnamed path => [Path.unnamedMessage path]
  | unwritable path e => [s!"Failed to create log {Quoted.fileName path}", e.message]

def numbered (causes : List String) : List String :=
  causes.zipIdx.map fun (cause, n) =>
    let number := Layout.right 5 (toString n)
    s!"{number}: {cause}"

/-- The lines about the causes. One that stands alone has no number. -/
def causeLines : List String → List String
  | [] => []
  | [cause] => ["", "Caused by:", "    " ++ cause]
  | causes => ["", "Caused by:"] ++ numbered causes

def text (e : ExtractionError) : String :=
  match e.chain with
  | [] => ""
  | message :: causes => Layout.block (("Error: " ++ message) :: causeLines causes)

end ExtractionError

/-- What an extraction writes and prints: the records of the account trie, those among them whose
values are leaves, and a text in parts, of which one is missing if its totals do not fit. -/
structure Extraction where
  trie : List Record
  triePath : Path
  leaves : List Record
  leavesPath : Path
  parts : List (Option String)
  deriving DecidableEq, Repr

namespace Extraction

def trieLabel : Bytes := Utf8.encode "MPT"

def leavesLabel : Bytes := Utf8.encode "baseline"

def skippedLines (n : Nat) : List String :=
  if n = 0 then [] else ["", s!"Skipped {Decimal.grouped n} undecodable rows"]

/-- What is printed: the summary but for its total, the total, the comparison, and the rest. -/
def partsOf (options : ExtractOptions) (rows : List Row) : List (Option String) :=
  let records := Log.decodeRows rows
  let summary? := Summary.ofRecords? records
  let skipped := skippedLines (rows.length - records.length)
  let accounts :=
    if options.accounts then
      SeenAccount.listing options.limit.toNat (SeenAccount.ofRecords (Record.leaves records))
    else []
  [summary?.map fun s => Layout.block s.keyspaceLines,
    (summary?.bind Summary.total?).map fun total => Layout.block [Summary.totalLine total, "", ""],
    (Comparison.ofRecords? records).map fun c => Layout.block [c.table],
    some (Layout.block (skipped ++ accounts))]

def pathOf (options : ExtractOptions) (label : Bytes) : Except ExtractionError Path :=
  match Path.derived? options.csv label options.outDir with
  | some path => .ok path
  | none => .error (.unnamed options.csv)

def plan (options : ExtractOptions) (text : Except FileError Bytes) :
    Except ExtractionError Extraction := do
  let rows ← (Log.rowsAt options.csv text).mapError .log
  let trie := Record.accountTrie (Log.decodeRows rows)
  let triePath ← pathOf options trieLabel
  let leavesPath ← pathOf options leavesLabel
  return { trie, triePath, leaves := Record.leaves trie, leavesPath, parts := partsOf options rows }

def whole (x : Extraction) : Bool := x.parts.all Option.isSome

/-- The parts before the first one that is missing. -/
def text (x : Extraction) : String := String.join ((x.parts.takeWhile Option.isSome).filterMap id)

end Extraction

end TrieJournal
