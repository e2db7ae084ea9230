import TrieJournal.Extraction.Run

/-!
# The extracting program

Reads its log, writes the logs derived from it and prints what the extraction tells.
-/

namespace TrieJournal.Main

def notDirectoryCode : UInt32 := 20

def nameTooLongCode : UInt32 := 36

/-- Whether a number of an error is one of the system's, which may come negated. -/
def isCode (expected code : UInt32) : Bool := code = expected || code = 0 - expected

def fileError : IO.Error → FileError
  | .noFileOrDirectory .. => .notFound
  | .inappropriateType _ code _ =>
    if isCode notDirectoryCode code then .notDirectory else .isDirectory
  | .invalidArgument _ code _ =>
    if isCode nameTooLongCode code then .nameTooLong else .invalidInput
  | _ => .invalidInput

def nameOf (path : Path) : String := Utf8.lossy path

def readFile (path : Path) : IO (Except FileError Bytes) := do
  match ← (IO.FS.readBinFile (nameOf path)).toBaseIO with
  | .ok text => return .ok text.toList
  | .error e => return .error (fileError e)

def writeLog (path : Path) (records : List Record) : IO (Except ExtractionError Unit) := do
  match ← (IO.FS.writeBinFile (nameOf path) (Log.render records).toByteArray).toBaseIO with
  | .ok () => return .ok ()
  | .error e => return .error (.unwritable path (fileError e))

def fail (e : ExtractionError) : IO UInt32 := do
  IO.eprint e.text
  return 1

def halt (r : Extraction.Result) : IO UInt32 := do
  IO.print r.output
  IO.eprint r.errors
  return UInt32.ofNat r.code

def finish (x : Extraction) : IO UInt32 := do
  match ← writeLog x.triePath x.trie with
  | .error e => fail e
  | .ok () =>
    match ← writeLog x.leavesPath x.leaves with
    | .error e => fail e
    | .ok () => halt (x.finish .empty)

/-- The variables that the program looks at. -/
def environment : IO Environment :=
  ExtractOptions.specs.filterMapM fun spec => do
    match spec.fallback? with
    | none => return none
    | some name => return (← IO.getEnv name).map fun value => (name, value)

end TrieJournal.Main

open TrieJournal TrieJournal.Main in
def main (args : List String) : IO UInt32 := do
  match Extraction.environment? (← environment) (← readFile Extraction.envFileName) with
  | none => halt (.unset .empty)
  | some env =>
    match ExtractOptions.parse env ("kv_extract" :: args |>.map Utf8.encode) with
    | .error h => halt (.halted h .empty)
    | .ok options =>
      match Extraction.plan options (← readFile options.csv) with
      | .error e => fail e
      | .ok x => finish x
