import TrieJournal.CommandLine.EnvFile
import TrieJournal.Extraction.Plan

/-!
# Running an extraction

The extracting program in a directory tree: it takes variables from a file, reads its arguments and
its log, and writes both new logs. It ends with code 0 if all went well or help was asked for, with
code 1 if a file could not be read or written, with code 2 if its arguments are not accepted, and
with code 101 if a variable cannot be set or a total does not fit.
-/

namespace TrieJournal

namespace Extraction

/-- How a run of the program ends: its exit code, what it has printed, and the files afterwards. -/
structure Result where
  code : Nat
  output : String
  errors : String
  tree : Tree
  deriving DecidableEq, Repr

def Result.failed (e : ExtractionError) (t : Tree) : Result := ⟨1, "", e.text, t⟩

def finish (x : Extraction) (t : Tree) : Result :=
  if x.whole then ⟨0, x.text, "", t⟩ else ⟨101, x.text, "a total does not fit in 64 bits\n", t⟩

/-- Writes the two logs, the one of the account trie first. -/
def write (x : Extraction) (t : Tree) : Result :=
  match t.writeLog x.triePath x.trie with
  | .error e => .failed (.unwritable x.triePath e) t
  | .ok t =>
    match t.writeLog x.leavesPath x.leaves with
    | .error e => .failed (.unwritable x.leavesPath e) t
    | .ok t => x.finish t

def envFileName : Path := Utf8.encode ".env"

def usage : String :=
  "Usage: kv_extract --csv <CSV> [--out-dir <OUT_DIR>] [--accounts] [--limit <LIMIT>]"

def Result.halted (h : Halt) (t : Tree) : Result :=
  match h with
  | .help => ⟨0, usage ++ "\n", "", t⟩
  | .version => ⟨0, s!"{packageName} {versionText}\n", "", t⟩
  | .usage _ => ⟨2, "", usage ++ "\n", t⟩

def Result.unset (t : Tree) : Result :=
  ⟨101, "", "failed to set environment variable: it holds a null character\n", t⟩

/-- The environment with what the file of variables adds to it, if there is such a file. Fails with
`none` at a variable that cannot be set. -/
def environment? (env : Environment) (file : Except FileError Bytes) : Option Environment :=
  match file with
  | .ok file => EnvFile.load? env file
  | .error _ => some env

/-- Runs the program in a directory tree. The first of the arguments is the program's name. -/
def run (env : Environment) (args : List Bytes) (t : Tree) : Result :=
  match environment? env (t.read envFileName) with
  | none => .unset t
  | some env =>
    match ExtractOptions.parse env args with
    | .error h => .halted h t
    | .ok options =>
      match plan options (t.read options.csv) with
      | .error e => .failed e t
      | .ok x => x.write t

end Extraction

end TrieJournal
