import TrieJournal.Files.Tree
import TrieJournal.Log.Reader
import TrieJournal.Log.Writer

/-!
# Log files

Logs as files of a directory tree: written anew, continued, and read as a whole. A log without a
single row cannot be read.
-/

namespace TrieJournal

inductive LogFileError where
  | unreadable (path : Path) (e : FileError)
  | noRows (path : Path)
  deriving DecidableEq, Repr

namespace LogFileError

def message : LogFileError → String
  | unreadable path e => s!"Failed to read operation log {Quoted.fileName path}: {e.message}"
  | noRows path => s!"Operation log {Quoted.fileName path} has no data rows"

def chain (e : LogFileError) : List String :=
  match e with
  | unreadable _ cause => [e.message, cause.message]
  | noRows _ => [e.message]

end LogFileError

namespace Log

def rowsAt (path : Path) (text : Except FileError Bytes) : Except LogFileError (List Row) :=
  match text with
  | .error e => .error (.unreadable path e)
  | .ok log => if (rows log).isEmpty then .error (.noRows path) else .ok (rows log)

end Log

namespace Tree

/-- Writes a new log, in place of a file that is there. -/
def writeLog (t : Tree) (path : Path) (records : List Record) : Except FileError Tree :=
  t.write path (Log.render records)

/-- Opens a log for more records, or a new one, and appends records. -/
def continueLog (t : Tree) (path : Path) (records : List Record) : Except FileError Tree :=
  t.update path (Log.continued · records)

def readLog (t : Tree) (path : Path) : Except LogFileError (List Row) :=
  Log.rowsAt path (t.read path)

end Tree

end TrieJournal
