import TrieJournal.Record.Row

/-!
# Reading logs

Each line of a log stands for itself. Lines that are not UTF-8, lines with too few columns and
headers, wherever they stand, hold no row; a row need not decode.
-/

namespace TrieJournal.Log

def rowOfLine? (line : Bytes) : Option Row := do
  let text ← Utf8.decode? line
  let row ← Row.parseLine? text
  if row.isHeader then none else some row

def rows (log : Bytes) : List Row := (Bytes.lines log).filterMap rowOfLine?

def decodeRows (rows : List Row) : List Record := rows.filterMap fun row => row.decode.toOption

def records (log : Bytes) : List Record := decodeRows (rows log)

end TrieJournal.Log
