import TrieJournal.Record.Basic
import TrieJournal.Text.Blank
import TrieJournal.Text.Decimal
import TrieJournal.Text.Hex

/-!
# Rows

A log line holds six columns of text, separated by commas. `Row.parseLine?` cuts a line into the
texts of its columns and `Row.decode` reads these as a record; `Row.ofRecord` and `Row.render` go
the other way. Blanks and double quotes around a column are dropped, and columns after the sixth
are ignored. Decoding reports the leftmost column that cannot be read.
-/

namespace TrieJournal

inductive Column where
  | operation
  | key
  | value
  | keySize
  | valueSize
  | keyspace
  deriving DecidableEq, Repr

def Column.name : Column → String
  | operation => "Operation"
  | key => "KeyHex"
  | value => "ValueHex"
  | keySize => "KeySize"
  | valueSize => "ValueSize"
  | keyspace => "Type"

/-- The texts of the columns of a line. Key and value are in hex. -/
structure Row where
  operation : String
  key : String
  value : String
  keySize : String
  valueSize : String
  keyspace : String
  deriving DecidableEq, Repr

inductive RecordError where
  | unknownOperation (text : String)
  | notHex (column : Column) (e : HexError)
  | notSize (column : Column) (text : String)
  | unknownKeyspace (text : String)
  deriving DecidableEq, Repr

def RecordError.message : RecordError → String
  | .unknownOperation text => s!"Unknown operation: {Quoted.text text}"
  | .notHex column e => s!"Column {column.name} is not valid hex: {e.message}"
  | .notSize column text => s!"Column {column.name} is not a byte count: {Quoted.text text}"
  | .unknownKeyspace text => Keyspace.unknownMessage text

namespace Row

def texts (r : Row) : List String :=
  [r.operation, r.key, r.value, r.keySize, r.valueSize, r.keyspace]

def header : Row where
  operation := Column.operation.name
  key := Column.key.name
  value := Column.value.name
  keySize := Column.keySize.name
  valueSize := Column.valueSize.name
  keyspace := Column.keyspace.name

/-- Whether the row is a header, by its first two columns. -/
def isHeader (r : Row) : Bool :=
  r.operation = Column.operation.name && r.key = Column.key.name

def render (r : Row) : String := ",".intercalate r.texts

/-- The text of a column, without the blanks around it and then without the quotes around that. -/
def cleanField (field : List Char) : String :=
  String.ofList (Blank.trimBoth (· = '"') (Blank.trim field))

/-- The row of a line, or `none` if it has fewer than six columns. -/
def parseLine? (line : String) : Option Row :=
  let body := dropRightWhile (fun c => c = '\r' || c = '\n') line.toList
  match (splitOn ',' body).map cleanField with
  | operation :: key :: value :: keySize :: valueSize :: keyspace :: _ =>
    some { operation, key, value, keySize, valueSize, keyspace }
  | _ => none

def decodeKind (text : String) : Except RecordError OpKind :=
  match OpKind.ofName? text with
  | some kind => .ok kind
  | none => .error (.unknownOperation text)

/-- Reads a value. An empty column stands for no value. -/
def decodeValue (text : String) : Except RecordError (Option Bytes) :=
  if text.isEmpty then .ok none
  else ((Hex.decode text).mapError (.notHex .value)).map some

def decodeSize (column : Column) (text : String) : Except RecordError UInt64 :=
  match Decimal.word? text with
  | some n => .ok n
  | none => .error (.notSize column text)

def decodeKeyspace (text : String) : Except RecordError Keyspace :=
  match Keyspace.ofWireName? text with
  | some k => .ok k
  | none => .error (.unknownKeyspace text)

/-- Reads all columns, from left to right. -/
def decode (r : Row) : Except RecordError Record := do
  let kind ← decodeKind r.operation
  let key ← (Hex.decode r.key).mapError (.notHex .key)
  let value ← decodeValue r.value
  let keySize ← decodeSize .keySize r.keySize
  let valueSize ← decodeSize .valueSize r.valueSize
  let keyspace ← decodeKeyspace r.keyspace
  return { kind, key, value, keySize, valueSize, keyspace }

def ofRecord (r : Record) : Row where
  operation := r.kind.name
  key := Hex.encode r.key
  value := (r.value.map Hex.encode).getD ""
  keySize := toString r.keySize.toNat
  valueSize := toString r.valueSize.toNat
  keyspace := r.keyspace.name

end Row

def Record.line (r : Record) : String := (Row.ofRecord r).render

end TrieJournal
