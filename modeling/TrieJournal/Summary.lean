import TrieJournal.Tally
import TrieJournal.Text.Decimal
import TrieJournal.Text.Layout

/-!
# Summaries

The tallies of the records of a log, keyspace by keyspace, as a table and in compact JSON. A
keyspace has an entry once it has a record, and the entries stand in the order of the keyspaces. The
table lists the keyspaces that have a name in a log, with or without records; its last row adds up
all entries.
-/

namespace TrieJournal

structure Summary where
  entries : List (Keyspace × Tally)
  deriving DecidableEq, Repr

namespace Summary

def empty : Summary := ⟨[]⟩

/-- Puts the tally of a keyspace among the entries, in place of the one that it has. -/
def setEntry (k : Keyspace) (t : Tally) : List (Keyspace × Tally) → List (Keyspace × Tally)
  | [] => [(k, t)]
  | (other, u) :: rest =>
    if k = other then (k, t) :: rest
    else if k.rank < other.rank then (k, t) :: (other, u) :: rest
    else (other, u) :: setEntry k t rest

def tally (s : Summary) (k : Keyspace) : Tally := (s.entries.lookup k).getD Tally.zero

def count? (s : Summary) (r : Record) : Option Summary :=
  ((s.tally r.keyspace).count? r).map fun t => ⟨setEntry r.keyspace t s.entries⟩

def ofRecords? (records : List Record) : Option Summary := records.foldlM count? empty

/-- The sum of all entries, added up in their order. -/
def total? (s : Summary) : Option Tally := s.entries.foldlM (fun t e => t.add? e.2) .zero

end Summary

def Tally.tableWidth : Nat := 120

def Tally.figure (count : Nat) (bytes : UInt64) : String :=
  s!"{Decimal.grouped count} ({Decimal.grouped bytes.toNat}B)"

namespace Summary

def row (name description gets puts deletes : String) : String :=
  " ".intercalate [Layout.left 25 name, Layout.left 25 description, Layout.right 23 gets,
    Layout.right 23 puts, Layout.right 10 deletes]

def tallyRow (name description : String) (t : Tally) : String :=
  row name description (Tally.figure t.gets t.getBytes) (Tally.figure t.puts t.putBytes)
    (Decimal.grouped t.deletes)

def keyspaceLines (s : Summary) : List String :=
  [Layout.rule '=' Tally.tableWidth, "Summary Table (by Type):", Layout.rule '=' Tally.tableWidth,
    row "Type" "Description" "GET" "PUT" "DELETE", Layout.rule '-' Tally.tableWidth] ++
  Keyspace.classified.map (fun k => tallyRow k.name k.description (s.tally k)) ++
  [Layout.rule '-' Tally.tableWidth]

def totalLine (total : Tally) : String := tallyRow "TOTAL" "All Operations" total

def table? (s : Summary) : Option String :=
  s.total?.map fun total => Layout.block (s.keyspaceLines ++ [totalLine total])

end Summary

def jsonObject (members : List (String × String)) : String :=
  "\x7b" ++ ",".intercalate (members.map fun (name, value) => s!"\"{name}\":{value}") ++ "\x7d"

def Tally.json (t : Tally) : String :=
  jsonObject [("gets", toString t.gets), ("puts", toString t.puts),
    ("deletes", toString t.deletes), ("get_bytes", toString t.getBytes.toNat),
    ("put_bytes", toString t.putBytes.toNat)]

/-- Why a summary has no JSON form: unclassified records have no name. -/
inductive SummaryJsonError where
  | unnamedKeyspace
  deriving DecidableEq, Repr

def SummaryJsonError.message : SummaryJsonError → String
  | .unnamedKeyspace => "the enum variant Namespace::Unclassified cannot be serialized"

namespace Summary

def jsonMember (k : Keyspace) (t : Tally) : Except SummaryJsonError (String × String) :=
  match k.wireName? with
  | some name => .ok (name, t.json)
  | none => .error .unnamedKeyspace

def json (s : Summary) : Except SummaryJsonError String :=
  (s.entries.mapM fun (k, t) => jsonMember k t).map fun members =>
    jsonObject [("by_namespace", jsonObject members)]

end Summary

end TrieJournal
