import TrieJournal.CommandLine.EnvFile
import TrieJournal.Comparison
import TrieJournal.Extraction.Run
import TrieJournal.Files.LogFile
import TrieJournal.Main
import TrieJournal.Recorder.Session
import TrieJournal.Report
import TrieJournal.Store.Guarded
import TrieJournal.Trie.Account
import TrieJournal.Proofs.Record.Row
import TrieJournal.Proofs.Log.Lines
import TrieJournal.Proofs.Keyspace.Classify
import TrieJournal.Proofs.Log.Appending
import TrieJournal.Proofs.Recorder.Serving
import TrieJournal.Proofs.Lookup
import TrieJournal.Proofs.Store.Contents
import TrieJournal.Proofs.Recorder.Transparency
import TrieJournal.Proofs.Replay.Rows
import TrieJournal.Proofs.Recorder.Recorded
import TrieJournal.Proofs.Replay.Mirror
import TrieJournal.Proofs.Replay.RecordedRun
import TrieJournal.Proofs.Log.Crash
import TrieJournal.Proofs.Log.RoundTrip
import TrieJournal.Proofs.Log.Keeping
import TrieJournal.Proofs.Recorder.Noting
import TrieJournal.Proofs.Recorder.Batching
import TrieJournal.Proofs.Recorder.Blocks
import TrieJournal.Proofs.Recorder.Conservation
import TrieJournal.Proofs.Recorder.Losses
import TrieJournal.Proofs.Recorder.Integrity
import TrieJournal.Proofs.Recorder.Baseline
import TrieJournal.Proofs.Rlp.RoundTrip
import TrieJournal.Proofs.Trie.RoundTrip
import TrieJournal.Proofs.Record.AccountLeaf
import TrieJournal.Proofs.Files.Writing
import TrieJournal.Proofs.Extraction.Again
import TrieJournal.Proofs.Record.Decoding
import TrieJournal.Proofs.Replay.Steps
import TrieJournal.Proofs.Replay.Rewriting
import TrieJournal.Proofs.Replay.Bookkeeping
import TrieJournal.Proofs.Replay.Skipping
import TrieJournal.Proofs.Summary.Agreement
import TrieJournal.Proofs.Store.Serving
import TrieJournal.Proofs.Store.History
import TrieJournal.Proofs.Log.Independence
import TrieJournal.Proofs.Recorder.Queueing
import TrieJournal.Proofs.Rlp.Items
import TrieJournal.Proofs.Trie.Shape
import TrieJournal.Proofs.Trie.Delimited
import TrieJournal.Proofs.Rlp.Terms
import TrieJournal.Proofs.Reading
import TrieJournal.Proofs.Rlp.Canonical
import TrieJournal.Proofs.Trie.Account
import TrieJournal.Proofs.Trie.Inverse
import TrieJournal.Proofs.Record.Refusal
import TrieJournal.Proofs.Record.Payload
import TrieJournal.Proofs.Rlp.Numbers
import TrieJournal.Proofs.Rlp.Headers
import TrieJournal.Proofs.Keyspace.Rules
import TrieJournal.Proofs.Text.Grammar
import TrieJournal.Proofs.Record.Grammar
import TrieJournal.Proofs.Summary.Partition
import TrieJournal.Proofs.Summary.Overflow
import TrieJournal.Proofs.Log.Counting
import TrieJournal.Proofs.CommandLine.Flags
import TrieJournal.Proofs.Text.Digits
import TrieJournal.Proofs.Text.Trimming
import TrieJournal.Proofs.Text.Grouping
import TrieJournal.Proofs.Record.Parsing
import TrieJournal.Proofs.Extraction.Balances
import TrieJournal.Proofs.Files.Components
import TrieJournal.Proofs.Extraction.Outputs
