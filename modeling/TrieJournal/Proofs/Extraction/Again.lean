import TrieJournal.Extraction.Run
import TrieJournal.Proofs.Files.Writing
import TrieJournal.Proofs.Log.Lines
import TrieJournal.Proofs.Summary.Partition

/-!
# Extracting again

However a log was written, an extraction writes its records in one form: what is read back from the
new logs is written as the same bytes, and the records that were selected are selected again. The
totals of a part fit if those of the whole do. So an extraction from one of its own logs gives that
log and the leaves in it once more.
-/

namespace TrieJournal

/-! ### Records that are read back -/

namespace Record

/-- No node is empty, so it does not matter that an empty value is read back as none. -/
theorem isAccountLeaf_asRead (r : Record) : r.asRead.isAccountLeaf = r.isAccountLeaf := by
  by_cases empty : r.value = some []
  · have noNode : (Node.decode []).toOption = none := rfl
    rw [asRead, if_pos empty]
    simp only [isAccountLeaf, empty, Option.any_none, Option.any_some, noNode, Bool.and_false]
  · rw [asRead_eq_iff.mpr empty]

theorem leaves_asRead (records : List Record) :
    leaves (records.map asRead) = (leaves records).map asRead := by
  have same : isAccountLeaf ∘ asRead = isAccountLeaf := funext isAccountLeaf_asRead
  rw [leaves, List.filter_map, same, leaves]

theorem leaves_leaves (records : List Record) : leaves (leaves records) = leaves records :=
  List.filter_eq_self.mpr fun _ mem => (List.mem_filter.mp mem).2

theorem sum_asRead (f : Figure) (records : List Record) :
    f.sum (records.map asRead) = f.sum records := by
  have same : f.weight ∘ asRead = f.weight := rfl
  rw [Figure.sum, List.map_map, same, Figure.sum]

def InAccountTrie (records : List Record) : Prop := ∀ r ∈ records, r.inAccountTrie = true

theorem inAccountTrie_accountTrie (records : List Record) : InAccountTrie (accountTrie records) :=
  fun _ mem => (List.mem_filter.mp mem).2

theorem InAccountTrie.leaves {records : List Record} (within : InAccountTrie records) :
    InAccountTrie (Record.leaves records) :=
  fun r mem => within r (List.mem_filter.mp mem).1

theorem InAccountTrie.classified {records : List Record} (within : InAccountTrie records) :
    ∀ r ∈ records, r.keyspace.isClassified = true := by
  intro r mem
  have keyspace : r.keyspace = .accountTrie := of_decide_eq_true (within r mem)
  rw [keyspace]
  rfl

end Record

namespace Log

theorem render_asRead (records : List Record) :
    render (records.map Record.asRead) = render records := by
  have line (r : Record) : recordLine r.asRead = recordLine r := by
    rw [recordLine, Record.line, Row.ofRecord_asRead, recordLine, Record.line]
  simp only [render, List.flatMap_map, line]

theorem accountTrie_render {records : List Record} (within : Record.InAccountTrie records) :
    Record.accountTrie (Log.records (render records)) = records.map Record.asRead := by
  rw [records_render within.classified]
  refine List.filter_eq_self.mpr fun r mem => ?_
  obtain ⟨written, among, rfl⟩ := List.mem_map.mp mem
  exact within written among

end Log

namespace Extraction

/-! ### The two logs made of a log -/

def trieLog (log : Bytes) : Bytes := Log.render (Record.accountTrie (Log.records log))

def leavesLog (log : Bytes) : Bytes :=
  Log.render (Record.leaves (Record.accountTrie (Log.records log)))

section

variable {records : List Record} (within : Record.InAccountTrie records)

include within

theorem fit_render (fit : Record.Fit records) : Record.Fit (Log.records (Log.render records)) := by
  intro f bytes
  rw [Log.records_render within.classified, Record.sum_asRead]
  exact fit f bytes

theorem trieLog_render : trieLog (Log.render records) = Log.render records := by
  rw [trieLog, Log.accountTrie_render within, Log.render_asRead]

theorem leavesLog_render :
    leavesLog (Log.render records) = Log.render (Record.leaves records) := by
  rw [leavesLog, Log.accountTrie_render within, Record.leaves_asRead, Log.render_asRead]

theorem decode_of_mem_rows_render {row : Row} (mem : row ∈ Log.rows (Log.render records)) :
    ∃ r, row.decode = .ok r := by
  rw [Log.rows_render] at mem
  obtain ⟨r, among, rfl⟩ := List.mem_map.mp mem
  exact ⟨r.asRead, Row.decode_ofRecord (within.classified r among)⟩

end

variable (log : Bytes)

theorem trieLog_trieLog : trieLog (trieLog log) = trieLog log :=
  trieLog_render (Record.inAccountTrie_accountTrie _)

theorem leavesLog_trieLog : leavesLog (trieLog log) = leavesLog log :=
  leavesLog_render (Record.inAccountTrie_accountTrie _)

theorem trieLog_leavesLog : trieLog (leavesLog log) = leavesLog log :=
  trieLog_render (Record.inAccountTrie_accountTrie _).leaves

theorem leavesLog_leavesLog : leavesLog (leavesLog log) = leavesLog log := by
  have again := leavesLog_render (Record.inAccountTrie_accountTrie (Log.records log)).leaves
  rwa [Record.leaves_leaves] at again

theorem rows_leavesLog_sublist : (Log.rows (leavesLog log)).Sublist (Log.rows (trieLog log)) := by
  rw [leavesLog, trieLog, Log.rows_render, Log.rows_render]
  exact List.filter_sublist.map Row.ofRecord

/-! ### Names of the new logs -/

theorem pathOf_eq {options : ExtractOptions} {directory : Path} {name : Bytes}
    (split : options.csv.split? = some (directory, name)) (label : Bytes) :
    pathOf options label =
      .ok (Path.join (options.outDir.getD directory) (label ++ 0x5F :: name)) := by
  rw [pathOf, Path.derived?, split]
  rfl

theorem separator_not_mem_labelled {label name : Bytes} (plain : Path.separator ∉ label)
    (whole : Path.separator ∉ name) : Path.separator ∉ label ++ 0x5F :: name := by
  simp only [List.mem_append, List.mem_cons, not_or]
  exact ⟨plain, by decide, whole⟩

theorem getLast?_labelled {label : Bytes} (plain : Path.separator ∉ label) (directory : Path)
    {name : Bytes} (whole : Path.separator ∉ name) :
    (Path.join directory (label ++ 0x5F :: name)).segments.getLast? =
      some (label ++ 0x5F :: name) :=
  Path.getLast?_segments_join directory (separator_not_mem_labelled plain whole)

theorem names_ne (directory : Path) {name : Bytes} (whole : Path.separator ∉ name) :
    (Path.join directory (trieLabel ++ 0x5F :: name)).segments.getLast? ≠
      (Path.join directory (leavesLabel ++ 0x5F :: name)).segments.getLast? := by
  rw [getLast?_labelled (by decide) directory whole, getLast?_labelled (by decide) directory whole]
  intro same
  have lengths := congrArg List.length (Option.some.inj same)
  rw [List.length_append, List.length_append] at lengths
  exact absurd (Nat.add_right_cancel lengths) (by decide)

/-! ### Runs of the program -/

theorem rows_of_plan {options : ExtractOptions} {text : Except FileError Bytes} {x : Extraction}
    (planned : plan options text = .ok x) :
    ∃ log, text = .ok log ∧ Log.rows log ≠ [] ∧ x.parts = partsOf options (Log.rows log) := by
  cases text with
  | error e => cases planned
  | ok log =>
    by_cases none : Log.rows log = []
    · simp only [plan, Log.rowsAt, none] at planned
      cases planned
    · rw [plan, Log.rowsAt, if_neg (by simpa using none)] at planned
      cases triePath : pathOf options trieLabel with
      | error e =>
        rw [triePath] at planned
        cases planned
      | ok p =>
        cases leavesPath : pathOf options leavesLabel with
        | error e =>
          rw [triePath, leavesPath] at planned
          cases planned
        | ok q =>
          rw [triePath, leavesPath] at planned
          cases planned
          exact ⟨log, rfl, none, rfl⟩

theorem plan_of_rows {options : ExtractOptions} {log : Bytes} (some : Log.rows log ≠ [])
    {p q : Path} (triePath : pathOf options trieLabel = .ok p)
    (leavesPath : pathOf options leavesLabel = .ok q) :
    let trie := Record.accountTrie (Log.records log)
    plan options (.ok log) =
      .ok ⟨trie, p, Record.leaves trie, q, partsOf options (Log.rows log)⟩ := by
  rw [plan, Log.rowsAt, if_neg (by simpa using some), triePath, leavesPath]
  rfl

/-- Everything is printed if and only if the totals fit. -/
theorem whole_iff {x : Extraction} {options : ExtractOptions} {log : Bytes}
    (parts : x.parts = partsOf options (Log.rows log)) :
    x.whole = true ↔ Record.Fit (Log.records log) := by
  have records : Log.decodeRows (Log.rows log) = Log.records log := rfl
  rw [whole, parts, partsOf, records]
  simp only [List.all_cons, List.all_nil, Option.isSome_map, Option.isSome_some, Bool.and_true,
    Bool.and_eq_true, Option.isSome_iff_exists, Option.bind_eq_some_iff]
  constructor
  · rintro ⟨-, ⟨t, s, summed, added⟩, -⟩
    exact Summary.fit_of_total? summed added
  · intro fit
    obtain ⟨s, t, -, summed, added, -⟩ := Summary.exists_total? fit
    exact ⟨⟨s, summed⟩, ⟨t, s, summed, added⟩,
      Comparison.exists_ofRecords?.mpr (fit.sublist List.filter_sublist)⟩

section

variable {x : Extraction} {t t' : Tree} {e : FileError}

theorem write_of_trie_error (refused : t.write x.triePath (Log.render x.trie) = .error e) :
    x.write t = .failed (.unwritable x.triePath e) t := by
  simp only [write, Tree.writeLog, refused]

theorem write_of_leaves_error (written : t.write x.triePath (Log.render x.trie) = .ok t')
    (refused : t'.write x.leavesPath (Log.render x.leaves) = .error e) :
    x.write t = .failed (.unwritable x.leavesPath e) t' := by
  simp only [write, Tree.writeLog, written, refused]

theorem write_of_ok {t'' : Tree} (written : t.write x.triePath (Log.render x.trie) = .ok t')
    (written' : t'.write x.leavesPath (Log.render x.leaves) = .ok t'') :
    x.write t = x.finish t'' := by
  simp only [write, Tree.writeLog, written, written']

theorem tree_finish (x : Extraction) (t : Tree) : (x.finish t).tree = t := by
  rw [finish]
  split <;> rfl

theorem code_finish : (x.finish t).code = 0 ↔ x.whole = true := by
  rw [finish]
  split
  · rename_i whole
    exact iff_of_true rfl whole
  · rename_i broken
    exact iff_of_false nofun broken

theorem whole_of_write (ended : (x.write t).code = 0) : x.whole = true := by
  unfold write at ended
  split at ended
  · cases ended
  · split at ended
    · cases ended
    · exact code_finish.mp ended

end

/-- A run of the program on a tree whose arguments are accepted, with the environment before and
after it has taken variables from the file. -/
structure Call where
  env : Environment
  args : List Bytes
  tree : Tree
  extended : Environment
  options : ExtractOptions
  loaded : environment? env (tree.read envFileName) = some extended
  accepted : ExtractOptions.parse extended args = .ok options

namespace Call

def result (c : Call) : Result := run c.env c.args c.tree

/-- The run ends well, and its new logs hold `trie` and `leaves`. -/
structure Yields (c : Call) (trie leaves : Bytes) : Prop where
  code : c.result.code = 0
  trie : ∃ p, pathOf c.options trieLabel = .ok p ∧ c.result.tree.read p = .ok trie
  leaves : ∃ q, pathOf c.options leavesLabel = .ok q ∧ c.result.tree.read q = .ok leaves

/-- The run ends because `trie` cannot be written or, after it, `leaves`. -/
def Refuses (c : Call) (trie leaves : Bytes) : Prop :=
  ∃ p q, pathOf c.options trieLabel = .ok p ∧ pathOf c.options leavesLabel = .ok q ∧
    ((∃ e, c.tree.write p trie = .error e ∧ c.result = .failed (.unwritable p e) c.tree) ∨
      ∃ t e, c.tree.write p trie = .ok t ∧ t.write q leaves = .error e ∧
        c.result = .failed (.unwritable q e) t)

variable {c : Call}

theorem result_of_error {e : ExtractionError}
    (failed : plan c.options (c.tree.read c.options.csv) = .error e) :
    c.result = .failed e c.tree := by
  simp only [result, run, c.loaded, c.accepted, failed]

theorem result_of_plan {x : Extraction}
    (planned : plan c.options (c.tree.read c.options.csv) = .ok x) :
    c.result = x.write c.tree := by
  simp only [result, run, c.loaded, c.accepted, planned]

theorem log_of_code (ended : c.result.code = 0) :
    ∃ log, c.tree.read c.options.csv = .ok log ∧ Log.rows log ≠ [] ∧
      Record.Fit (Log.records log) := by
  cases planned : plan c.options (c.tree.read c.options.csv) with
  | error e =>
    rw [result_of_error planned] at ended
    cases ended
  | ok x =>
    obtain ⟨log, read, some, parts⟩ := rows_of_plan planned
    rw [result_of_plan planned] at ended
    exact ⟨log, read, some, (whole_iff parts).mp (whole_of_write ended)⟩

theorem Refuses.code {trie leaves : Bytes} (refuses : c.Refuses trie leaves) :
    c.result.code = 1 := by
  obtain ⟨p, q, -, -, ⟨e, -, result⟩ | ⟨t, e, -, -, result⟩⟩ := refuses
  · rw [result]
    rfl
  · rw [result]
    rfl

/-- A run on a log with rows whose totals fit writes the two logs made of it, unless one cannot be
written. -/
theorem outcome {log : Bytes} (read : c.tree.read c.options.csv = .ok log)
    (some : Log.rows log ≠ []) (fit : Record.Fit (Log.records log)) :
    c.Yields (trieLog log) (leavesLog log) ∨ c.Refuses (trieLog log) (leavesLog log) := by
  obtain ⟨directory, name, split, last⟩ := Tree.split?_of_read read
  have whole := Path.separator_not_mem (List.mem_of_getLast? last)
  have triePath := pathOf_eq split trieLabel
  have leavesPath := pathOf_eq split leavesLabel
  have apart := names_ne (c.options.outDir.getD directory) whole
  generalize Path.join _ (trieLabel ++ _) = p at triePath apart
  generalize Path.join _ (leavesLabel ++ _) = q at leavesPath apart
  have planned := plan_of_rows some triePath leavesPath
  rw [← read] at planned
  have result := result_of_plan planned
  cases first : c.tree.write p (trieLog log) with
  | error e =>
    rw [write_of_trie_error first] at result
    exact Or.inr ⟨p, q, triePath, leavesPath, Or.inl ⟨e, first, result⟩⟩
  | ok t =>
    cases second : t.write q (leavesLog log) with
    | error e =>
      rw [write_of_leaves_error first second] at result
      exact Or.inr ⟨p, q, triePath, leavesPath, Or.inr ⟨t, e, first, second, result⟩⟩
    | ok t' =>
      rw [write_of_ok first second] at result
      -- The second file has another name, so it does not take the place of the first.
      have trie : t'.read p = .ok (trieLog log) :=
        Tree.read_write_of_ne second (Tree.read_write first) apart
      have leaves : t'.read q = .ok (leavesLog log) := Tree.read_write second
      refine Or.inl ⟨?_, ⟨p, triePath, ?_⟩, ⟨q, leavesPath, ?_⟩⟩
      · rw [result]
        exact code_finish.mpr ((whole_iff rfl).mpr fit)
      · rw [result, tree_finish, trie]
      · rw [result, tree_finish, leaves]

/-- A run that ends well leaves two logs behind whose rows all decode, those of the second among
those of the first. A run on the first of them gives both again, and a run on the second gives it
twice, unless a log cannot be written. -/
theorem again (ended : c.result.code = 0) :
    ∃ trie leaves, c.Yields trie leaves ∧
      (∀ row ∈ Log.rows trie, ∃ r, row.decode = .ok r) ∧
      (∀ row ∈ Log.rows leaves, ∃ r, row.decode = .ok r) ∧
      (Log.rows leaves).Sublist (Log.rows trie) ∧
      (Log.rows trie ≠ [] → ∀ d : Call, d.tree.read d.options.csv = .ok trie →
        d.Yields trie leaves ∨ d.Refuses trie leaves) ∧
      (Log.rows leaves ≠ [] → ∀ d : Call, d.tree.read d.options.csv = .ok leaves →
        d.Yields leaves leaves ∨ d.Refuses leaves leaves) := by
  obtain ⟨log, read, some, fit⟩ := log_of_code ended
  have within := Record.inAccountTrie_accountTrie (Log.records log)
  have fitTrie : Record.Fit (Record.accountTrie (Log.records log)) :=
    fit.sublist List.filter_sublist
  -- The run has ended well, so neither file was refused.
  have yields : c.Yields (trieLog log) (leavesLog log) := by
    rcases outcome read some fit with yields | refuses
    · exact yields
    · rw [refuses.code] at ended
      cases ended
  refine ⟨_, _, yields, fun row mem => decode_of_mem_rows_render within mem,
    fun row mem => decode_of_mem_rows_render within.leaves mem, rows_leavesLog_sublist log, ?_, ?_⟩
  · intro some d read
    have outcome := outcome read some (fit_render within fitTrie)
    rwa [trieLog_trieLog, leavesLog_trieLog] at outcome
  · intro some d read
    have outcome := outcome read some
      (fit_render within.leaves (fitTrie.sublist List.filter_sublist))
    rwa [trieLog_leavesLog, leavesLog_leavesLog] at outcome

/-- A log with quotes, blanks, marks, capital digits, a signed size, a wrong size, an empty value
and a row that does not decode. -/
theorem again_normalized :
    let text (lines : List String) := lines.flatMap Utf8.encode
    let log := text ["\"PUT\", 0x4101,0xC22001,+2,", "9,PATH_ACCOUNT_TRIE,\r\n", "GET,4102,0x,2,0,",
      "PATH_ACCOUNT_TRIE\n", "get,,,,,"]
    let header := "Operation,KeyHex,ValueHex,KeySize,ValueSize,Type\n"
    let leaf := "PUT,4101,c22001,2,9,PATH_ACCOUNT_TRIE\n"
    let trie := text [header, leaf, "GET,4102,,2,0,PATH_ACCOUNT_TRIE\n"]
    let leaves := text [header, leaf]
    let args (name : String) := ["kv_extract", "--csv", name].map Utf8.encode
    let options (name : String) : ExtractOptions := ⟨Utf8.encode name, none, false, 20⟩
    let holding (name : String) (log : Bytes) := Tree.fresh.addFile [Utf8.encode name] log
    let first : Call :=
      ⟨[], args "log.csv", holding "log.csv" log, [], options "log.csv", rfl, rfl⟩
    let onTrie : Call :=
      ⟨[], args "MPT_log.csv", holding "MPT_log.csv" trie, [], options "MPT_log.csv", rfl, rfl⟩
    let onLeaves : Call := ⟨[], args "baseline_log.csv", holding "baseline_log.csv" leaves, [],
      options "baseline_log.csv", rfl, rfl⟩
    first.Yields trie leaves ∧ onTrie.Yields trie leaves ∧ onLeaves.Yields leaves leaves := by
  intro text log header leaf trie leaves args options holding first onTrie onLeaves
  obtain ⟨m, b, yields, -, -, within, fromTrie, fromLeaves⟩ :=
    again (c := first) (by decide +kernel)
  have written : (first.result.tree.read (Utf8.encode "MPT_log.csv")).toOption = some trie ∧
      (first.result.tree.read (Utf8.encode "baseline_log.csv")).toOption = some leaves := by
    decide +kernel
  obtain ⟨p, triePath, trieRead⟩ := yields.trie
  obtain ⟨q, leavesPath, leavesRead⟩ := yields.leaves
  obtain rfl : Utf8.encode "MPT_log.csv" = p := Except.ok.inj triePath
  obtain rfl : Utf8.encode "baseline_log.csv" = q := Except.ok.inj leavesPath
  rw [trieRead, leavesRead] at written
  obtain rfl : m = trie := Option.some.inj written.1
  obtain rfl : b = leaves := Option.some.inj written.2
  have leafRows : Log.rows leaves ≠ [] := by decide +kernel
  have trieRows : Log.rows trie ≠ [] := fun none => leafRows (List.sublist_nil.mp (none ▸ within))
  refine ⟨yields, ?_, ?_⟩
  · rcases fromTrie trieRows onTrie rfl with again | refuses
    · exact again
    · have code : onTrie.result.code = 0 := by decide +kernel
      rw [refuses.code] at code
      cases code
  · rcases fromLeaves leafRows onLeaves rfl with again | refuses
    · exact again
    · have code : onLeaves.result.code = 0 := by decide +kernel
      rw [refuses.code] at code
      cases code

end Call

end Extraction

end TrieJournal
