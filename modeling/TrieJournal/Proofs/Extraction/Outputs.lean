import TrieJournal.Proofs.Extraction.Again
import TrieJournal.Proofs.Files.Components

/-!
# Where extracted logs lie

A log is derived from another under a label that stands before an underscore in front of the other's
name. So its name is longer than that of the other, and the names of logs under different labels
differ, in whichever directories they lie. An extraction therefore leaves the log that it reads as
it was, and neither of its two logs takes the place of the other.
-/

namespace TrieJournal

namespace Path

variable {label n : Bytes}

/-! ### Names with labels -/

theorem underscore_mem : 0x5F ∈ label ++ 0x5F :: n :=
  List.mem_append_right _ List.mem_cons_self

theorem isIdle_labelled : isIdle (label ++ 0x5F :: n) = false := by
  refine Bool.eq_false_iff.mpr fun idle => ?_
  have mem : 0x5F ∈ label ++ 0x5F :: n := underscore_mem
  rcases isIdle_iff.mp idle with same | same
  · rw [same] at mem
    exact List.not_mem_nil mem
  · rw [same] at mem
    exact absurd mem (by decide)

theorem ofSegment_labelled :
    Component.ofSegment (label ++ 0x5F :: n) = .name (label ++ 0x5F :: n) := by
  refine if_neg fun same => ?_
  have mem : 0x5F ∈ label ++ 0x5F :: n := underscore_mem
  rw [same] at mem
  exact absurd mem (by decide)

theorem labelled_ne : label ++ 0x5F :: n ≠ n := by
  intro same
  have lengths := congrArg List.length same
  rw [List.length_append, List.length_cons] at lengths
  omega

theorem labelled_apart {other : Bytes} (differ : label ≠ other) :
    label ++ 0x5F :: n ≠ other ++ 0x5F :: n :=
  fun same => differ (List.append_cancel_right same)

/-- The path names the file in a directory with these components. -/
def Names (path directory : Path) (name : Bytes) : Prop :=
  ∃ parent, path.split? = some (parent, name) ∧ parent.components = directory.components

theorem Names.components {path directory : Path} {name : Bytes}
    (names : path.Names directory name) :
    path.components = directory.components ++ [.name name] := by
  obtain ⟨parent, split, same⟩ := names
  rw [components_of_split? split, same]

theorem Names.components_ne {path path' directory directory' : Path} {name name' : Bytes}
    (names : path.Names directory name) (names' : path'.Names directory' name')
    (differ : name ≠ name') : path.components ≠ path'.components := by
  intro same
  rw [names.components, names'.components] at same
  have last := (List.append_inj' same rfl).2
  exact differ (Component.name.inj (List.singleton_inj.mp last))

theorem names_join (plain : separator ∉ label) (whole : separator ∉ n) (directory : Path) :
    (join directory (label ++ 0x5F :: n)).Names directory (label ++ 0x5F :: n) := by
  have free := Extraction.separator_not_mem_labelled plain whole
  have parts := components_join directory free isIdle_labelled
  rw [ofSegment_labelled] at parts
  obtain ⟨parent, split⟩ := exists_split?_of_components (by rw [parts, List.getLast?_concat])
  refine ⟨parent, split, ?_⟩
  rw [components_of_split? split] at parts
  exact List.append_cancel_right parts

/-- The path names the file, and nothing stands behind the name. -/
structure Ends (path directory : Path) (name : Bytes) : Prop where
  names : path.Names directory name
  last : path.segments.getLast? = some name

theorem Ends.last_ne {path path' directory directory' : Path} {name name' : Bytes}
    (ends : path.Ends directory name) (ends' : path'.Ends directory' name')
    (differ : name ≠ name') : path.segments.getLast? ≠ path'.segments.getLast? := by
  rw [ends.last, ends'.last]
  exact fun same => differ (Option.some.inj same)

theorem ends_join (plain : separator ∉ label) (whole : separator ∉ n) (directory : Path) :
    (join directory (label ++ 0x5F :: n)).Ends directory (label ++ 0x5F :: n) :=
  ⟨names_join plain whole directory, Extraction.getLast?_labelled plain directory whole⟩

end Path

namespace Extraction

variable {t : Tree} {x : Extraction}

/-! ### Files that a run leaves alone -/

theorem ends_of_plan {options : ExtractOptions}
    (planned : plan options (t.read options.csv) = .ok x) :
    ∃ directory n, options.csv.Ends directory n ∧
      x.triePath.Ends (options.outDir.getD directory) (trieLabel ++ 0x5F :: n) ∧
      x.leavesPath.Ends (options.outDir.getD directory) (leavesLabel ++ 0x5F :: n) := by
  obtain ⟨log, read, some, -⟩ := rows_of_plan planned
  obtain ⟨directory, n, split, last⟩ := Tree.split?_of_read read
  have whole := Path.separator_not_mem (List.mem_of_getLast? last)
  rw [read, plan_of_rows some (pathOf_eq split trieLabel) (pathOf_eq split leavesLabel)] at planned
  cases planned
  have trie : Path.separator ∉ trieLabel := by decide
  have leaves : Path.separator ∉ leavesLabel := by decide
  exact ⟨directory, n, ⟨⟨directory, split, rfl⟩, last⟩, Path.ends_join trie whole _,
    Path.ends_join leaves whole _⟩

/-- The files after writing: as before, with the first log, or with both. -/
theorem write_cases (x : Extraction) (t : Tree) :
    (∃ e, x.write t = .failed e t) ∨
    (∃ e t', t.write x.triePath (Log.render x.trie) = .ok t' ∧ x.write t = .failed e t') ∨
    ∃ t' t'', t.write x.triePath (Log.render x.trie) = .ok t' ∧
      t'.write x.leavesPath (Log.render x.leaves) = .ok t'' ∧ x.write t = x.finish t'' := by
  cases first : t.write x.triePath (Log.render x.trie) with
  | error e => exact Or.inl ⟨_, write_of_trie_error first⟩
  | ok t' =>
    cases second : t'.write x.leavesPath (Log.render x.leaves) with
    | error e => exact Or.inr (Or.inl ⟨_, t', rfl, write_of_leaves_error first second⟩)
    | ok t'' => exact Or.inr (Or.inr ⟨t', t'', rfl, second, write_of_ok first second⟩)

theorem read_of_write {p : Path} {content : Bytes} (before : t.read p = .ok content)
    (fromTrie : p.segments.getLast? ≠ x.triePath.segments.getLast?)
    (fromLeaves : p.segments.getLast? ≠ x.leavesPath.segments.getLast?) :
    (x.write t).tree.read p = .ok content := by
  obtain ⟨e, result⟩ | ⟨e, t', first, result⟩ | ⟨t', t'', first, second, result⟩ := x.write_cases t
  · rw [result]
    exact before
  · rw [result]
    exact Tree.read_write_of_ne first before fromTrie
  · rw [result, tree_finish]
    exact Tree.read_write_of_ne second (Tree.read_write_of_ne first before fromTrie) fromLeaves

theorem reads_of_write (ended : (x.write t).code = 0)
    (apart : x.triePath.segments.getLast? ≠ x.leavesPath.segments.getLast?) :
    (x.write t).tree.read x.triePath = .ok (Log.render x.trie) ∧
      (x.write t).tree.read x.leavesPath = .ok (Log.render x.leaves) := by
  obtain ⟨e, result⟩ | ⟨e, t', -, result⟩ | ⟨t', t'', first, second, result⟩ := x.write_cases t
  · rw [result] at ended
    cases ended
  · rw [result] at ended
    cases ended
  · rw [result, tree_finish]
    exact ⟨Tree.read_write_of_ne second (Tree.read_write first) apart, Tree.read_write second⟩

/-- The run leaves its log as it was and writes two others, each at a path of its own. -/
structure Call.Spares (c : Call) : Prop where
  log : c.result.tree.read c.options.csv = c.tree.read c.options.csv
  paths : ∀ x, plan c.options (c.tree.read c.options.csv) = .ok x →
    ([c.options.csv, x.triePath, x.leavesPath].map Path.components).Nodup
  logs : ∀ x, plan c.options (c.tree.read c.options.csv) = .ok x → c.result.code = 0 →
    c.result.tree.read x.triePath = .ok (Log.render x.trie) ∧
      c.result.tree.read x.leavesPath = .ok (Log.render x.leaves)

theorem Call.spares (c : Call) : c.Spares := by
  cases planned : plan c.options (c.tree.read c.options.csv) with
  | error e =>
    refine ⟨?_, ?_, ?_⟩
    · rw [result_of_error planned]
      rfl
    · rw [planned]
      exact nofun
    · rw [planned]
      exact nofun
  | ok x =>
    obtain ⟨log, read, -, -⟩ := rows_of_plan planned
    obtain ⟨directory, n, csv, trie, leaves⟩ := ends_of_plan planned
    have differ (label : Bytes) : n ≠ label ++ 0x5F :: n := Path.labelled_ne.symm
    have apart : trieLabel ++ 0x5F :: n ≠ leavesLabel ++ 0x5F :: n :=
      Path.labelled_apart (by decide)
    have result := result_of_plan planned
    refine ⟨?_, ?_, ?_⟩
    · rw [result, read]
      exact read_of_write read (csv.last_ne trie (differ _)) (csv.last_ne leaves (differ _))
    · intro y planned'
      rw [planned] at planned'
      cases planned'
      have fromTrie := csv.names.components_ne trie.names (differ _)
      have fromLeaves := csv.names.components_ne leaves.names (differ _)
      have between := trie.names.components_ne leaves.names apart
      simp [fromTrie, fromLeaves, between]
    · intro y planned' ended
      rw [planned] at planned'
      cases planned'
      rw [result] at ended ⊢
      exact reads_of_write ended (trie.last_ne leaves apart)

/-- A log that is derived under a label has the label in its name and lies in the given directory,
or beside the other. It is neither the other log nor one that is derived under another label. -/
theorem outputs_apart :
    (∀ (log : Path) (n : Bytes), log.components.getLast? = some (.name n) →
      ∃ beside, log.split? = some (beside, n) ∧ log.components = beside.components ++ [.name n] ∧
        ∀ label directory?, Path.separator ∉ label →
          ∃ path, log.derived? label directory? = some path ∧
            path.Names (directory?.getD beside) (label ++ 0x5F :: n) ∧
            path.components ≠ log.components ∧
            ∀ other directory' path', Path.separator ∉ other → other ≠ label →
              log.derived? other directory' = some path' → path'.components ≠ path.components) ∧
    ∀ c : Call, c.Spares := by
  refine ⟨fun log n named => ?_, Call.spares⟩
  obtain ⟨beside, split⟩ := Path.exists_split?_of_components named
  have whole : Path.separator ∉ n := Path.separator_not_mem_of_name (List.mem_of_getLast? named)
  have derived (label : Bytes) (directory? : Option Path) :
      log.derived? label directory? =
        some (Path.join (directory?.getD beside) (label ++ 0x5F :: n)) := by
    rw [Path.derived?, split]
    rfl
  refine ⟨beside, split, Path.components_of_split? split, fun label directory? plain => ?_⟩
  have names := Path.names_join plain whole (directory?.getD beside)
  have log' : log.Names beside n := ⟨beside, split, rfl⟩
  refine ⟨_, derived label directory?, names, names.components_ne log' Path.labelled_ne, ?_⟩
  intro other directory' path' plain' differ derived'
  rw [derived other directory'] at derived'
  cases derived'
  have names' := Path.names_join plain' whole (directory'.getD beside)
  exact names'.components_ne names (Path.labelled_apart differ)

/-- A log whose path has slashes and dots beyond those that lead somewhere, and a run that writes
into the directory of its log. -/
theorem outputs_apart_normalized :
    let path : String → Path := Utf8.encode
    let log := path "data//./ops.csv/."
    let name := path "ops.csv"
    let row := path "PUT,4101,c22001,2,3,PATH_ACCOUNT_TRIE\n"
    let options : ExtractOptions := ⟨path ".//ops.csv", some (path "./"), false, 20⟩
    let args := ["kv_extract", "--csv", ".//ops.csv", "--out-dir", "./"].map path
    let c : Call := ⟨[], args, Tree.fresh.addFile [name] row, [], options,
      by decide +kernel, by decide +kernel⟩
    (log.components.getLast? = some (.name name) ∧
      ∃ trie leaves, log.derived? trieLabel none = some trie ∧
        log.derived? leavesLabel (some (path "out/..")) = some leaves ∧
        trie.Names (path "data") (path "MPT_ops.csv") ∧
        leaves.Names (path "out/..") (path "baseline_ops.csv") ∧
        ([log, trie, leaves].map Path.components).Nodup) ∧
    c.result.code = 0 ∧ c.Spares := by
  intro path log name row options args c
  obtain ⟨derived, spared⟩ := outputs_apart
  have named : log.components.getLast? = some (.name name) := by decide +kernel
  have cut : log.split? = some (path "data", name) := by decide +kernel
  obtain ⟨beside, split, -, labelled⟩ := derived log name named
  rw [cut] at split
  obtain rfl : path "data" = beside := (Prod.mk.inj (Option.some.inj split)).1
  obtain ⟨trie, first, trieNames, trieNe, others⟩ := labelled trieLabel none (by decide)
  obtain ⟨leaves, second, leavesNames, leavesNe, -⟩ :=
    labelled leavesLabel (some (path "out/..")) (by decide)
  have between := others leavesLabel _ leaves (by decide) (by decide) second
  refine ⟨⟨named, trie, leaves, first, second, trieNames, leavesNames, ?_⟩, by decide +kernel,
    spared c⟩
  simp [trieNe.symm, leavesNe.symm, between.symm]

end Extraction

end TrieJournal
