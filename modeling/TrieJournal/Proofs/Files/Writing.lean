import TrieJournal.Files.Tree
import TrieJournal.Proofs.Lookup
import TrieJournal.Proofs.Text.Split

/-!
# Files that were written

Only directories are followed on the way to a file, and writing a file changes none of them. So a
path leads to the place where it led before: a file reads as it was written, and as before if
another one was written. Paths that end in different names lead to different places.
-/

namespace TrieJournal

/-! ### Names at the end of paths -/

namespace Path

theorem separator_not_mem {p : Path} {segment : Bytes} (mem : segment ∈ p.segments) :
    separator ∉ segment :=
  not_mem_of_mem_splitOn mem

theorem segments_append (front back : Path) :
    segments (front ++ separator :: back) = segments front ++ segments back :=
  splitOn_append_cons separator front back

theorem segments_of_whole {name : Bytes} (whole : separator ∉ name) : segments name = [name] :=
  splitOn_of_not_mem whole

/-- A name stands behind a slash, which may be there already, or alone. -/
theorem join_cases (directory : Path) {name : Bytes} (whole : separator ∉ name) :
    (directory = [] ∧ join directory name = name) ∨
      ∃ front, (directory = front ∧ directory ≠ [] ∨ directory = front ++ [separator]) ∧
        join directory name = front ++ separator :: name := by
  have relative : ¬isAbsolute name = true := by
    rw [isAbsolute, decide_eq_true_eq]
    exact fun first => whole (List.mem_of_head? first)
  rw [join, if_neg relative]
  split
  · rename_i ended
    rcases Bool.or_eq_true_iff.mp ended with empty | slash
    · rw [List.isEmpty_iff.mp empty]
      exact Or.inl ⟨rfl, rfl⟩
    · obtain ⟨front, rfl⟩ := List.getLast?_eq_some_iff.mp (of_decide_eq_true slash)
      exact Or.inr ⟨front, Or.inr rfl, List.append_assoc _ _ _⟩
  · rename_i apart
    have filled : directory ≠ [] := fun empty => by simp [empty] at apart
    exact Or.inr ⟨directory, Or.inl ⟨rfl, filled⟩, rfl⟩

theorem getLast?_segments_join (directory : Path) {name : Bytes} (whole : separator ∉ name) :
    (join directory name).segments.getLast? = some name := by
  obtain ⟨-, joined⟩ | ⟨front, -, joined⟩ := join_cases directory whole
  · rw [joined, segments_of_whole whole]
    rfl
  · rw [joined, segments_append, segments_of_whole whole, List.getLast?_concat]

theorem split?_of_getLast? {p : Path} {name : Bytes} (last : p.segments.getLast? = some name)
    (leads : isIdle name = false) (downward : name ≠ dotDot) :
    ∃ directory, p.split? = some (directory, name) := by
  obtain ⟨before, parts⟩ := List.getLast?_eq_some_iff.mp last
  have trimmed : (dropRightWhile isIdle p.segments).reverse = name :: before.reverse := by
    rw [dropRightWhile, List.reverse_reverse, parts, List.reverse_append, List.reverse_singleton,
      List.singleton_append, List.dropWhile_cons, leads]
    rfl
  simp only [split?, trimmed, if_neg downward]
  split <;> exact ⟨_, rfl⟩

end Path

/-! ### Places of files -/

namespace Tree

/-- The place where a file is, or can be made, at the target. -/
def Target.filePlace? : Target → Option Place
  | .present place (.file _) | .vacant place => some place
  | .present _ .directory | .slashed _ => none

def Target.item? : Target → Option Item
  | .present _ item => some item
  | .vacant _ | .slashed _ => none

variable {t t' : Tree}

theorem item?_set {place : Place} (below : place ≠ []) (item : Item) (other : Place) :
    (t.set place item).item? other = if other = place then some item else t.item? other := by
  have kept := lookup_filter_key (fun p => decide (p ≠ place)) other t.items
  unfold item? set
  rw [lookup_cons_eq, kept]
  by_cases same : other = place
  · subst same
    simp [below]
  · simp [same]

theorem entry_eq_ok {place : Place} {name : Bytes} {item : Item} :
    t.entry place name = .ok item ↔
      name.length ≤ maxNameLength ∧ t.item? (place ++ [name]) = some item := by
  unfold entry
  split
  · rename_i long
    simp only [reduceCtorEq, false_iff, not_and]
    omega
  · rename_i short
    cases t.item? (place ++ [name]) with
    | none => simp
    | some found => simp [Nat.le_of_not_lt short]

theorem entry_eq_notFound {place : Place} {name : Bytes} :
    t.entry place name = .error .notFound ↔
      name.length ≤ maxNameLength ∧ t.item? (place ++ [name]) = none := by
  unfold entry
  split
  · rename_i long
    simp only [Except.error.injEq, reduceCtorEq, false_iff, not_and]
    omega
  · rename_i short
    cases t.item? (place ++ [name]) with
    | none => simp [Nat.le_of_not_lt short]
    | some found => simp

theorem filePlace?_of_halt {e : FileError} {rest : List Bytes} {target : Target}
    (halted : halt e rest = .ok target) : target.filePlace? = none := by
  unfold halt at halted
  split at halted
  · cases halted
    rfl
  · cases halted

/-- The place bears the name that stands last among the segments. -/
def EndsAt (segments : List Bytes) (q : Place) : Prop :=
  ∃ parent name, q = parent ++ [name] ∧ segments.getLast? = some name ∧
    Path.isIdle name = false ∧ name ≠ Path.dotDot

theorem EndsAt.cons {segments : List Bytes} {q : Place} (ends : EndsAt segments q)
    (segment : Bytes) : EndsAt (segment :: segments) q := by
  obtain ⟨parent, name, under, last, proper⟩ := ends
  refine ⟨parent, name, under, ?_, proper⟩
  rw [List.getLast?_cons, last]
  rfl

theorem EndsAt.ne_nil {segments : List Bytes} {q : Place} (ends : EndsAt segments q) : q ≠ [] := by
  obtain ⟨parent, name, rfl, -⟩ := ends
  simp

theorem EndsAt.ne {segments others : List Bytes} {q other : Place} (ends : EndsAt segments q)
    (ends' : EndsAt others other) (differ : segments.getLast? ≠ others.getLast?) : q ≠ other := by
  obtain ⟨parent, name, rfl, last, -⟩ := ends
  obtain ⟨parent', name', rfl, last', -⟩ := ends'
  intro same
  rw [last, last'] at differ
  have names := (List.append_inj' same rfl).2
  exact differ (congrArg some (List.singleton_inj.mp names))

theorem follow_filePlace {place q : Place} {segments : List Bytes} {target : Target}
    (followed : t.follow place segments = .ok target) (leads : target.filePlace? = some q) :
    EndsAt segments q ∧ t.item? q = target.item? := by
  fun_induction follow t place segments with
  | case1 place =>
    cases followed
    cases leads
  | case2 place segment rest idle ih => exact (ih followed).imp_left (·.cons segment)
  | case3 place rest idle ih => exact (ih followed).imp_left (·.cons Path.dotDot)
  | case4 place segment rest proper up entry ih => exact (ih followed).imp_left (·.cons segment)
  | case5 place segment rest proper up content entry last =>
    cases followed
    cases leads
    obtain rfl := List.isEmpty_iff.mp last
    exact ⟨⟨place, segment, rfl, rfl, by simpa using proper, up⟩, (entry_eq_ok.mp entry).2⟩
  | case6 place segment rest proper up content entry more =>
    rw [filePlace?_of_halt followed] at leads
    cases leads
  | case7 place segment rest proper up e entry last =>
    cases followed
    cases leads
    obtain rfl := List.isEmpty_iff.mp last.1
    obtain rfl := last.2
    exact ⟨⟨place, segment, rfl, rfl, by simpa using proper, up⟩, (entry_eq_notFound.mp entry).2⟩
  | case8 place segment rest proper up e entry more =>
    rw [filePlace?_of_halt followed] at leads
    cases leads

/-- Segments that lead to the place of a file lead to the file that is put there. -/
theorem follow_of_file {place q : Place} {segments : List Bytes} {target : Target}
    (followed : t.follow place segments = .ok target) (leads : target.filePlace? = some q)
    (directories : ∀ p, t.item? p = some .directory → t'.item? p = some .directory)
    {content : Bytes} (file : t'.item? q = some (.file content)) :
    t'.follow place segments = .ok (.present q (.file content)) := by
  -- The steps through directories are taken again; only the last one looks at what is put there.
  fun_induction follow t place segments with
  | case1 place =>
    cases followed
    cases leads
  | case2 place segment rest idle ih => rw [follow, if_pos idle, ih followed]
  | case3 place rest idle ih => rw [follow, if_neg idle, if_pos rfl, ih followed]
  | case4 place segment rest proper up entry ih =>
    obtain ⟨short, found⟩ := entry_eq_ok.mp entry
    have entry' : t'.entry place segment = .ok .directory :=
      entry_eq_ok.mpr ⟨short, directories _ found⟩
    rw [follow, if_neg proper, if_neg up, entry']
    exact ih followed
  | case5 place segment rest proper up old entry last =>
    cases followed
    cases leads
    have entry' : t'.entry place segment = .ok (.file content) :=
      entry_eq_ok.mpr ⟨(entry_eq_ok.mp entry).1, file⟩
    simp only [follow, if_neg proper, if_neg up, entry', last, if_true]
  | case6 place segment rest proper up old entry more =>
    rw [filePlace?_of_halt followed] at leads
    cases leads
  | case7 place segment rest proper up e entry last =>
    cases followed
    cases leads
    obtain rfl := last.2
    have entry' : t'.entry place segment = .ok (.file content) :=
      entry_eq_ok.mpr ⟨(entry_eq_notFound.mp entry).1, file⟩
    simp only [follow, if_neg proper, if_neg up, entry', last.1, if_true]
  | case8 place segment rest proper up e entry more =>
    rw [filePlace?_of_halt followed] at leads
    cases leads

theorem locate_filePlace {p : Path} {q : Place} {target : Target}
    (located : t.locate p = .ok target) (leads : target.filePlace? = some q) :
    EndsAt p.segments q ∧ t.item? q = target.item? := by
  unfold locate at located
  repeat' split at located
  all_goals first
    | exact follow_filePlace located leads
    | cases located

theorem locate_of_file {p : Path} {q : Place} {target : Target}
    (located : t.locate p = .ok target) (leads : target.filePlace? = some q)
    (directories : ∀ p, t.item? p = some .directory → t'.item? p = some .directory)
    {content : Bytes} (file : t'.item? q = some (.file content)) (top : t'.top = t.top) :
    t'.locate p = .ok (.present q (.file content)) := by
  unfold locate at located ⊢
  split at located
  · cases located
  rename_i clean
  split at located
  · cases located
  rename_i short
  rw [if_neg clean, if_neg short]
  split at located
  · rename_i absolute
    rw [if_pos absolute]
    exact follow_of_file located leads directories file
  · rename_i relative
    split at located
    · rename_i present
      rw [if_neg relative, top, if_pos (directories _ present)]
      exact follow_of_file located leads directories file
    · cases located

/-! ### Reading and writing -/

theorem read_eq_ok {p : Path} {content : Bytes} :
    t.read p = .ok content ↔ ∃ place, t.locate p = .ok (.present place (.file content)) := by
  unfold read
  cases t.locate p with
  | error e => simp [bind, Except.bind]
  | ok target =>
    match target with
    | .present place (.file found) => simp [bind, Except.bind, pure, Except.pure, eq_comm]
    | .present place .directory => simp [bind, Except.bind, throw, throwThe, MonadExceptOf.throw]
    | .vacant place => simp [bind, Except.bind, throw, throwThe, MonadExceptOf.throw]
    | .slashed e => simp [bind, Except.bind, throw, throwThe, MonadExceptOf.throw]

theorem write_eq_ok {p : Path} {content : Bytes} :
    t.write p content = .ok t' ↔ ∃ target place, t.locate p = .ok target ∧
      target.filePlace? = some place ∧ t' = t.set place (.file content) := by
  unfold write update
  cases t.locate p with
  | error e => simp [bind, Except.bind]
  | ok target =>
    match target with
    | .present place (.file found) =>
      simp [bind, Except.bind, pure, Except.pure, Target.filePlace?, eq_comm]
    | .present place .directory =>
      simp [bind, Except.bind, throw, throwThe, MonadExceptOf.throw, Target.filePlace?]
    | .vacant place => simp [bind, Except.bind, pure, Except.pure, Target.filePlace?, eq_comm]
    | .slashed e =>
      simp [bind, Except.bind, throw, throwThe, MonadExceptOf.throw, Target.filePlace?]

theorem directories_of_set {place : Place} {target : Target} (below : place ≠ [])
    (leads : target.filePlace? = some place) (found : t.item? place = target.item?)
    (content : Bytes) :
    ∀ p, t.item? p = some .directory → (t.set place (.file content)).item? p = some .directory := by
  intro p directory
  have other : p ≠ place := by
    rintro rfl
    rw [directory] at found
    match target with
    | .present _ (.file _) | .vacant _ => cases found
    | .present _ .directory | .slashed _ => cases leads
  rw [item?_set below, if_neg other, directory]

theorem read_write {p : Path} {content : Bytes} (written : t.write p content = .ok t') :
    t'.read p = .ok content := by
  obtain ⟨target, place, located, leads, rfl⟩ := write_eq_ok.mp written
  obtain ⟨ends, found⟩ := locate_filePlace located leads
  have directories := directories_of_set ends.ne_nil leads found content
  have file : (t.set place (.file content)).item? place = some (.file content) := by
    rw [item?_set ends.ne_nil, if_pos rfl]
  exact read_eq_ok.mpr ⟨place, locate_of_file located leads directories file rfl⟩

/-- A file that can be read can be changed, and is read as it was changed. -/
theorem read_update {p : Path} {content : Bytes} (read : t.read p = .ok content)
    (change : Bytes → Bytes) :
    ∃ t', t.update p change = .ok t' ∧ t'.read p = .ok (change content) := by
  obtain ⟨place, located⟩ := read_eq_ok.mp read
  have written : t.write p (change content) = .ok (t.set place (.file (change content))) :=
    write_eq_ok.mpr ⟨_, place, located, rfl, rfl⟩
  have same : t.update p change = t.write p (change content) := by
    rw [write, update, update, located]
    rfl
  exact ⟨_, same.trans written, read_write written⟩

/-- Writing a file changes none whose path ends in another name. -/
theorem read_write_of_ne {p other : Path} {content old : Bytes}
    (written : t.write other content = .ok t') (before : t.read p = .ok old)
    (differ : p.segments.getLast? ≠ other.segments.getLast?) : t'.read p = .ok old := by
  obtain ⟨target, place, located, leads, rfl⟩ := write_eq_ok.mp written
  obtain ⟨ends, found⟩ := locate_filePlace located leads
  obtain ⟨q, present⟩ := read_eq_ok.mp before
  obtain ⟨ends', found'⟩ := locate_filePlace present rfl
  have directories := directories_of_set ends.ne_nil leads found content
  have file : (t.set place (.file content)).item? q = some (.file old) := by
    rw [item?_set ends.ne_nil, if_neg (ends'.ne ends differ), found']
    rfl
  exact read_eq_ok.mpr ⟨q, locate_of_file present rfl directories file rfl⟩

theorem split?_of_read {p : Path} {content : Bytes} (read : t.read p = .ok content) :
    ∃ directory name, p.split? = some (directory, name) ∧ p.segments.getLast? = some name := by
  obtain ⟨place, present⟩ := read_eq_ok.mp read
  obtain ⟨⟨-, name, -, last, leads, downward⟩, -⟩ := locate_filePlace present rfl
  obtain ⟨directory, split⟩ := Path.split?_of_getLast? last leads downward
  exact ⟨directory, name, split, last⟩

end Tree

end TrieJournal
