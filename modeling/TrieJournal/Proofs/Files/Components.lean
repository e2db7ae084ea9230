import TrieJournal.Proofs.Files.Writing
import TrieJournal.Proofs.Text.Trimming

/-!
# Components of paths

The components of a path are its segments without those that lead nowhere, behind the root or the
current directory if the path begins there. Cutting the name of a file off a path and joining a name
to a directory each act on the last component only.
-/

namespace TrieJournal.Path

inductive Component where
  | root
  | current
  | parent
  | name (n : Bytes)
  deriving DecidableEq

def Component.ofSegment (segment : Bytes) : Component :=
  if segment = dotDot then .parent else .name segment

/-- Where a path begins whose first segment is followed by others. -/
def origin (first : Bytes) : List Component :=
  if first = [] then [.root] else if first = dot then [.current] else []

def steps (segments : List Bytes) : List Component :=
  (segments.filter fun segment => !isIdle segment).map .ofSegment

def componentsOf : List Bytes → List Component
  | [] | [[]] => []
  | first :: rest => origin first ++ steps (first :: rest)

def components (p : Path) : List Component := componentsOf p.segments

/-! ### Segments -/

section

variable {segment : Bytes}

theorem isIdle_iff : isIdle segment = true ↔ segment = [] ∨ segment = dot := by
  rw [isIdle, Bool.or_eq_true, List.isEmpty_iff, decide_eq_true_eq]

theorem origin_of_leads (leads : isIdle segment = false) : origin segment = [] := by
  have proper : ¬(segment = [] ∨ segment = dot) := by
    rw [← isIdle_iff, leads]
    exact Bool.false_ne_true
  rw [origin, if_neg fun empty => proper (Or.inl empty), if_neg fun same => proper (Or.inr same)]

theorem steps_append (front back : List Bytes) :
    steps (front ++ back) = steps front ++ steps back := by
  rw [steps, List.filter_append, List.map_append, ← steps, ← steps]

theorem steps_of_idle {segments : List Bytes} (idle : ∀ segment ∈ segments, isIdle segment = true) :
    steps segments = [] := by
  rw [steps, List.filter_eq_nil_iff.mpr, List.map_nil]
  intro segment mem
  simp [idle segment mem]

theorem steps_singleton (leads : isIdle segment = false) :
    steps [segment] = [.ofSegment segment] := by
  rw [steps, List.filter_cons_of_pos (by simp [leads])]
  rfl

theorem dropRightWhile_append_rtakeWhile (segments : List Bytes) :
    dropRightWhile isIdle segments ++ segments.rtakeWhile isIdle = segments :=
  List.rdropWhile_append_rtakeWhile

theorem steps_dropRightWhile (segments : List Bytes) :
    steps (dropRightWhile isIdle segments) = steps segments := by
  have idle : steps (segments.rtakeWhile isIdle) = [] :=
    steps_of_idle fun _ mem => List.mem_rtakeWhile_imp mem
  have whole := congrArg steps (dropRightWhile_append_rtakeWhile segments)
  rwa [steps_append, idle, List.append_nil] at whole

theorem leads_of_kept {segments before : List Bytes}
    (kept : dropRightWhile isIdle segments = before ++ [segment]) : isIdle segment = false := by
  refine getLast?_dropRightWhile (l := segments) segment ?_
  rw [kept]
  exact List.getLast?_concat

theorem componentsOf_cons {first : Bytes} {rest : List Bytes} (long : first ≠ [] ∨ rest ≠ []) :
    componentsOf (first :: rest) = origin first ++ steps (first :: rest) := by
  unfold componentsOf
  split
  · contradiction
  · simp_all
  · simp_all

theorem exists_segments (p : Path) : ∃ first rest, p.segments = first :: rest := by
  refine List.exists_cons_of_ne_nil ?_
  rw [segments, splitOn_eq]
  exact List.splitOn_ne_nil separator p

theorem intercalate_segments (p : Path) : [separator].intercalate p.segments = p := by
  rw [segments, splitOn_eq]
  exact List.intercalate_splitOn separator

end

/-! ### Components -/

theorem components_ofSegments {first : Bytes} {rest : List Bytes}
    (whole : ∀ segment ∈ first :: rest, separator ∉ segment) :
    components (ofSegments (first :: rest)) = origin first ++ steps (first :: rest) := by
  by_cases long : first ≠ [] ∨ rest ≠ []
  · have joined : ofSegments (first :: rest) = [separator].intercalate (first :: rest) := by
      unfold ofSegments
      split
      · simp_all
      · rfl
    rw [components, joined, segments, splitOn_eq,
      List.splitOn_intercalate separator whole (List.cons_ne_nil _ _), componentsOf_cons long]
  · -- A single empty segment stands for the root.
    simp only [not_or, not_not] at long
    obtain ⟨rfl, rfl⟩ := long
    decide

theorem components_of_ne_nil {p : Path} (filled : p ≠ []) {first : Bytes} {rest : List Bytes}
    (parts : p.segments = first :: rest) : p.components = origin first ++ steps p.segments := by
  rw [components, parts]
  refine componentsOf_cons ?_
  by_contra short
  simp only [not_or, not_not] at short
  obtain ⟨rfl, rfl⟩ := short
  have joined := p.intercalate_segments
  rw [parts] at joined
  exact filled joined.symm

theorem components_append {front : Path} {first : Bytes} {rest : List Bytes}
    (parts : front.segments = first :: rest) (back : Path) :
    components (front ++ separator :: back) =
      origin first ++ steps front.segments ++ steps back.segments := by
  have both : segments (front ++ separator :: back) = first :: (rest ++ back.segments) := by
    rw [segments_append, parts, List.cons_append]
  rw [components_of_ne_nil (by simp) both, segments_append, steps_append, List.append_assoc]

theorem separator_not_mem_of_name {p : Path} {n : Bytes} (mem : .name n ∈ p.components) :
    separator ∉ n := by
  by_cases empty : p = []
  · rw [empty] at mem
    exact nomatch mem
  · obtain ⟨first, rest, parts⟩ := exists_segments p
    rw [components_of_ne_nil empty parts] at mem
    rcases List.mem_append.mp mem with start | later
    · unfold origin at start
      split_ifs at start <;> simp at start
    · obtain ⟨segment, among, same⟩ := List.mem_map.mp later
      unfold Component.ofSegment at same
      split at same
      · cases same
      · cases same
        exact separator_not_mem (List.mem_filter.mp among).1

/-! ### Joining and cutting -/

theorem components_of_name {name : Bytes} (whole : separator ∉ name) (leads : isIdle name = false) :
    components name = [.ofSegment name] := by
  have filled : name ≠ [] := fun empty => by simp [empty, isIdle] at leads
  have alone := segments_of_whole whole
  rw [components_of_ne_nil filled alone, alone, origin_of_leads leads, steps_singleton leads,
    List.nil_append]

theorem components_join (directory : Path) {name : Bytes} (whole : separator ∉ name)
    (leads : isIdle name = false) :
    components (join directory name) = directory.components ++ [.ofSegment name] := by
  obtain ⟨rfl, joined⟩ | ⟨front, behind, joined⟩ := join_cases directory whole
  · rw [joined]
    exact components_of_name whole leads
  · obtain ⟨first, rest, parts⟩ := exists_segments front
    have same : directory.components = origin first ++ steps front.segments := by
      rcases behind with ⟨rfl, filled⟩ | rfl
      · exact components_of_ne_nil filled parts
      · have none : steps (segments []) = [] := by decide
        rw [components_append parts, none, List.append_nil]
    rw [joined, components_append parts, same, segments_of_whole whole, steps_singleton leads]

/-- What is left of a path without its last segment that leads somewhere has the same components but
for the last one. -/
theorem split?_of_kept {p : Path} {before : List Bytes} {name : Bytes}
    (kept : dropRightWhile isIdle p.segments = before ++ [name]) :
    ∃ directory : Path, p.components = directory.components ++ [.ofSegment name] ∧
      p.split? = if name = dotDot then none else some (directory, name) := by
  have leads := leads_of_kept kept
  have parts := dropRightWhile_append_rtakeWhile p.segments
  rw [kept, List.append_assoc, List.singleton_append] at parts
  have proper : steps p.segments = steps before ++ [.ofSegment name] := by
    rw [← steps_dropRightWhile, kept, steps_append, steps_singleton leads]
  have filled : p ≠ [] := by
    rintro rfl
    have none : dropRightWhile isIdle (segments []) = [] := by decide
    rw [none] at kept
    exact List.concat_ne_nil _ _ kept.symm
  have reversed : (dropRightWhile isIdle p.segments).reverse = name :: before.reverse := by
    rw [kept, List.reverse_concat]
  cases before with
  | nil =>
    refine ⟨[], ?_, ?_⟩
    · rw [components_of_ne_nil filled parts.symm, proper, origin_of_leads leads]
      rfl
    · rw [split?, reversed]
      rfl
  | cons first rest =>
    have trimmed : steps (first :: dropRightWhile isIdle rest) = steps (first :: rest) := by
      rw [← List.singleton_append, steps_append, steps_dropRightWhile, ← steps_append,
        List.singleton_append]
    have whole : ∀ segment ∈ first :: dropRightWhile isIdle rest, separator ∉ segment := by
      intro segment mem
      refine separator_not_mem (p := p) ?_
      rw [← parts]
      refine List.mem_append_left _ ?_
      rcases List.mem_cons.mp mem with rfl | mem
      · exact List.mem_cons_self
      · exact List.mem_cons_of_mem _ ((List.rdropWhile_prefix isIdle rest).subset mem)
    refine ⟨ofSegments (first :: dropRightWhile isIdle rest), ?_, ?_⟩
    · rw [components_of_ne_nil filled parts.symm, components_ofSegments whole, proper, trimmed,
        List.append_assoc]
    · rw [split?, reversed]
      simp only [List.reverse_reverse]

theorem getLast?_components_ne {p : Path} (kept : dropRightWhile isIdle p.segments = [])
    (n : Bytes) :
    p.components.getLast? ≠ some (.name n) := by
  have none : steps p.segments = [] := by
    rw [← steps_dropRightWhile, kept]
    rfl
  by_cases empty : p = []
  · rw [empty]
    exact nofun
  · obtain ⟨first, rest, parts⟩ := exists_segments p
    rw [components_of_ne_nil empty parts, none, List.append_nil]
    unfold origin
    split_ifs <;> exact nofun

/-- What is cut off a path is its last component. -/
theorem components_of_split? {p directory : Path} {name : Bytes}
    (split : p.split? = some (directory, name)) :
    p.components = directory.components ++ [.name name] := by
  rcases List.eq_nil_or_concat' (dropRightWhile isIdle p.segments) with none | ⟨before, last, kept⟩
  · rw [split?, none] at split
    cases split
  · obtain ⟨parent, parts, cut⟩ := split?_of_kept kept
    rw [cut] at split
    split at split
    · cases split
    · rename_i downward
      cases split
      rw [parts, Component.ofSegment, if_neg downward]

theorem exists_split?_of_components {p : Path} {name : Bytes}
    (last : p.components.getLast? = some (.name name)) :
    ∃ directory, p.split? = some (directory, name) := by
  rcases List.eq_nil_or_concat' (dropRightWhile isIdle p.segments) with
    none | ⟨before, segment, kept⟩
  · exact absurd last (getLast?_components_ne none name)
  · obtain ⟨directory, parts, cut⟩ := split?_of_kept kept
    rw [parts, List.getLast?_concat, Component.ofSegment] at last
    split at last
    · cases last
    · rename_i downward
      cases last
      exact ⟨directory, by rw [cut, if_neg downward]⟩

end TrieJournal.Path
