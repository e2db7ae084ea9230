import TrieJournal.Bytes

/-!
# Cutting texts apart

`splitOn` is the standard library's cut at a separator. Its parts hold everything but the
separators, and there is one more of them than of these. `splitOn_cut` says where a prefix of joined
fields can end: inside one field, behind all fields before it.
-/

namespace TrieJournal

section
variable {α : Type}

theorem mem_of_mem_intercalate {sep a : α} {fields : List (List α)}
    (mem : a ∈ [sep].intercalate fields) : a = sep ∨ ∃ field ∈ fields, a ∈ field := by
  induction fields with
  | nil => simp at mem
  | cons field fields ih =>
    cases fields with
    | nil => exact Or.inr ⟨field, List.mem_cons_self, by simpa using mem⟩
    | cons next fields =>
      rw [List.intercalate_cons_cons, List.mem_append, List.mem_append, List.mem_singleton] at mem
      rcases mem with (inField | same) | later
      · exact Or.inr ⟨field, List.mem_cons_self, inField⟩
      · exact Or.inl same
      · exact (ih later).imp_right fun ⟨other, present, inOther⟩ =>
          ⟨other, List.mem_cons_of_mem _ present, inOther⟩

variable [DecidableEq α]

theorem splitOn_go_eq (sep : α) (part l : List α) :
    splitOn.go sep part l = l.splitOnPPrepend (· == sep) part := by
  induction l generalizing part with
  | nil => rfl
  | cons a l ih => simp [splitOn.go, List.splitOnPPrepend_cons_eq_if, ih]

theorem splitOn_eq (sep : α) (l : List α) : splitOn sep l = l.splitOn sep :=
  splitOn_go_eq sep [] l

theorem splitOn_of_not_mem {sep : α} {l : List α} (free : sep ∉ l) : splitOn sep l = [l] := by
  rw [splitOn_eq, List.splitOn_eq_singleton free]

theorem splitOn_append_cons (sep : α) (front back : List α) :
    splitOn sep (front ++ sep :: back) = splitOn sep front ++ splitOn sep back := by
  rw [splitOn_eq, splitOn_eq, splitOn_eq, List.splitOn_append_cons_self]

theorem flatten_splitOn_go (sep : α) (part l : List α) :
    (splitOn.go sep part l).flatten = part.reverse ++ l.filter (· ≠ sep) := by
  induction l generalizing part with
  | nil => simp [splitOn.go]
  | cons a l ih =>
    rw [splitOn.go]
    by_cases same : a = sep
    · rw [if_pos same, List.flatten_cons, ih, List.filter_cons_of_neg (by simp [same])]
      rfl
    · rw [if_neg same, ih, List.filter_cons_of_pos (by simp [same]), List.reverse_cons,
        List.append_assoc, List.singleton_append]

theorem flatten_splitOn (sep : α) (l : List α) : (splitOn sep l).flatten = l.filter (· ≠ sep) :=
  flatten_splitOn_go sep [] l

theorem not_mem_of_mem_splitOn {sep : α} {part l : List α} (isPart : part ∈ splitOn sep l) :
    sep ∉ part := by
  intro mem
  have kept : sep ∈ l.filter (· ≠ sep) :=
    flatten_splitOn sep l ▸ List.mem_flatten_of_mem isPart mem
  simpa using (List.mem_filter.mp kept).2

theorem length_splitOn_go (sep : α) (part l : List α) :
    (splitOn.go sep part l).length = l.count sep + 1 := by
  induction l generalizing part with
  | nil => rfl
  | cons a l ih =>
    rw [splitOn.go, List.count_cons]
    by_cases same : a = sep
    · rw [if_pos same, List.length_cons, ih, if_pos (beq_iff_eq.mpr same)]
    · rw [if_neg same, ih, if_neg (mt beq_iff_eq.mp same)]

theorem length_splitOn (sep : α) (l : List α) : (splitOn sep l).length = l.count sep + 1 :=
  length_splitOn_go sep [] l

/-- A prefix of fields joined by a separator ends inside one of the fields. -/
theorem splitOn_cut {sep : α} {fields : List (List α)} {p : List α} (nonempty : fields ≠ [])
    (free : ∀ field ∈ fields, sep ∉ field) (cut : p <+: [sep].intercalate fields) :
    ∃ done field rest part, fields = done ++ field :: rest ∧ part <+: field ∧
      p = [sep].intercalate (done ++ [part]) ∧ splitOn sep p = done ++ [part] := by
  induction fields generalizing p with
  | nil => exact absurd rfl nonempty
  | cons field fields ih =>
    have fieldFree := free field List.mem_cons_self
    -- The cut may fall into the first field, whether or not others follow.
    have inside : p <+: field → ∃ done field' rest part,
        field :: fields = done ++ field' :: rest ∧ part <+: field' ∧
          p = [sep].intercalate (done ++ [part]) ∧ splitOn sep p = done ++ [part] := by
      intro cut
      refine ⟨[], field, fields, p, rfl, cut, by simp, ?_⟩
      rw [splitOn_of_not_mem fun mem => fieldFree (cut.subset mem), List.nil_append]
    cases fields with
    | nil => exact inside (by simpa using cut)
    | cons next fields =>
      rw [List.intercalate_cons_cons, List.append_assoc, List.singleton_append] at cut
      rcases List.prefix_or_prefix_of_prefix cut (List.prefix_append field _) with short | ⟨q, rfl⟩
      · exact inside short
      rcases List.prefix_cons_iff.mp ((List.prefix_append_right_inj _).mp cut) with
        rfl | ⟨q, rfl, inner⟩
      · exact inside (by simp)
      · obtain ⟨done, last, rest, part, split, inLast, joined, parts⟩ :=
          ih (by simp) (fun f mem => free f (List.mem_cons_of_mem _ mem)) inner
        refine ⟨field :: done, last, rest, part, by rw [split]; rfl, inLast, ?_, ?_⟩
        · rw [joined, List.cons_append, List.intercalate_cons_of_ne_nil (by simp)]
          simp
        · rw [splitOn_eq, List.splitOn_append_cons_self_of_not_mem fieldFree, ← splitOn_eq, parts]
          rfl

end

end TrieJournal
