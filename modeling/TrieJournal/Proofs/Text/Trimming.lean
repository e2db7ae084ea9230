import Mathlib.Data.List.DropRight
import TrieJournal.Proofs.Text.Split
import TrieJournal.Text.Blank

/-!
# Trimming

Trimming keeps exactly the lists that neither begin nor end with what is trimmed, and what it leaves
of any list is one of them. Behind the last separator of a list, what is dropped on the right
belongs to the last part, so a reader that trims its parts does not notice that it was dropped.
-/

namespace TrieJournal

section
variable {α : Type} {p : α → Bool} {l : List α}

/-! ### The right end -/

theorem dropRightWhile_isPrefix (p : α → Bool) (l : List α) : dropRightWhile p l <+: l :=
  List.rdropWhile_prefix p l

theorem dropRightWhile_sublist (p : α → Bool) (l : List α) : (dropRightWhile p l).Sublist l :=
  (dropRightWhile_isPrefix p l).sublist

theorem dropRightWhile_eq_self_iff : dropRightWhile p l = l ↔ ∀ a ∈ l.getLast?, p a = false := by
  rw [dropRightWhile, ← List.rdropWhile, List.rdropWhile_eq_self_iff]
  simp only [Option.mem_def, List.getLast?_eq_some_iff, Bool.not_eq_true]
  constructor
  · rintro kept a ⟨front, rfl⟩
    simpa using kept (List.concat_ne_nil a front)
  · intro kept filled
    exact kept _ ⟨_, (List.dropLast_append_getLast filled).symm⟩

theorem getLast?_dropRightWhile : ∀ a ∈ (dropRightWhile p l).getLast?, p a = false :=
  dropRightWhile_eq_self_iff.mp (List.rdropWhile_idempotent p l)

theorem dropRightWhile_append_cons {sep : α} (kept : p sep = false) (front rest : List α) :
    dropRightWhile p (front ++ sep :: rest) = front ++ sep :: dropRightWhile p rest := by
  have stops : ¬p sep = true := by simp [kept]
  rw [dropRightWhile, List.reverse_append, List.reverse_cons, List.append_assoc,
    List.dropWhile_append]
  split
  · rename_i all
    rw [List.singleton_append, List.dropWhile_cons_of_neg stops, dropRightWhile,
      List.isEmpty_iff.mp all]
    simp
  · rw [dropRightWhile]
    simp

/-- The cut at the last occurrence, which is the first one from the right. -/
theorem exists_last_cut {a : α} (mem : a ∈ l) :
    ∃ front back, l = front ++ a :: back ∧ a ∉ back := by
  obtain ⟨back, front, reversed, free⟩ := List.eq_append_cons_of_mem (List.mem_reverse.mpr mem)
  refine ⟨front.reverse, back.reverse, ?_, mt List.mem_reverse.mp free⟩
  rw [← List.reverse_reverse l, reversed, List.reverse_append, List.reverse_cons, List.append_assoc,
    List.singleton_append]

/-- A reading of the parts that does not see what is dropped at the end of a part does not see what
is dropped at the end of the whole. -/
theorem map_splitOn_dropRightWhile {β : Type} [DecidableEq α] {sep : α} {f : List α → β}
    (kept : p sep = false) (blind : ∀ part, f (dropRightWhile p part) = f part) (l : List α) :
    (splitOn sep (dropRightWhile p l)).map f = (splitOn sep l).map f := by
  have last {part : List α} (free : sep ∉ part) :
      (splitOn sep (dropRightWhile p part)).map f = (splitOn sep part).map f := by
    rw [splitOn_of_not_mem free,
      splitOn_of_not_mem fun mem => free ((dropRightWhile_sublist p part).subset mem),
      List.map_singleton, List.map_singleton, blind]
  by_cases mem : sep ∈ l
  · -- All parts but the one behind the last separator stay as they are.
    obtain ⟨front, part, rfl, free⟩ := exists_last_cut mem
    rw [dropRightWhile_append_cons kept, splitOn_append_cons, splitOn_append_cons, List.map_append,
      List.map_append, last free]
  · exact last mem

end

/-! ### Both ends -/

namespace Blank

section
variable {α : Type} {p q : α → Bool} {l : List α}

/-- No element at either end satisfies `p`. -/
structure Trimmed (p : α → Bool) (l : List α) : Prop where
  front : ∀ a ∈ l.head?, p a = false
  back : ∀ a ∈ l.getLast?, p a = false

theorem Trimmed.of_forall (kept : ∀ a ∈ l, p a = false) : Trimmed p l where
  front a first := kept a (List.mem_of_mem_head? first)
  back a last := kept a (List.mem_of_mem_getLast? last)

theorem trimBoth_eq (p : α → Bool) (l : List α) :
    trimBoth p l = dropRightWhile p (l.dropWhile p) := rfl

theorem trimBoth_sublist (p : α → Bool) (l : List α) : (trimBoth p l).Sublist l :=
  (dropRightWhile_sublist p _).trans (List.dropWhile_sublist p)

theorem dropWhile_eq_self_of_head? (kept : ∀ a ∈ l.head?, p a = false) : l.dropWhile p = l := by
  cases l with
  | nil => rfl
  | cons a rest => exact List.dropWhile_cons_of_neg (by simp [kept a rfl])

theorem head?_dropWhile (a : α) (first : a ∈ (l.dropWhile p).head?) : p a = false := by
  have stopped := List.head?_dropWhile_not p l
  rwa [Option.mem_def.mp first] at stopped

theorem trimmed_trimBoth (p : α → Bool) (l : List α) : Trimmed p (trimBoth p l) where
  front a first := by
    obtain ⟨rest, kept⟩ := dropRightWhile_isPrefix p (l.dropWhile p)
    refine head?_dropWhile (l := l) a ?_
    rw [← kept, List.head?_append]
    rw [trimBoth_eq, Option.mem_def] at first
    rw [first]
    rfl
  back := getLast?_dropRightWhile

theorem trimBoth_eq_self_iff : trimBoth p l = l ↔ Trimmed p l := by
  constructor
  · intro same
    exact same ▸ trimmed_trimBoth p l
  · rintro ⟨front, back⟩
    rw [trimBoth_eq, dropWhile_eq_self_of_head? front, dropRightWhile_eq_self_iff.mpr back]

theorem trimBoth_append_of_forall {back : List α} (dropped : ∀ a ∈ back, p a = true) (l : List α) :
    trimBoth p (l ++ back) = trimBoth p l := by
  rw [trimBoth_eq, trimBoth_eq, List.dropWhile_append]
  split
  · rename_i all
    rw [List.dropWhile_eq_nil_iff.mpr dropped, List.isEmpty_iff.mp all]
  · rw [dropRightWhile, List.reverse_append,
      List.dropWhile_append_of_pos fun a mem => dropped a (List.mem_reverse.mp mem),
      ← dropRightWhile]

/-- What trimming would take away may as well have been dropped before. -/
theorem trimBoth_dropRightWhile (weaker : ∀ a, q a = true → p a = true) (l : List α) :
    trimBoth p (dropRightWhile q l) = trimBoth p l := by
  have parts : dropRightWhile q l ++ l.rtakeWhile q = l := List.rdropWhile_append_rtakeWhile
  rw [← trimBoth_append_of_forall (fun a mem => weaker a (List.mem_rtakeWhile_imp mem)), parts]

end

end Blank

end TrieJournal
