import TrieJournal.Proofs.Reading
import TrieJournal.Proofs.Rlp.RoundTrip

/-!
# Items of a byte string

An item is a header with the payload that it announces, and nothing behind. What is taken off the
front of a byte string is an item, whatever follows it, so reading items one after another takes a
byte string apart into items and a rest that does not start with one. The items of a list are those
of its payload.
-/

namespace TrieJournal.Rlp

/-- A header with the payload that it announces. -/
def IsItem (item : Bytes) : Prop := ∃ head content, Framed head content ∧ item = head ++ content

theorem IsItem.whole {item : Bytes} (complete : IsItem item) : Whole item := by
  obtain ⟨head, content, framed, rfl⟩ := complete
  intro rest
  rw [List.append_assoc]
  exact framed.splitItem rest

theorem isItem_encodeBytes {b : Bytes} (fits : b.length < Bytes.capacity 8) :
    IsItem (encodeBytes b) := by
  obtain ⟨head, same, framed⟩ := encodeBytes_eq fits
  exact ⟨head, b, framed, same⟩

/-- No item is the front of another one. -/
theorem IsItem.append_inj {first second x y : Bytes} (one : IsItem first) (other : IsItem second)
    (same : first ++ x = second ++ y) : first = second ∧ x = y := by
  have read := one.whole x
  rw [same, other.whole y] at read
  obtain ⟨rfl, rfl⟩ := Prod.mk.inj (Except.ok.inj read)
  exact ⟨rfl, rfl⟩

/-! ### Taking a byte string apart -/

theorem splitItem_eq_ok {b item rest : Bytes} :
    splitItem b = .ok (item, rest) ↔ b = item ++ rest ∧ IsItem item := by
  constructor
  · intro split
    cases read : header b with
    | error e =>
      simp only [splitItem, read, bind, Except.bind] at split
      cases split
    | ok h =>
      obtain ⟨head, content, after, rfl, framed, -⟩ := framed_of_header read
      rw [framed.splitItem after] at split
      obtain ⟨rfl, rfl⟩ := Prod.mk.inj (Except.ok.inj split)
      exact ⟨(List.append_assoc _ _ _).symm, head, content, framed, rfl⟩
  · rintro ⟨rfl, complete⟩
    exact complete.whole rest

/-- The rest that is left once the items at the front are read. -/
theorem items_split (b : Bytes) :
    ∃ rest, b = (items b).flatten ++ rest ∧ (∀ item ∈ items b, IsItem item) ∧
      ∀ item, IsItem item → ¬item <+: rest := by
  fun_induction items b with
  | case1 b item rest split ih =>
    obtain ⟨rfl, complete⟩ := splitItem_eq_ok.mp split
    obtain ⟨last, same, others, stuck⟩ := ih
    refine ⟨last, ?_, ?_, stuck⟩
    · rw [List.flatten_cons, List.append_assoc, ← same]
    · exact List.forall_mem_cons.mpr ⟨complete, others⟩
  | case2 b e split =>
    refine ⟨b, rfl, by simp, ?_⟩
    rintro item complete ⟨rest, rfl⟩
    rw [complete.whole rest] at split
    cases split

/-! ### Items of a list -/

theorem isList_append {front : Bytes} (some : front ≠ []) (rest : Bytes) :
    isList (front ++ rest) = isList front := by
  obtain ⟨lead, others, rfl⟩ := List.exists_cons_of_ne_nil some
  rfl

/-- The first item lies within the payload, and what is left of the payload stands before the bytes
behind the list. -/
theorem firstItem_behind {head content after : Bytes} (framed : Framed head content)
    (list : isList (head ++ (content ++ after)) = true) :
    firstItem (head ++ (content ++ after)) =
      (splitItem content).map fun both => (both.1, both.2 ++ after) := by
  simp only [firstItem, list, if_true, framed.header, bind, Except.bind, List.drop_left,
    List.take_left]
  cases split : splitItem content with
  | error e => rfl
  | ok found =>
    obtain ⟨item, rest⟩ := found
    obtain ⟨rfl, -⟩ := splitItem_eq_ok.mp split
    simp only [pure, Except.pure, Except.map]
    rw [List.append_assoc, ← List.append_assoc head, ← List.length_append, List.drop_left]

section
variable {head content : Bytes} (framed : Framed head content)
  (list : isList (head ++ content) = true)
include framed

theorem Framed.header_whole : Rlp.header (head ++ content) = .ok ⟨head.length, content.length⟩ := by
  have read := framed.header []
  rwa [List.append_nil] at read

include list

theorem firstItem_framed : firstItem (head ++ content) = splitItem content := by
  have whole : isList (head ++ (content ++ [])) = true := by rwa [List.append_nil]
  have read := firstItem_behind framed whole
  rw [List.append_nil] at read
  rw [read]
  cases splitItem content with
  | error e => rfl
  | ok both => exact congrArg (fun rest => Except.ok (both.1, rest)) (List.append_nil both.2)

theorem itemCount_framed : itemCount (head ++ content) = (items content).length := by
  rw [itemCount, firstItem_framed framed list, items]
  split
  · rename_i item rest split
    rw [split]
    rfl
  · rename_i e split
    rw [split]
    rfl

end

end TrieJournal.Rlp
