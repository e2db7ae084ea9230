import TrieJournal.Proofs.Trie.RoundTrip
import TrieJournal.Record.Leaves

/-!
# Where a node ends

The header of a list says how long the list is, so the list tells its own end. A header that is cut
is either noticed or says the same as the whole one, and then there are too few bytes behind it; of
bytes behind the list, the node says how many they are.
-/

namespace TrieJournal

namespace Rlp

/-! ### Cut headers -/

theorem longHeader_front {n : Nat} {front rest : Bytes} {h : Header}
    (read : longHeader n (front ++ rest) = .ok h) :
    longHeader n front = .error .tooShort ∨ longHeader n front = .ok h := by
  cases front with
  | nil => exact Or.inl rfl
  | cons lead others =>
    rw [List.cons_append, longHeader] at read
    rw [longHeader]
    split at read
    · cases read
    · rename_i noZero
      rw [if_neg noZero]
      by_cases cut : (lead :: others).length < n
      · exact Or.inl (if_pos cut)
      · -- The bytes of the length are all there, so they are the same with and without the rest.
        have same : (lead :: (others ++ rest)).take n = (lead :: others).take n := by
          rw [← List.cons_append, List.take_append_of_le_length (by omega)]
        rw [same] at read
        rw [if_neg cut]
        split at read
        · cases read
        · exact Or.inr read

theorem leadingHeader_front {front rest : Bytes} {h : Header}
    (read : leadingHeader (front ++ rest) = .ok h) :
    leadingHeader front = .error .tooShort ∨ leadingHeader front = .ok h := by
  cases front with
  | nil => exact Or.inl rfl
  | cons lead others =>
    rw [List.cons_append] at read
    rcases leadingHeader_cons lead with
      ⟨-, alone⟩ | ⟨n, -, -, alone⟩ | ⟨n, -, -, -, others⟩
    · rw [alone] at read ⊢
      exact Or.inr read
    · rw [alone] at read ⊢
      exact Or.inr read
    · rw [others] at read ⊢
      exact longHeader_front read

/-- An item that is cut is too short. -/
theorem Framed.header_front {head content front rest : Bytes} (framed : Framed head content)
    (same : head ++ content = front ++ rest) (cut : rest ≠ []) :
    Rlp.header front = .error .tooShort := by
  have read := framed []
  rw [List.append_nil, same] at read
  unfold Rlp.header
  rcases leadingHeader_front read with short | whole
  · rw [short]
    rfl
  · have fewer : ¬(⟨head.length, content.length⟩ : Header).itemLength ≤ front.length := by
      have length := congrArg List.length same
      have some := List.length_pos_iff.mpr cut
      rw [List.length_append, List.length_append] at length
      simp only [Header.itemLength]
      omega
    rw [whole]
    simp only [bind, Except.bind, if_neg fewer]
    rfl

end Rlp

namespace Node

section
variable {head content : Bytes} (framed : Rlp.Framed head content)
  (list : Rlp.isList (head ++ content) = true)
include framed list

theorem decode_front {front rest : Bytes} (same : head ++ content = front ++ rest)
    (cut : rest ≠ []) :
    decode front = .error (if front = [] then .notList else .rlp .tooShort) := by
  by_cases empty : front = []
  · subst empty
    rfl
  · rw [same, Rlp.isList_append empty] at list
    unfold decode
    rw [if_pos list, framed.header_front same cut, if_neg empty]
    rfl

theorem decode_append {rest : Bytes} (some : rest ≠ []) :
    decode ((head ++ content) ++ rest) = .error (.trailingBytes rest.length) := by
  have positive := List.length_pos_iff.mpr some
  have header := framed.header rest
  rw [← List.append_assoc] at header
  have bytes : head ++ content ≠ [] := by
    intro empty
    rw [empty] at list
    cases list
  have more : (⟨head.length, content.length⟩ : Rlp.Header).itemLength <
      ((head ++ content) ++ rest).length := by
    simp only [Rlp.Header.itemLength, List.length_append]
    omega
  have behind : ((head ++ content) ++ rest).length -
      (⟨head.length, content.length⟩ : Rlp.Header).itemLength = rest.length := by
    simp only [Rlp.Header.itemLength, List.length_append]
    omega
  unfold decode
  rw [Rlp.isList_append bytes, if_pos list, header]
  simp only [mapError_ok, bind, Except.bind, if_pos more, behind]
  rfl

end

theorem isAccountLeaf_of_error {r : Record} {value : Bytes} {e : NodeError}
    (stored : r.value = some value) (refused : decode value = .error e) :
    r.isAccountLeaf = false := by
  unfold Record.isAccountLeaf
  rw [stored, Option.any_some, refused]
  exact Bool.and_false _

/-- A node that is cut is refused, wherever it is cut, and so is a node with anything behind it. No
record with such a value is one of a leaf. -/
theorem delimited_of_decode {blob : Bytes} {node : Node} (read : decode blob = .ok node) :
    (∀ front, front <+: blob → front ≠ blob →
      decode front = .error (if front = [] then .notList else .rlp .tooShort)) ∧
    (∀ rest, rest ≠ [] → decode (blob ++ rest) = .error (.trailingBytes rest.length)) ∧
    ∀ (r : Record) (value : Bytes), r.value = some value → value ≠ blob →
      value <+: blob ∨ blob <+: value → r.isAccountLeaf = false := by
  obtain ⟨head, content, rfl, framed, list⟩ := framed_of_decode read
  have cut : ∀ front, front <+: head ++ content → front ≠ head ++ content →
      decode front = .error (if front = [] then .notList else .rlp .tooShort) := by
    rintro front ⟨rest, same⟩ other
    refine decode_front framed list same.symm ?_
    rintro rfl
    exact other ((List.append_nil front).symm.trans same)
  have extended : ∀ rest, rest ≠ [] →
      decode ((head ++ content) ++ rest) = .error (.trailingBytes rest.length) :=
    fun rest some => decode_append framed list some
  refine ⟨cut, extended, ?_⟩
  rintro r value stored other (front | ⟨rest, rfl⟩)
  · exact isAccountLeaf_of_error stored (cut value front other)
  · refine isAccountLeaf_of_error stored (extended rest ?_)
    rintro rfl
    exact other (List.append_nil _)

/-- A leaf whose header has two bytes, cut between them and inside its payload, and followed by a
second copy of itself. -/
theorem delimited_of_decode_long :
    let leaf := encodeShort ⟨[], true⟩ (List.replicate 56 7)
    leaf.take 5 = [0xF8, 0x3B, 0x20, 0xB8, 0x38] ∧ leaf.length = 61 ∧
      decode leaf = .ok (.leaf [] (List.replicate 56 7)) ∧
      decode (leaf.take 1) = .error (.rlp .tooShort) ∧
      decode (leaf.take 60) = .error (.rlp .tooShort) ∧
      decode (leaf ++ leaf) = .error (.trailingBytes 61) := by
  intro leaf
  have read : decode leaf = .ok (.leaf [] (List.replicate 56 7)) :=
    decode_encodeShort (by decide) (by decide) (by decide +kernel)
  have length : leaf.length = 61 := by decide +kernel
  obtain ⟨cut, extended, -⟩ := delimited_of_decode read
  have taken (n : Nat) (some : 0 < n) (fewer : n < 61) :
      decode (leaf.take n) = .error (.rlp .tooShort) := by
    have shorter : (leaf.take n).length = n := by rw [List.length_take]; omega
    have front : leaf.take n ≠ [] := fun empty => by simp [empty] at shorter; omega
    rw [cut _ (List.take_prefix n leaf) (fun same => by rw [same] at shorter; omega), if_neg front]
  refine ⟨by decide +kernel, length, read, taken 1 (by decide) (by decide),
    taken 60 (by decide) (by decide), ?_⟩
  rw [extended leaf (fun empty => by simp [empty] at length), length]

end Node

end TrieJournal
