import TrieJournal.Proofs.Rlp.Items

/-!
# One encoding for each item

A header is written in one way only, so what is read is the encoding of what it is read as: a byte
string, a number without a leading zero, or the list that an item is the first of.
-/

namespace TrieJournal

namespace Rlp

/-! ### Byte strings and numbers -/

theorem value_cons_eq_ok {lead : UInt8} {rest b : Bytes} : value (lead :: rest) = .ok b ↔
    lead < 0xC0 ∧ ¬(lead = 0x81 ∧ rest.head?.any (· < 0x80) = true) ∧
      payload (lead :: rest) = .ok b := by
  have low : lead < 0xC0 ↔ ¬0xC0 ≤ lead := by
    rw [UInt8.lt_iff_toNat_lt, UInt8.le_iff_toNat_le, Nat.not_le]
  rw [low, value]
  by_cases list : 0xC0 ≤ lead
  · rw [if_pos list]
    constructor
    · intro failed
      cases failed
    · rintro ⟨low, -⟩
      exact absurd list low
  · rw [if_neg list]
    by_cases single : lead = 0x81 ∧ rest.head?.any (· < 0x80) = true
    · rw [if_pos single]
      constructor
      · intro failed
        cases failed
      · rintro ⟨-, minimal, -⟩
        exact absurd single minimal
    · rw [if_neg single]
      exact ⟨fun read => ⟨list, single, read⟩, fun both => both.2.2⟩

theorem IsItem.ne_nil {item : Bytes} (complete : IsItem item) : item ≠ [] := by
  obtain ⟨head, content, framed, rfl⟩ := complete
  intro empty
  have read := framed []
  rw [List.append_nil, empty] at read
  cases read

theorem IsItem.eq_encodeBytes {item b : Bytes} (complete : IsItem item)
    (read : value item = .ok b) : item = encodeBytes b ∧ b.length < Bytes.capacity 8 := by
  obtain ⟨lead, others, split⟩ := List.exists_cons_of_ne_nil complete.ne_nil
  rw [split, value_cons_eq_ok] at read
  obtain ⟨low, minimal, read⟩ := read
  obtain ⟨head, content, framed, rfl⟩ := complete
  have leading := framed []
  have payload := framed.payload []
  rw [List.append_nil, split] at leading payload
  obtain rfl := Except.ok.inj (payload.symm.trans read)
  refine ⟨?_, payloadLength_lt leading⟩
  rcases framed.canonical with ⟨byte, small, rfl, rfl⟩ | header
  · rw [encodeBytes, if_pos small]
    rfl
  · have base : headerBase (head ++ content) = 0x80 := by
      rw [split, headerBase_cons]
      exact if_pos low
    rw [base] at header
    unfold encodeBytes
    split
    · rename_i byte
      -- A small byte has no header, and this item is known to be in its shortest form.
      by_cases small : byte < 0x80
      · rw [header] at split
        obtain ⟨rfl, rfl⟩ := List.cons.inj split
        exact absurd ⟨rfl, decide_eq_true small⟩ minimal
      · rw [if_neg small, header]
        rfl
    · exact congrArg (· ++ _) header

theorem IsItem.number_eq_ok {n : Nat} {item : Bytes} {v : Fin (Bytes.capacity n)}
    (complete : IsItem item) (narrow : n ≤ 55) :
    number n item = .ok v ↔ item = encodeNat v.val := by
  constructor
  · intro read
    unfold number at read
    cases bytes : value item with
    | error e =>
      rw [bytes] at read
      cases read
    | ok b =>
      obtain ⟨rfl, -⟩ := complete.eq_encodeBytes bytes
      simp only [bytes, bind, Except.bind] at read
      split at read
      · cases read
      · rename_i lead
        split at read
        · obtain rfl := Except.ok.inj read
          rw [encodeNat, Bytes.ofNat_toNat lead]
        · cases read
  · rintro rfl
    exact number_encodeNat narrow v

theorem IsItem.fixed_eq_ok {n : Nat} {item : Bytes} {d : { b : Bytes // b.length = n }}
    (complete : IsItem item) (narrow : n < Bytes.capacity 8) :
    fixed n item = .ok d ↔ item = encodeBytes d.val := by
  have length := d.property
  constructor
  · intro read
    unfold fixed at read
    cases bytes : value item with
    | error e =>
      rw [bytes] at read
      cases read
    | ok b =>
      obtain ⟨rfl, -⟩ := complete.eq_encodeBytes bytes
      simp only [bytes, bind, Except.bind] at read
      split at read
      · obtain rfl := Except.ok.inj read
        rfl
      · split at read <;> cases read
  · rintro rfl
    exact fixed_encodeBytes (by omega) length

/-! ### Lists -/

/-- The first item of a list stands behind the shortest header of the list. The list reaches to the
end of that item at least, and what follows need not belong to it. -/
theorem firstItem_eq_ok {b item rest : Bytes} : firstItem b = .ok (item, rest) ↔
    IsItem item ∧ ∃ n, b = encodeHeader 0xC0 n ++ (item ++ rest) ∧ item.length ≤ n ∧
      n ≤ (item ++ rest).length ∧ n < Bytes.capacity 8 := by
  constructor
  · intro read
    have list : isList b = true := by
      unfold firstItem at read
      split at read
      · assumption
      · cases read
    have steps := read
    rw [firstItem, if_pos list] at steps
    obtain ⟨h, found, -⟩ := bind_eq_ok.mp steps
    obtain ⟨head, content, after, rfl, framed, -⟩ := framed_of_header found
    rw [firstItem_behind framed list] at read
    cases taken : splitItem content with
    | error e =>
      rw [taken] at read
      cases read
    | ok both =>
      obtain ⟨front, inner⟩ := both
      rw [taken] at read
      obtain ⟨rfl, rfl⟩ := Prod.mk.inj (Except.ok.inj read)
      obtain ⟨rfl, complete⟩ := splitItem_eq_ok.mp taken
      have whole : head ++ (front ++ inner) ≠ [] := by
        have some := complete.ne_nil
        simp [some]
      rw [← List.append_assoc, isList_append whole] at list
      have bound := payloadLength_lt (framed [])
      refine ⟨complete, (front ++ inner).length, ?_, ?_, ?_, bound⟩
      · rw [← framed.canonical_list list, ← List.append_assoc front]
      · rw [List.length_append]
        exact Nat.le_add_right _ _
      · rw [← List.append_assoc]
        exact (List.prefix_append (front ++ inner) after).length_le
  · rintro ⟨complete, n, rfl, first, fits, wide⟩
    -- The payload is cut off the bytes that follow, and its first item is left whole.
    have payload : (item ++ rest).take n = item ++ rest.take (n - item.length) := by
      rw [List.take_append, List.take_of_length_le first]
    have length : ((item ++ rest).take n).length = n := by
      rw [List.length_take]
      omega
    have framed :
        Framed (encodeHeader 0xC0 ((item ++ rest).take n).length) ((item ++ rest).take n) :=
      framed_encodeHeader (Or.inr rfl) (by omega)
    have list := isList_encodeHeader wide (item ++ rest)
    rw [length] at framed
    rw [← List.take_append_drop n (item ++ rest)] at list
    have read := firstItem_behind framed list
    rw [List.take_append_drop] at read
    have behind : (item ++ rest).drop n = rest.drop (n - item.length) := by
      rw [List.drop_append, List.drop_of_length_le first, List.nil_append]
    rw [read, payload, complete.whole, behind]
    exact congrArg (fun left => Except.ok (item, left)) (List.take_append_drop _ rest)

end Rlp

end TrieJournal
