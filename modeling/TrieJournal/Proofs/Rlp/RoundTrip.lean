import TrieJournal.Proofs.Rlp.Headers

/-!
# Items that read back

An encoded byte string or list is framed, so the items of an encoded list are read one after
another, and the bytes of an item are read back as they were encoded.
-/

namespace TrieJournal

namespace Rlp

/-! ### Byte strings -/

theorem encodeBytes_eq {b : Bytes} (fits : b.length < Bytes.capacity 8) :
    ∃ head, encodeBytes b = head ++ b ∧ Framed head b := by
  have headed := framed_encodeHeader (Or.inl rfl) fits
  unfold encodeBytes
  split
  · rename_i byte
    split
    · rename_i small
      exact ⟨[], rfl, framed_byte small⟩
    · exact ⟨_, rfl, headed⟩
  · exact ⟨_, rfl, headed⟩

/-- The first byte of an encoded byte string. It is not that of a list, and it announces a single
byte only if that byte is not its own encoding. -/
theorem encodeBytes_lead {b : Bytes} (fits : b.length < Bytes.capacity 8) :
    ∃ lead rest, encodeBytes b = lead :: rest ∧ lead < 0xC0 ∧
      ¬(lead = 0x81 ∧ rest.head?.any (· < 0x80) = true) := by
  have headed : (∀ byte, b = [byte] → ¬byte < 0x80) → ∃ lead rest,
      encodeHeader 0x80 b.length ++ b = lead :: rest ∧ lead < 0xC0 ∧
        ¬(lead = 0x81 ∧ rest.head?.any (· < 0x80) = true) := by
    intro large
    obtain ⟨lead, rest, mark, same, value, bound, single⟩ :=
      encodeHeader_lead (show 0x80 ≤ 0xC0 by decide) fits
    refine ⟨lead, rest ++ b, by rw [same, List.cons_append], ?_, ?_⟩
    · rw [UInt8.lt_iff_toNat_lt, value]
      change 0x80 + mark < 0xC0
      omega
    · rintro ⟨announced, small⟩
      rw [announced] at value
      change 0x80 + 1 = 0x80 + mark at value
      obtain ⟨length, rfl⟩ := single (by omega)
      obtain ⟨byte, rfl⟩ := List.length_eq_one_iff.mp length
      exact large byte rfl (by simpa using small)
  unfold encodeBytes
  split
  · rename_i byte
    split
    · rename_i small
      have small : byte.toNat < 0x80 := small
      refine ⟨byte, [], rfl, ?_, by simp⟩
      rw [UInt8.lt_iff_toNat_lt]
      change byte.toNat < 0xC0
      omega
    · rename_i large
      exact headed fun other same => by
        obtain rfl := List.singleton_inj.mp same
        exact large
  · rename_i many
    exact headed fun byte same => absurd same (many byte)

section
variable {b : Bytes} (fits : b.length < Bytes.capacity 8)
include fits

theorem splitItem_encodeBytes (rest : Bytes) :
    splitItem (encodeBytes b ++ rest) = .ok (encodeBytes b, rest) := by
  obtain ⟨head, same, framed⟩ := encodeBytes_eq fits
  rw [same, List.append_assoc]
  exact framed.splitItem rest

theorem payload_encodeBytes : payload (encodeBytes b) = .ok b := by
  obtain ⟨head, same, framed⟩ := encodeBytes_eq fits
  have read := framed.payload []
  rwa [List.append_nil, ← same] at read

theorem encodeBytes_inj {c : Bytes} (fits' : c.length < Bytes.capacity 8)
    (same : encodeBytes b = encodeBytes c) : b = c := by
  have read := payload_encodeBytes fits
  rw [same, payload_encodeBytes fits'] at read
  exact (Except.ok.inj read).symm

theorem isByteString_encodeBytes : isByteString (encodeBytes b) = true := by
  obtain ⟨lead, rest, same, below, -⟩ := encodeBytes_lead fits
  rw [same, isByteString]
  exact decide_eq_true below

theorem value_encodeBytes : value (encodeBytes b) = .ok b := by
  have read := payload_encodeBytes fits
  obtain ⟨lead, rest, same, below, minimal⟩ := encodeBytes_lead fits
  rw [same] at read ⊢
  have string : ¬0xC0 ≤ lead := by
    rw [UInt8.le_iff_toNat_le]
    rw [UInt8.lt_iff_toNat_lt] at below
    omega
  rw [value, if_neg string, if_neg minimal, read]

theorem fixed_encodeBytes {n : Nat} (length : b.length = n) :
    fixed n (encodeBytes b) = .ok ⟨b, length⟩ := by
  simp only [fixed, value_encodeBytes fits, bind, Except.bind, length, dif_pos]
  rfl

end

theorem number_encodeNat {n : Nat} (narrow : n ≤ 55) (v : Fin (Bytes.capacity n)) :
    number n (encodeNat v.val) = .ok v := by
  have width := Bytes.length_ofNat_le v.isLt
  have fits : (Bytes.ofNat v.val).length < Bytes.capacity 8 := by
    have wide : 55 < Bytes.capacity 8 := by decide
    omega
  simp only [number, encodeNat, value_encodeBytes fits, bind, Except.bind,
    if_neg (Bytes.head?_ofNat v.val), dif_pos width, Bytes.toNat_ofNat]
  rfl

/-! ### Lists -/

/-- An item that is taken whole off the front of any byte string. -/
def Whole (item : Bytes) : Prop := ∀ rest, splitItem (item ++ rest) = .ok (item, rest)

theorem items_nil : items [] = [] := by
  rw [items]
  split
  · rename_i split
    cases split
  · rfl

theorem items_append {item : Bytes} (whole : Whole item) (rest : Bytes) :
    items (item ++ rest) = item :: items rest := by
  rw [items]
  split
  · rename_i found left split
    obtain ⟨rfl, rfl⟩ := Prod.mk.inj (Except.ok.inj (split.symm.trans (whole rest)))
    rfl
  · rename_i e split
    rw [whole rest] at split
    cases split

theorem items_flatten {l : List Bytes} (whole : ∀ item ∈ l, Whole item) : items l.flatten = l := by
  induction l with
  | nil => exact items_nil
  | cons item l ih =>
    have rest := ih fun other mem => whole other (List.mem_cons_of_mem _ mem)
    rw [List.flatten_cons, items_append (whole item List.mem_cons_self), rest]

section
variable {l : List Bytes} (fits : l.flatten.length < Bytes.capacity 8)
include fits

theorem framed_encodeList :
    Framed (encodeHeader 0xC0 l.flatten.length) l.flatten :=
  framed_encodeHeader (Or.inr rfl) fits

theorem isList_encodeList : isList (encodeList l) = true :=
  isList_encodeHeader fits l.flatten

end

theorem whole_encodeBytes {b : Bytes} (fits : b.length < Bytes.capacity 8) :
    Whole (encodeBytes b) :=
  splitItem_encodeBytes fits

/-! ### Sizes -/

theorem length_encodeHeader_le (base : Nat) {n : Nat} (fits : n < Bytes.capacity 8) :
    (encodeHeader base n).length ≤ 9 := by
  have width := Bytes.length_ofNat_le fits
  unfold encodeHeader
  split
  · exact Nat.le_add_left 1 8
  · rw [List.length_cons]
    omega

theorem length_le_encodeBytes (b : Bytes) : b.length ≤ (encodeBytes b).length := by
  unfold encodeBytes
  split
  · split <;> simp
  · rw [List.length_append]
    omega

theorem length_le_encodeList (items : List Bytes) :
    items.flatten.length ≤ (encodeList items).length := by
  rw [encodeList, List.length_append]
  omega

theorem length_le_flatten {items : List Bytes} {item : Bytes} (mem : item ∈ items) :
    item.length ≤ items.flatten.length :=
  (List.sublist_flatten_of_mem mem).length_le

theorem length_encodeBytes_le {b : Bytes} (fits : b.length < Bytes.capacity 8) :
    (encodeBytes b).length ≤ b.length + 9 := by
  have header := length_encodeHeader_le 0x80 fits
  unfold encodeBytes
  split
  · split
    · simp
    · simp only [List.length_append, List.length_singleton] at header ⊢
      omega
  · rw [List.length_append]
    omega

end Rlp

end TrieJournal
