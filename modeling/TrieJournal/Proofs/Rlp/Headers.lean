import TrieJournal.Proofs.Rlp.Numbers

/-!
# Headers

A payload is read back from behind its header: `Framed` says that a header tells where its payload
ends, whatever follows. A header is written in one way only, so what is read is the shortest header
for the payload that it announces, and a byte string whose header can be read starts with an item.
-/

namespace TrieJournal

namespace Rlp

/-! ### Headers that are written -/

/-- The header tells where the payload ends. -/
def Framed (head content : Bytes) : Prop :=
  ∀ rest, leadingHeader (head ++ (content ++ rest)) = .ok ⟨head.length, content.length⟩

namespace Framed
variable {head content : Bytes} (framed : Framed head content)
include framed

theorem header (rest : Bytes) :
    header (head ++ (content ++ rest)) = .ok ⟨head.length, content.length⟩ := by
  refine header_eq_ok.mpr ⟨framed rest, ?_⟩
  simp only [Header.itemLength, List.length_append]
  omega

theorem payload (rest : Bytes) : payload (head ++ (content ++ rest)) = .ok content := by
  simp only [Rlp.payload, framed.header, bind, Except.bind, List.drop_left, List.take_left]
  rfl

theorem splitItem (rest : Bytes) :
    splitItem (head ++ (content ++ rest)) = .ok (head ++ content, rest) := by
  have length : (⟨head.length, content.length⟩ : Header).itemLength = (head ++ content).length := by
    simp [Header.itemLength]
  simp only [Rlp.splitItem, framed.header, bind, Except.bind, length]
  rw [← List.append_assoc, List.take_left, List.drop_left]
  rfl

end Framed

theorem framed_byte {byte : UInt8} (small : byte < 0x80) : Framed [] [byte] := by
  intro rest
  have small : byte.toNat < 0x80 := small
  rw [List.nil_append, List.singleton_append, leadingHeader, if_pos small]
  rfl

theorem longHeader_ofNat {n : Nat} (long : 55 < n) (rest : Bytes) :
    longHeader (Bytes.ofNat n).length (Bytes.ofNat n ++ rest) =
      .ok ⟨1 + (Bytes.ofNat n).length, n⟩ := by
  cases digits : Bytes.ofNat n with
  | nil => exact absurd digits (Bytes.ofNat_ne_nil (by omega))
  | cons lead others =>
    have noZero : lead ≠ 0 := by
      have first := Bytes.head?_ofNat n
      rw [digits, List.head?_cons] at first
      exact fun zero => first (congrArg some zero)
    have number : Bytes.toNat (lead :: others) = n := by rw [← digits, Bytes.toNat_ofNat]
    have enough : ¬(lead :: (others ++ rest)).length < (lead :: others).length := by
      simp only [List.length_cons, List.length_append]
      omega
    have front : (lead :: (others ++ rest)).take (lead :: others).length = lead :: others :=
      List.take_left
    rw [List.cons_append, longHeader, if_neg noZero, if_neg enough, front, number,
      if_neg (by omega)]

theorem leadingHeader_encodeHeader {base n : Nat} (kind : base = 0x80 ∨ base = 0xC0)
    (fits : n < Bytes.capacity 8) (rest : Bytes) :
    leadingHeader (encodeHeader base n ++ rest) = .ok ⟨(encodeHeader base n).length, n⟩ := by
  unfold encodeHeader
  split
  · rename_i short
    have lead : (UInt8.ofNat (base + n)).toNat = base + n := by
      rw [UInt8.toNat_ofNat']
      omega
    rw [List.singleton_append, leadingHeader, lead]
    rcases kind with rfl | rfl
    · rw [if_neg (by omega), if_pos (by omega), Nat.add_sub_cancel_left]
      rfl
    · rw [if_neg (by omega), if_neg (by omega), if_neg (by omega), if_pos (by omega),
        Nat.add_sub_cancel_left]
      rfl
  · rename_i long
    have width := Bytes.length_ofNat_le fits
    have some : 0 < (Bytes.ofNat n).length :=
      List.length_pos_iff.mpr (Bytes.ofNat_ne_nil (by omega))
    have read := longHeader_ofNat (n := n) (by omega) rest
    generalize Bytes.ofNat n = digits at width some read ⊢
    have lead : (UInt8.ofNat (base + 55 + digits.length)).toNat = base + 55 + digits.length := by
      rw [UInt8.toNat_ofNat']
      omega
    rw [List.cons_append, leadingHeader, lead, List.length_cons, Nat.add_comm digits.length 1]
    rcases kind with rfl | rfl
    · rw [if_neg (by omega), if_neg (by omega), if_pos (by omega),
        show 0x80 + 55 + digits.length - 0xB7 = digits.length by omega, read]
    · rw [if_neg (by omega), if_neg (by omega), if_neg (by omega), if_neg (by omega),
        show 0xC0 + 55 + digits.length - 0xF7 = digits.length by omega, read]

theorem framed_encodeHeader {base : Nat} (kind : base = 0x80 ∨ base = 0xC0) {content : Bytes}
    (fits : content.length < Bytes.capacity 8) :
    Framed (encodeHeader base content.length) content :=
  fun rest => leadingHeader_encodeHeader kind fits (content ++ rest)

/-- The first byte of a header. It announces a single byte for no other payload. -/
theorem encodeHeader_lead {base n : Nat} (low : base ≤ 0xC0) (fits : n < Bytes.capacity 8) :
    ∃ lead rest mark, encodeHeader base n = lead :: rest ∧ lead.toNat = base + mark ∧ mark ≤ 63 ∧
      (mark = 1 → n = 1 ∧ rest = []) := by
  unfold encodeHeader
  split
  · refine ⟨_, _, n, rfl, ?_, by omega, fun single => ⟨single, rfl⟩⟩
    rw [UInt8.toNat_ofNat']
    omega
  · rename_i long
    have width := Bytes.length_ofNat_le fits
    have some : 0 < (Bytes.ofNat n).length :=
      List.length_pos_iff.mpr (Bytes.ofNat_ne_nil (by omega))
    refine ⟨_, _, 55 + (Bytes.ofNat n).length, rfl, ?_, by omega, by omega⟩
    rw [UInt8.toNat_ofNat']
    omega

theorem isList_encodeHeader {n : Nat} (fits : n < Bytes.capacity 8) (rest : Bytes) :
    isList (encodeHeader 0xC0 n ++ rest) = true := by
  obtain ⟨lead, others, mark, same, value, -⟩ := encodeHeader_lead (Nat.le_refl 0xC0) fits
  rw [same, List.cons_append, isList, decide_eq_true_eq, UInt8.le_iff_toNat_le, value]
  exact Nat.le_add_right 0xC0 mark

/-! ### Headers that are read -/

def headerBase (b : Bytes) : Nat := if isList b then 0xC0 else 0x80

theorem headerBase_eq (b : Bytes) : headerBase b = 0x80 ∨ headerBase b = 0xC0 := by
  unfold headerBase
  split
  · exact Or.inr rfl
  · exact Or.inl rfl

theorem headerBase_cons (lead : UInt8) (rest : Bytes) :
    headerBase (lead :: rest) = if lead.toNat < 0xC0 then 0x80 else 0xC0 := by
  by_cases string : lead.toNat < 0xC0
  · rw [if_pos string]
    exact if_neg (by simpa [isList, UInt8.le_iff_toNat_le] using string)
  · rw [if_neg string]
    exact if_pos (by simpa [isList, UInt8.le_iff_toNat_le] using string)

/-- The first byte is an item by itself, or it tells the length of the payload, or the number of
bytes that tell it. Only then are the bytes after it looked at. -/
theorem leadingHeader_cons (lead : UInt8) :
    (lead < 0x80 ∧ ∀ rest, leadingHeader (lead :: rest) = .ok ⟨0, 1⟩) ∨
      (∃ n, n ≤ 55 ∧ lead.toNat = headerBase [lead] + n ∧
        ∀ rest, leadingHeader (lead :: rest) = .ok ⟨1, n⟩) ∨
      ∃ n, 0 < n ∧ n ≤ 8 ∧ lead.toNat = headerBase [lead] + 55 + n ∧
        ∀ rest, leadingHeader (lead :: rest) = longHeader n rest := by
  have bound := lead.toNat_lt
  rw [headerBase_cons]
  simp only [leadingHeader]
  by_cases byte : lead.toNat < 0x80
  · exact Or.inl ⟨byte, fun _ => if_pos byte⟩
  refine Or.inr ?_
  simp only [if_neg byte]
  by_cases string : lead.toNat < 0xC0
  · simp only [if_pos string]
    by_cases short : lead.toNat < 0xB8
    · exact Or.inl ⟨lead.toNat - 0x80, by omega, by omega, fun _ => if_pos short⟩
    · simp only [if_neg short]
      exact Or.inr ⟨lead.toNat - 0xB7, by omega, by omega, by omega, fun _ => rfl⟩
  · simp only [if_neg string, if_neg (show ¬lead.toNat < 0xB8 by omega)]
    by_cases short : lead.toNat < 0xF8
    · exact Or.inl ⟨lead.toNat - 0xC0, by omega, by omega, fun _ => if_pos short⟩
    · simp only [if_neg short]
      exact Or.inr ⟨lead.toNat - 0xF7, by omega, by omega, by omega, fun _ => rfl⟩

theorem longHeader_eq_ok {n : Nat} {b : Bytes} {h : Header} (some : 0 < n)
    (read : longHeader n b = .ok h) : ∃ rest, b = Bytes.ofNat h.payloadLength ++ rest ∧
      (Bytes.ofNat h.payloadLength).length = n ∧ 55 < h.payloadLength ∧ h.headerLength = 1 + n := by
  cases b with
  | nil => cases read
  | cons lead others =>
    rw [longHeader] at read
    repeat' split at read
    all_goals try cases read
    rename_i noZero enough long
    obtain ⟨k, rfl⟩ := Nat.exists_eq_add_of_le' some
    have digits : Bytes.ofNat (Bytes.toNat ((lead :: others).take (k + 1))) =
        (lead :: others).take (k + 1) := by
      apply Bytes.ofNat_toNat
      rw [List.take_succ_cons, List.head?_cons]
      exact fun zero => noZero (Option.some.inj zero)
    refine ⟨(lead :: others).drop (k + 1), ?_, ?_, Nat.lt_of_not_le long, rfl⟩
    · rw [digits, List.take_append_drop]
    · rw [digits, List.length_take]
      omega

theorem payloadLength_lt_of_longHeader {n : Nat} {b : Bytes} {h : Header} (narrow : n ≤ 8)
    (read : longHeader n b = .ok h) : h.payloadLength < Bytes.capacity 8 := by
  unfold longHeader at read
  repeat' split at read
  all_goals cases read
  refine Nat.lt_of_lt_of_le (Bytes.toNat_lt _) (Bytes.capacity_mono ?_)
  rw [List.length_take]
  omega

theorem payloadLength_lt {b : Bytes} {h : Header} (read : leadingHeader b = .ok h) :
    h.payloadLength < Bytes.capacity 8 := by
  have wide : 55 < Bytes.capacity 8 := by decide
  cases b with
  | nil => cases read
  | cons lead rest =>
    rcases leadingHeader_cons lead with
      ⟨-, alone⟩ | ⟨n, short, -, alone⟩ | ⟨n, -, narrow, -, others⟩
    · obtain rfl := Except.ok.inj ((alone rest).symm.trans read)
      exact Nat.lt_trans (by decide) wide
    · obtain rfl := Except.ok.inj ((alone rest).symm.trans read)
      exact Nat.lt_of_le_of_lt short wide
    · exact payloadLength_lt_of_longHeader narrow ((others rest).symm.trans read)

theorem encodeHeader_short {base n : Nat} {lead : UInt8} (value : lead.toNat = base + n)
    (short : n ≤ 55) : encodeHeader base n = [lead] := by
  rw [encodeHeader, if_pos short, ← value, UInt8.ofNat_toNat]

theorem encodeHeader_long {base n : Nat} {lead : UInt8}
    (value : lead.toNat = base + 55 + (Bytes.ofNat n).length) (long : 55 < n) :
    encodeHeader base n = lead :: Bytes.ofNat n := by
  rw [encodeHeader, if_neg (by omega), ← value, UInt8.ofNat_toNat]

/-- A header that is read is the shortest one for its payload. -/
theorem canonical_of_leadingHeader {b : Bytes} {h : Header} (read : leadingHeader b = .ok h) :
    (∃ byte rest, b = byte :: rest ∧ byte < 0x80 ∧ h = ⟨0, 1⟩) ∨
      ∃ rest, b = encodeHeader (headerBase b) h.payloadLength ++ rest ∧
        h.headerLength = (encodeHeader (headerBase b) h.payloadLength).length := by
  cases b with
  | nil => cases read
  | cons lead rest =>
    have base : headerBase (lead :: rest) = headerBase [lead] := rfl
    rw [base]
    rcases leadingHeader_cons lead with
      ⟨small, alone⟩ | ⟨n, short, value, alone⟩ | ⟨n, some, -, value, others⟩
    · obtain rfl := Except.ok.inj ((alone rest).symm.trans read)
      exact Or.inl ⟨lead, rest, rfl, small, rfl⟩
    · obtain rfl := Except.ok.inj ((alone rest).symm.trans read)
      have header := encodeHeader_short value short
      exact Or.inr ⟨rest, by rw [header, List.singleton_append], by rw [header]; rfl⟩
    · rw [others] at read
      obtain ⟨after, rfl, width, long, length⟩ := longHeader_eq_ok some read
      have header : encodeHeader (headerBase [lead]) h.payloadLength =
          lead :: Bytes.ofNat h.payloadLength := encodeHeader_long (by omega) long
      refine Or.inr ⟨after, by rw [header, List.cons_append], ?_⟩
      rw [header, List.length_cons, width, length]
      omega

/-- The front of a byte string whose header can be read is a header with its payload. -/
theorem framed_of_header {b : Bytes} {h : Header} (read : header b = .ok h) :
    ∃ head content rest, b = head ++ (content ++ rest) ∧ Framed head content ∧
      h = ⟨head.length, content.length⟩ := by
  obtain ⟨leading, fits⟩ := header_eq_ok.mp read
  rcases canonical_of_leadingHeader leading with ⟨byte, rest, rfl, small, rfl⟩ | ⟨rest, same, width⟩
  · exact ⟨[], [byte], rest, rfl, framed_byte small, rfl⟩
  · have wide := payloadLength_lt leading
    have whole := congrArg List.length same
    rw [List.length_append, ← width] at whole
    unfold Header.itemLength at fits
    have length : (rest.take h.payloadLength).length = h.payloadLength := by
      rw [List.length_take]
      omega
    have framed : Framed (encodeHeader (headerBase b) (rest.take h.payloadLength).length)
        (rest.take h.payloadLength) := framed_encodeHeader (headerBase_eq b) (by omega)
    rw [length] at framed
    refine ⟨_, _, rest.drop h.payloadLength, ?_, framed, ?_⟩
    · rw [List.take_append_drop]
      exact same
    · rw [length, ← width]

theorem Framed.canonical {head content : Bytes} (framed : Framed head content) :
    (∃ byte, byte < 0x80 ∧ head = [] ∧ content = [byte]) ∨
      head = encodeHeader (headerBase (head ++ content)) content.length := by
  have leading := framed []
  rw [List.append_nil] at leading
  rcases canonical_of_leadingHeader leading with
    ⟨byte, rest, same, small, extent⟩ | ⟨rest, same, width⟩
  · obtain ⟨noHead, single⟩ := Header.mk.inj extent
    obtain rfl := List.eq_nil_of_length_eq_zero noHead
    obtain ⟨only, rfl⟩ := List.length_eq_one_iff.mp single
    obtain ⟨rfl, -⟩ := List.cons.inj same
    exact Or.inl ⟨only, small, rfl, rfl⟩
  · exact Or.inr (List.append_inj same width).1

theorem Framed.canonical_list {head content : Bytes} (framed : Framed head content)
    (list : isList (head ++ content) = true) : head = encodeHeader 0xC0 content.length := by
  rcases framed.canonical with ⟨byte, small, rfl, rfl⟩ | header
  · have large : 0xC0 ≤ byte := of_decide_eq_true list
    rw [UInt8.le_iff_toNat_le] at large
    rw [UInt8.lt_iff_toNat_lt] at small
    exact absurd (Nat.lt_of_le_of_lt large small) (by decide)
  · rwa [headerBase, if_pos list] at header

end Rlp

end TrieJournal
