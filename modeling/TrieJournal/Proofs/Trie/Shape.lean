import TrieJournal.Proofs.Rlp.Items
import TrieJournal.Trie.Node

/-!
# Shapes of nodes

A node is read from the items at the front of its list's payload, and from nothing else. The list
has to be all there and nothing may follow it, but the count of its items ends at the first one that
cannot be read. So what stands behind the second or the seventeenth item goes unnoticed, unless it
starts with another item.
-/

namespace TrieJournal

namespace Node

def itemCount : Node → Nat
  | branch => branchItems
  | extension _ | leaf _ _ => shortItems

def short (key value : Bytes) : Except NodeError Node := do
  if Rlp.isByteString key then
    let pathBytes ← (Rlp.payload key).mapError .rlp
    match CompactPath.decode? pathBytes with
    | none => throw .emptyPath
    | some ⟨nibbles, false⟩ => return extension nibbles
    | some ⟨nibbles, true⟩ =>
      let payload ← (Rlp.payload value).mapError .rlp
      return leaf nibbles payload
  else throw .pathNotBytes

def ofItems : List Bytes → Except NodeError Node
  | [key, value] => short key value
  | items => if items.length = branchItems then .ok branch else .error (.itemCount items.length)

theorem itemCount_of_short {key value : Bytes} {node : Node} (read : short key value = .ok node) :
    node.itemCount = shortItems := by
  unfold short at read
  split at read
  · cases path : (Rlp.payload key).mapError NodeError.rlp with
    | error e => simp [path, bind, Except.bind] at read
    | ok bytes =>
      simp only [path, bind, Except.bind] at read
      split at read
      · cases read
      · cases read
        rfl
      · split at read
        · cases read
        · cases read
          rfl
  · cases read

theorem itemCount_of_ofItems {items : List Bytes} {node : Node} (read : ofItems items = .ok node) :
    items.length = node.itemCount := by
  unfold ofItems at read
  split at read
  · exact (itemCount_of_short read).symm
  · split at read
    · rename_i many
      cases read
      exact many
    · cases read

section
variable {head content : Bytes} (framed : Rlp.Framed head content)
  (list : Rlp.isList (head ++ content) = true)
include framed list

theorem decodeShort_framed {key value : Bytes} (both : Rlp.items content = [key, value]) :
    decodeShort (head ++ content) = short key value := by
  obtain ⟨rest, same, complete, -⟩ := Rlp.items_split content
  rw [both] at same complete
  have keySplit : Rlp.splitItem content = .ok (key, value ++ rest) :=
    Rlp.splitItem_eq_ok.mpr ⟨by simpa using same, complete key (by simp)⟩
  have valueSplit : Rlp.splitItem (value ++ rest) = .ok (value, rest) :=
    (complete value (by simp)).whole rest
  rw [decodeShort, short, Rlp.firstItem_framed framed list, keySplit]
  by_cases bytes : Rlp.isByteString key = true
  · cases path : (Rlp.payload key).mapError NodeError.rlp with
    | error e => simp only [mapError_ok, bind, Except.bind, if_pos bytes, path]
    | ok pathBytes =>
      rcases compact : CompactPath.decode? pathBytes with _ | ⟨nibbles, _ | _⟩
      all_goals
        simp only [mapError_ok, bind, Except.bind, if_pos bytes, path, compact, valueSplit]
  · simp only [mapError_ok, bind, Except.bind, if_neg bytes]

/-- A node is read from the items at the front of its list's payload. -/
theorem decode_framed : decode (head ++ content) = ofItems (Rlp.items content) := by
  have noMore : ¬(⟨head.length, content.length⟩ : Rlp.Header).itemLength <
      (head ++ content).length := by
    rw [List.length_append]
    exact Nat.lt_irrefl _
  simp only [decode, list, if_true, framed.header_whole, mapError_ok, bind, Except.bind,
    if_neg noMore, Rlp.itemCount_framed framed list]
  cases taken : Rlp.items content with
  | nil => rfl
  | cons key others =>
    match others with
    | [] => rfl
    | [value] => exact decodeShort_framed framed list taken
    | value :: third :: rest =>
      -- Three items and more are a branch or nothing.
      have notShort : ¬(key :: value :: third :: rest).length = shortItems := by
        simp [shortItems]
      simp only [ofItems, if_neg notShort]
      rfl

end

/-- A blob that is read as a node is a list with nothing behind. -/
theorem framed_of_decode {blob : Bytes} {node : Node} (read : decode blob = .ok node) :
    ∃ head content, blob = head ++ content ∧ Rlp.Framed head content ∧
      Rlp.isList (head ++ content) = true := by
  unfold decode at read
  split at read
  · rename_i list
    cases found : Rlp.header blob with
    | error e =>
      simp only [found, bind, Except.bind] at read
      cases read
    | ok h =>
      obtain ⟨head, content, rest, rfl, framed, rfl⟩ := Rlp.framed_of_header found
      simp only [found, mapError_ok, bind, Except.bind] at read
      split at read
      · cases read
      · rename_i noMore
        obtain rfl : rest = [] := by
          simp only [Rlp.Header.itemLength, List.length_append] at noMore
          exact List.eq_nil_of_length_eq_zero (by omega)
        rw [List.append_nil] at list ⊢
        exact ⟨head, content, rfl, framed, list⟩
  · cases read

/-- A node is a list of two or of seventeen items and a rest that does not start with an item. The
list of the items alone is read as the same node, and the rest is empty if and only if the payload
is made of items. -/
theorem items_of_decode {blob : Bytes} {node : Node} (read : decode blob = .ok node) :
    ∃ head items rest, blob = head ++ (items.flatten ++ rest) ∧
      Rlp.isList blob = true ∧ Rlp.Framed head (items.flatten ++ rest) ∧
      (∀ item ∈ items, Rlp.IsItem item) ∧ items.length = node.itemCount ∧
      (∀ item, Rlp.IsItem item → ¬item <+: rest) ∧
      decode (Rlp.encodeList items) = .ok node ∧
      (rest = [] ↔ ∃ all : List Bytes, (∀ item ∈ all, Rlp.IsItem item) ∧
        blob = head ++ all.flatten) := by
  obtain ⟨head, content, rfl, framed, list⟩ := framed_of_decode read
  rw [decode_framed framed list] at read
  obtain ⟨rest, same, complete, stuck⟩ := Rlp.items_split content
  have fits : (Rlp.items content).flatten.length < Bytes.capacity 8 := by
    have bound := Rlp.payloadLength_lt (framed [])
    rw [same, List.length_append] at bound
    exact Nat.lt_of_le_of_lt (Nat.le_add_right _ _) bound
  have alone : Rlp.items (Rlp.items content).flatten = Rlp.items content :=
    Rlp.items_flatten fun item mem => (complete item mem).whole
  have encoded : decode (Rlp.encodeList (Rlp.items content)) = .ok node := by
    have again := Rlp.isList_encodeList fits
    rw [Rlp.encodeList] at again ⊢
    rw [decode_framed (Rlp.framed_encodeList fits) again, alone, read]
  refine ⟨head, Rlp.items content, rest, by rw [← same], list, by rwa [← same], complete,
    itemCount_of_ofItems read, stuck, encoded, ?_⟩
  constructor
  · rintro rfl
    exact ⟨_, complete, congrArg (head ++ ·) (same.trans (List.append_nil _))⟩
  · rintro ⟨all, items, payload⟩
    obtain rfl : content = all.flatten := List.append_cancel_left payload
    rw [Rlp.items_flatten fun item mem => (items item mem).whole] at same
    exact List.append_cancel_left (same.symm.trans (List.append_nil _).symm)

/-- Seventeen empty items are read as a branch in spite of the byte behind them, which starts an
item that ends too early. -/
theorem items_of_decode_torn :
    let blob : Bytes := 0xD2 :: (List.replicate 17 0x80 ++ [0x83])
    decode blob = .ok .branch ∧
      ∃ head items rest, blob = head ++ (items.flatten ++ rest) ∧
        Rlp.Framed head (items.flatten ++ rest) ∧ items.length = 17 ∧
        decode (Rlp.encodeList items) = .ok .branch := by
  intro blob
  let content : Bytes := List.replicate 17 0x80 ++ [0x83]
  have list : Rlp.Framed [0xD2] content := fun _ => rfl
  have found : Rlp.items content = List.replicate 17 [0x80] := by decide +kernel
  have read : decode blob = .ok .branch :=
    (decode_framed list rfl).trans (congrArg ofItems found)
  obtain ⟨head, items, rest, same, -, framed, -, count, -, alone, -⟩ := items_of_decode read
  exact ⟨read, head, items, rest, same, framed, count, alone⟩

/-- A leaf is read from a list whose payload is not made of items: its third one announces three
bytes, and none is there. -/
theorem torn_item_unnoticed :
    let blob : Bytes := [0xC3, 0x20, 0x01, 0x83]
    decode blob = .ok (.leaf [] [0x01]) ∧
      ¬∃ head items, blob = head ++ List.flatten items ∧ Rlp.Framed head items.flatten ∧
        ∀ item ∈ items, Rlp.IsItem item := by
  intro blob
  have list : Rlp.Framed [0xC3] [0x20, 0x01, 0x83] := fun _ => rfl
  have found : Rlp.items [0x20, 0x01, 0x83] = [[0x20], [0x01]] := by decide +kernel
  refine ⟨?_, ?_⟩
  · refine (decode_framed list rfl).trans ?_
    rw [found]
    rfl
  rintro ⟨head, items, same, framed, complete⟩
  have width : head.length = 1 := by
    have header := framed.header_whole
    rw [← same, show Rlp.header blob = .ok ⟨1, 3⟩ from list.header_whole] at header
    exact (congrArg Rlp.Header.headerLength (Except.ok.inj header)).symm
  have payload : items.flatten = [0x20, 0x01, 0x83] := by
    have behind := congrArg (List.drop head.length) same
    rw [List.drop_left, width] at behind
    exact behind.symm
  have read := Rlp.items_flatten fun item mem => (complete item mem).whole
  rw [payload, found] at read
  rw [← read] at payload
  cases payload

end Node

end TrieJournal
