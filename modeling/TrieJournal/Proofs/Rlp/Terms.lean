import TrieJournal.Proofs.Rlp.Items

/-!
# Terms

A term is a byte string or a list of terms, and its encoding is one item however deep it goes. The
encoding of a list is no shorter than its payload, and that of a byte string no shorter than the
string, so only the outermost size has to be bounded.
-/

namespace TrieJournal.Rlp

inductive Term where
  | bytes (b : Bytes)
  | list (terms : List Term)

mutual

def Term.encode : Term → Bytes
  | .bytes b => encodeBytes b
  | .list terms => encodeList (Term.encodeAll terms)

def Term.encodeAll : List Term → List Bytes
  | [] => []
  | t :: terms => t.encode :: Term.encodeAll terms

end

theorem Term.encodeAll_eq_map (terms : List Term) : encodeAll terms = terms.map encode := by
  induction terms with
  | nil => rfl
  | cons t terms ih => rw [encodeAll, ih, List.map_cons]

theorem Term.isItem_encode (t : Term) (fits : t.encode.length < Bytes.capacity 8) :
    IsItem t.encode := by
  cases t with
  | bytes b =>
    rw [encode] at fits ⊢
    have within := length_le_encodeBytes b
    exact isItem_encodeBytes (by omega)
  | list terms =>
    rw [encode] at fits ⊢
    have within := length_le_encodeList (encodeAll terms)
    exact ⟨_, _, framed_encodeList (by omega), rfl⟩

end TrieJournal.Rlp
