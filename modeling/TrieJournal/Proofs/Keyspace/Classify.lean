import TrieJournal.Keyspace.Classify

/-!
# Classification with and without a value

Knowing the value under a key can only unclassify the key, and the empty key is never classified.
-/

namespace TrieJournal.Keyspace

theorem ne_nil_of_classified {key : Bytes} {value : Option Bytes}
    (classified : (classify key value).isClassified = true) : key ≠ [] := by
  rintro rfl
  cases classified

/-- The keyspace of a key with a value is that of the key alone, or the key is unclassified. -/
theorem classify_some (key value : Bytes) :
    classify key (some value) = classifyKey key ∨ classify key (some value) = unclassified := by
  simp only [classifyKey, classify, classifyBy, rules, List.find?_cons, List.find?_nil, isHashKey]
  split
  · exact Or.inl rfl
  cases isAccountTrieKey key
  case true => exact Or.inl rfl
  cases isStorageTrieKey key
  case true => exact Or.inl rfl
  cases isSnapshotAccountKey key
  case true => exact Or.inl rfl
  cases isSnapshotStorageKey key
  case true => exact Or.inl rfl
  cases Option.all (fun v => decide (Keccak.digest v = key)) (some value)
  · exact Or.inr (by simp)
  · exact Or.inl rfl

theorem classifyKey_of_classify {key value : Bytes}
    (classified : (classify key (some value)).isClassified = true) :
    (classifyKey key).isClassified = true := by
  rcases classify_some key value with same | unclassified
  · rwa [← same]
  · rw [unclassified] at classified
    cases classified

end TrieJournal.Keyspace
