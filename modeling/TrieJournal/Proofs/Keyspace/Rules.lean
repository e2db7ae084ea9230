import Mathlib.Data.List.Find
import Mathlib.Data.List.Nodup
import TrieJournal.Proofs.Keyspace.Classify

/-!
# Rules in any order

Each rule but the last asks for a leading byte of its own, so no key is admitted by two of them and
their order does not matter. The last rule admits 32 bytes of any kind while the value is unknown.
It is the only one that looks at the value, and so the only one through which a value can change the
keyspace of a key.
-/

namespace TrieJournal.Keyspace

def prefixRules : List Rule := rules.dropLast

def hashRule : Rule := ⟨hashTrie, isHashKey⟩

theorem rules_eq : rules = prefixRules ++ [hashRule] := rfl

/-- The leading byte of the keys of a keyspace, if they have one in common. -/
def lead? : Keyspace → Option UInt8
  | accountTrie => some 0x41
  | storageTrie => some 0x4F
  | snapshotAccount => some 0x61
  | snapshotStorage => some 0x6F
  | hashTrie | unclassified => none

variable {rule : Rule} {key : Bytes} {value : Option Bytes}

theorem forall_prefixRules {p : Rule → Prop} : (∀ rule ∈ prefixRules, p rule) ↔
    p ⟨accountTrie, fun key _ => isAccountTrieKey key⟩ ∧
      p ⟨storageTrie, fun key _ => isStorageTrieKey key⟩ ∧
      p ⟨snapshotAccount, fun key _ => isSnapshotAccountKey key⟩ ∧
      p ⟨snapshotStorage, fun key _ => isSnapshotStorageKey key⟩ := by
  simp [prefixRules, rules]

theorem head?_of_admits (mem : rule ∈ prefixRules) (admitted : rule.admits key value = true) :
    key.head? = rule.keyspace.lead? := by
  revert admitted
  revert rule
  rw [forall_prefixRules]
  simp only [isAccountTrieKey, isStorageTrieKey, isSnapshotAccountKey, isSnapshotStorageKey,
    Bool.and_eq_true, decide_eq_true_eq, lead?]
  exact ⟨fun h => h.1, fun h => h.1.1, id, id⟩

theorem admits_value (mem : rule ∈ prefixRules) (value other : Option Bytes) :
    rule.admits key value = rule.admits key other := by
  revert rule
  rw [forall_prefixRules]
  exact ⟨rfl, rfl, rfl, rfl⟩

theorem nodup_leads : (prefixRules.map fun rule => rule.keyspace.lead?).Nodup := by
  decide

theorem prefixRules_apart (key : Bytes) (value : Option Bytes) : prefixRules.Pairwise
    fun rule other => ¬(rule.admits key value = true ∧ other.admits key value = true) := by
  have leads := List.pairwise_map.mp nodup_leads
  refine leads.imp_of_mem fun mem memOther differ both => differ ?_
  rw [← head?_of_admits mem both.1, ← head?_of_admits memOther both.2]

theorem find?_of_perm {order : List Rule} (perm : order.Perm prefixRules) :
    (order.find? fun rule => rule.admits key value) =
      prefixRules.find? fun rule => rule.admits key value := by
  refine (List.find?_eq_find?_of_perm perm.symm ?_).symm
  rintro rule ⟨mem, admitted⟩ other ⟨memOther, admittedOther⟩
  have lead := (head?_of_admits mem admitted).symm.trans (head?_of_admits memOther admittedOther)
  exact List.inj_on_of_nodup_map nodup_leads mem memOther lead

/-- A rule that is tried last decides only about keys that no other rule admits. -/
theorem classifyBy_concat (front : List Rule) (last : Rule) (ne_nil : key ≠ []) :
    classifyBy (front ++ [last]) key value =
      match front.find? fun rule => rule.admits key value with
      | some rule => rule.keyspace
      | none => if last.admits key value then last.keyspace else unclassified := by
  have nonempty : key.isEmpty = false := by simpa using ne_nil
  rw [classifyBy, nonempty, List.find?_append]
  cases front.find? fun rule => rule.admits key value with
  | some rule => rfl
  | none =>
    rw [List.find?_singleton]
    cases last.admits key value <;> rfl

theorem classify_of_ne_nil (ne_nil : key ≠ []) : classify key value =
    match prefixRules.find? fun rule => rule.admits key value with
    | some rule => rule.keyspace
    | none => if isHashKey key value then hashTrie else unclassified := by
  rw [classify, rules_eq, classifyBy_concat _ _ ne_nil]
  rfl

theorem classifyBy_of_perm {order : List Rule} (perm : order.Perm rules)
    (last : order.getLast?.map Rule.keyspace = some hashTrie) :
    classifyBy order key value = classify key value := by
  by_cases nil : key = []
  · rw [nil]
    rfl
  obtain ⟨rule, ending, hash⟩ := Option.map_eq_some_iff.mp last
  obtain ⟨front, rfl⟩ := List.getLast?_eq_some_iff.mp ending
  have mem : rule ∈ prefixRules ++ [hashRule] :=
    perm.subset (List.mem_append_right _ List.mem_cons_self)
  have others : ∀ rule ∈ prefixRules, rule.keyspace ≠ hashTrie := by
    rw [forall_prefixRules]
    decide
  have same : rule = hashRule := by
    rcases List.mem_append.mp mem with early | late
    · exact absurd hash (others rule early)
    · exact List.mem_singleton.mp late
  rw [same, rules_eq, List.perm_append_right_iff] at perm
  rw [same, classify, rules_eq, classifyBy_concat _ _ nil, classifyBy_concat _ _ nil,
    find?_of_perm perm]

/-- A value changes the keyspace of a key exactly if the key has the length of a hash, has no
leading byte that a rule asks for, and is not the hash of the value. -/
theorem classify_ne_iff {value : Bytes} : classify key (some value) ≠ classifyKey key ↔
    key.length = hashLength ∧ (∀ rule ∈ prefixRules, ¬rule.admits key (some value) = true) ∧
      Keccak.digest value ≠ key := by
  by_cases nil : key = []
  · subst nil
    exact ⟨fun differ => absurd rfl differ, fun h => absurd h.1 (by decide)⟩
  have blind : (prefixRules.find? fun rule => rule.admits key none) =
      prefixRules.find? fun rule => rule.admits key (some value) :=
    List.find?_congr fun rule mem => admits_value mem _ _
  rw [classifyKey, classify_of_ne_nil nil, classify_of_ne_nil nil, blind]
  cases found : prefixRules.find? fun rule => rule.admits key (some value) with
  | some rule =>
    have admitted := List.find?_some found
    exact ⟨fun differ => absurd rfl differ,
      fun h => absurd admitted (h.2.1 rule (List.mem_of_find?_eq_some found))⟩
  | none =>
    have unmatched := List.find?_eq_none.mp found
    simp only [isHashKey, Option.all_some, Option.all_none, Bool.and_true, Bool.and_eq_true,
      decide_eq_true_eq]
    by_cases length : key.length = hashLength
    · by_cases hash : Keccak.digest value = key
      · simp [length, hash]
      · simpa [length, hash] using unmatched
    · simp [length]

/-- With a value, a key keeps its keyspace or is unclassified, and it is unclassified only where the
hash rule fails on the value. The rules with a leading byte exclude each other, so any order of the
rules that ends in the hash rule gives the same keyspaces. -/
theorem classify_stable (key : Bytes) :
    (∀ value, classify key (some value) = classifyKey key ∨
      classify key (some value) = unclassified) ∧
    (∀ value, classify key (some value) ≠ classifyKey key ↔
      key.length = 32 ∧ (∀ rule ∈ prefixRules, ¬rule.admits key (some value) = true) ∧
        Keccak.digest value ≠ key) ∧
    (∀ value, prefixRules.Pairwise
      fun rule other => ¬(rule.admits key value = true ∧ other.admits key value = true)) ∧
    ∀ order : List Rule, order.Perm rules → order.getLast?.map Rule.keyspace = some hashTrie →
      ∀ value, classifyBy order key value = classify key value :=
  ⟨classify_some key, fun _ => classify_ne_iff, prefixRules_apart key,
    fun _ perm last _ => classifyBy_of_perm perm last⟩

/-- The rules with a leading byte in the opposite order, for a key that the hash rule admits too. -/
theorem classify_stable_reversed :
    let order := prefixRules.reverse ++ [hashRule]
    let key : Bytes := 0x41 :: List.replicate 31 0x0C
    order.Perm rules ∧ order.getLast?.map Rule.keyspace = some hashTrie ∧
      hashRule.admits key none = true ∧
      (∀ value, classifyBy order key value = classify key value) ∧
        classify key none = accountTrie := by
  intro order key
  have perm : order.Perm rules := prefixRules.reverse_perm.append_right [hashRule]
  have last : order.getLast?.map Rule.keyspace = some hashTrie := rfl
  exact ⟨perm, last, by decide, (classify_stable key).2.2.2 order perm last, by decide⟩

/-- The hash rule has to be the last one. -/
example : classifyBy rules.reverse (0x61 :: List.replicate 31 0) none = hashTrie := by decide

end TrieJournal.Keyspace
