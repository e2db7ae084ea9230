import Mathlib.Algebra.GroupWithZero.Nat
import Mathlib.Algebra.Order.BigOperators.Group.List
import Mathlib.Algebra.Order.Group.Nat
import TrieJournal.Comparison

/-!
# What a tally adds up

A tally has a figure for each kind of operation and for the bytes of reads and of writes. Counting
records adds their weights to every figure, and fails only if a sum of bytes does not fit in 64
bits: so there is a tally of records if and only if there is one whose figures are their sums.
-/

namespace TrieJournal

/-! ### Figures -/

inductive Figure where
  | gets
  | puts
  | deletes
  | getBytes
  | putBytes
  deriving DecidableEq, Repr

def Tally.amount (t : Tally) : Figure → Nat
  | .gets => t.gets
  | .puts => t.puts
  | .deletes => t.deletes
  | .getBytes => t.getBytes.toNat
  | .putBytes => t.putBytes.toNat

namespace Figure

/-- The figures that are kept in 64 bits. -/
def bytes : List Figure := [getBytes, putBytes]

/-- What one record adds to a figure. -/
def weight (f : Figure) (r : Record) : Nat :=
  match f, r.kind with
  | gets, .get | puts, .put | deletes, .delete | deletes, .deleteRange => 1
  | getBytes, .get | putBytes, .put => r.valueSize.toNat
  | _, _ => 0

/-- What records add to a figure, as a number of any size. -/
def sum (f : Figure) (records : List Record) : Nat := (records.map f.weight).sum

variable (f : Figure)

theorem sum_cons (r : Record) (records : List Record) :
    f.sum (r :: records) = f.weight r + f.sum records := by
  rw [sum, List.map_cons, List.sum_cons, ← sum]

theorem sum_append (records others : List Record) :
    f.sum (records ++ others) = f.sum records + f.sum others := by
  rw [sum, List.map_append, List.sum_append, ← sum, ← sum]

theorem sum_le_of_sublist {few many : List Record} (within : few.Sublist many) :
    f.sum few ≤ f.sum many :=
  (within.map _).sum_le_sum fun _ _ => Nat.zero_le _

end Figure

/-- The bytes that records state add up to no more than fits in 64 bits. -/
def Record.Fit (records : List Record) : Prop :=
  ∀ f ∈ Figure.bytes, f.sum records < UInt64.size

instance (records : List Record) : Decidable (Record.Fit records) :=
  inferInstanceAs (Decidable (∀ f ∈ Figure.bytes, f.sum records < UInt64.size))

theorem Record.Fit.sublist {few many : List Record} (fit : Fit many) (within : few.Sublist many) :
    Fit few :=
  fun f mem => (f.sum_le_of_sublist within).trans_lt (fit f mem)

/-! ### Tallies -/

namespace Tally

theorem amount_zero (f : Figure) : zero.amount f = 0 := by
  cases f <;> rfl

theorem amount_lt {f : Figure} (bytes : f ∈ Figure.bytes) (t : Tally) :
    t.amount f < UInt64.size := by
  simp only [Figure.bytes, List.mem_cons, List.not_mem_nil, or_false] at bytes
  rcases bytes with rfl | rfl
  · exact t.getBytes.toNat_lt
  · exact t.putBytes.toNat_lt

theorem ext_amount {t u : Tally} (same : ∀ f, t.amount f = u.amount f) : t = u := by
  have gets : t.gets = u.gets := same .gets
  have puts : t.puts = u.puts := same .puts
  have deletes : t.deletes = u.deletes := same .deletes
  have getBytes : t.getBytes = u.getBytes := UInt64.toNat_inj.mp (same .getBytes)
  have putBytes : t.putBytes = u.putBytes := UInt64.toNat_inj.mp (same .putBytes)
  cases t
  cases u
  simp_all only

/-- There is a tally with given figures if the bytes fit. -/
theorem exists_amount {n : Figure → Nat} :
    (∃ t : Tally, ∀ f, t.amount f = n f) ↔ ∀ f ∈ Figure.bytes, n f < UInt64.size := by
  constructor
  · rintro ⟨t, figures⟩ f bytes
    rw [← figures f]
    exact t.amount_lt bytes
  · intro fits
    have gets := UInt64.toNat_ofNat_of_lt' (fits .getBytes (by decide))
    have puts := UInt64.toNat_ofNat_of_lt' (fits .putBytes (by decide))
    refine ⟨⟨n .gets, n .puts, n .deletes, .ofNat (n .getBytes), .ofNat (n .putBytes)⟩, fun f => ?_⟩
    cases f
    case gets | puts | deletes => rfl
    case getBytes => exact gets
    case putBytes => exact puts

theorem forall_amount {t : Tally} {n : Figure → Nat} : (∀ f, t.amount f = n f) ↔
    t.gets = n .gets ∧ t.puts = n .puts ∧ t.deletes = n .deletes ∧
      t.getBytes.toNat = n .getBytes ∧ t.putBytes.toNat = n .putBytes := by
  constructor
  · intro figures
    exact ⟨figures .gets, figures .puts, figures .deletes, figures .getBytes, figures .putBytes⟩
  · rintro ⟨gets, puts, deletes, getBytes, putBytes⟩ f
    cases f <;> assumption

theorem count?_eq_some {t u : Tally} {r : Record} :
    t.count? r = some u ↔ ∀ f, u.amount f = t.amount f + f.weight r := by
  rw [count?, forall_amount]
  obtain ⟨gets, puts, deletes, getBytes, putBytes⟩ := u
  cases kind : r.kind
  all_goals
    simp only [Option.map_eq_some_iff, Bytes.addTo?_eq_some, Option.some.injEq, mk.injEq, amount,
      Figure.weight, kind, Nat.add_zero, UInt64.toNat_inj]
    grind

theorem add?_eq_some {s t u : Tally} :
    s.add? t = some u ↔ ∀ f, u.amount f = s.amount f + t.amount f := by
  rw [forall_amount]
  obtain ⟨gets, puts, deletes, getBytes, putBytes⟩ := u
  simp only [add?, Option.bind_eq_bind, Option.pure_def, Option.bind_eq_some_iff,
    Bytes.addTo?_eq_some, Option.some.injEq, mk.injEq, amount]
  grind

/-- Steps that add to every figure add up what they add. -/
theorem foldlM_eq_some {α : Type} {step? : Tally → α → Option Tally} {weight : Figure → α → Nat}
    (adds : ∀ t a u, step? t a = some u ↔ ∀ f, u.amount f = t.amount f + weight f a)
    {t u : Tally} {l : List α} :
    l.foldlM step? t = some u ↔ ∀ f, u.amount f = t.amount f + (l.map (weight f)).sum := by
  induction l generalizing t with
  | nil =>
    rw [List.foldlM_nil, Option.pure_def, Option.some.injEq]
    exact ⟨fun same f => congrArg (amount · f) same.symm, fun same => (ext_amount same).symm⟩
  | cons a l ih =>
    simp only [List.foldlM_cons, Option.bind_eq_bind, Option.bind_eq_some_iff, adds, ih,
      List.map_cons, List.sum_cons, ← Nat.add_assoc]
    constructor
    · rintro ⟨v, first, rest⟩ f
      rw [rest, first]
    · intro figures
      -- The tally after the first step fits because the last one does.
      have fits : ∀ f ∈ Figure.bytes, t.amount f + weight f a < UInt64.size := by
        intro f bytes
        have below := u.amount_lt bytes
        rw [figures f] at below
        omega
      obtain ⟨v, first⟩ := exists_amount.mpr fits
      exact ⟨v, first, fun f => by rw [figures f, first f]⟩

theorem foldlM_count? {t u : Tally} {records : List Record} :
    records.foldlM count? t = some u ↔ ∀ f, u.amount f = t.amount f + f.sum records :=
  @foldlM_eq_some Record count? Figure.weight (fun _ _ _ => count?_eq_some) t u records

variable {t : Tally} {records others : List Record}

/-- The tally of records is the one that has their sums. -/
theorem ofRecords?_eq_some : ofRecords? records = some t ↔ ∀ f, t.amount f = f.sum records := by
  simp only [ofRecords?, foldlM_count?, amount_zero, Nat.zero_add]

theorem exists_ofRecords? : (∃ t, ofRecords? records = some t) ↔ Record.Fit records := by
  simp only [ofRecords?_eq_some]
  exact exists_amount

theorem ofRecords?_congr (same : ∀ f : Figure, f.sum records = f.sum others) :
    ofRecords? records = ofRecords? others := by
  refine Option.ext fun t => ?_
  rw [ofRecords?_eq_some, ofRecords?_eq_some]
  simp only [same]

/-- No figure of the first tally is above that of the second. -/
def AtMost (s t : Tally) : Prop := ∀ f, s.amount f ≤ t.amount f

theorem atMost_of_sublist {s : Tally} (few : ofRecords? records = some s)
    (many : ofRecords? others = some t) (within : records.Sublist others) : s.AtMost t := by
  intro f
  rw [ofRecords?_eq_some.mp few f, ofRecords?_eq_some.mp many f]
  exact f.sum_le_of_sublist within

end Tally

/-! ### Comparisons -/

namespace Comparison

variable {c d : Comparison} {records : List Record}

theorem count?_eq_some {r : Record} : c.count? r = some d ↔
    (Record.accountTrie [r]).foldlM Tally.count? c.trie = some d.trie ∧
      (Record.leaves [r]).foldlM Tally.count? c.baseline = some d.baseline := by
  obtain ⟨trie, baseline⟩ := d
  by_cases inTrie : r.inAccountTrie = true
  · by_cases leaf : r.isAccountLeaf = true
    · simp [count?, Record.accountTrie, Record.leaves, inTrie, leaf, Option.bind_eq_some_iff]
    · simp [count?, Record.accountTrie, Record.leaves, inTrie, leaf, Option.bind_eq_some_iff]
  · have other : ¬r.isAccountLeaf = true := by simp [Record.isAccountLeaf, inTrie]
    obtain ⟨trie', baseline'⟩ := c
    simp [count?, Record.accountTrie, Record.leaves, inTrie, other]

theorem foldlM_count? : records.foldlM count? c = some d ↔
    (Record.accountTrie records).foldlM Tally.count? c.trie = some d.trie ∧
      (Record.leaves records).foldlM Tally.count? c.baseline = some d.baseline := by
  induction records generalizing c with
  | nil =>
    obtain ⟨trie, baseline⟩ := c
    obtain ⟨trie', baseline'⟩ := d
    simp [Record.accountTrie, Record.leaves]
  | cons r records ih =>
    have trie : Record.accountTrie (r :: records) =
        Record.accountTrie [r] ++ Record.accountTrie records := List.filter_append [r] records
    have leaves : Record.leaves (r :: records) = Record.leaves [r] ++ Record.leaves records :=
      List.filter_append [r] records
    simp only [List.foldlM_cons, trie, leaves, List.foldlM_append, Option.bind_eq_bind,
      Option.bind_eq_some_iff, count?_eq_some, ih]
    constructor
    · rintro ⟨next, ⟨first, firstLeaf⟩, rest, restLeaves⟩
      exact ⟨⟨_, first, rest⟩, _, firstLeaf, restLeaves⟩
    · rintro ⟨⟨t, first, rest⟩, u, firstLeaf, restLeaves⟩
      exact ⟨⟨t, u⟩, ⟨first, firstLeaf⟩, rest, restLeaves⟩

/-- The comparison sets the tally of the account trie against that of its leaves. -/
theorem ofRecords?_eq_some : ofRecords? records = some c ↔
    Tally.ofRecords? (Record.accountTrie records) = some c.trie ∧
      Tally.ofRecords? (Record.leaves records) = some c.baseline :=
  foldlM_count?

/-- The leaves add up to no more than the account trie, so there is a comparison if that fits. -/
theorem exists_ofRecords? :
    (∃ c, ofRecords? records = some c) ↔ Record.Fit (Record.accountTrie records) := by
  simp only [ofRecords?_eq_some]
  constructor
  · rintro ⟨c, trie, -⟩
    exact Tally.exists_ofRecords?.mp ⟨_, trie⟩
  · intro fit
    have within : (Record.leaves records).Sublist (Record.accountTrie records) :=
      Record.leaves_accountTrie records ▸ List.filter_sublist
    obtain ⟨t, trie⟩ := Tally.exists_ofRecords?.mpr fit
    obtain ⟨u, leaves⟩ := Tally.exists_ofRecords?.mpr (fit.sublist within)
    exact ⟨⟨t, u⟩, trie, leaves⟩

end Comparison

end TrieJournal
