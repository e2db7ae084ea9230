import Mathlib.Data.List.Forall2
import TrieJournal.CommandLine.Programs
import TrieJournal.Proofs.Text.Codec

/-!
# One dash or two

A flag that gets its second dash is left as it is from then on, and it is never the argument that
ends the flags. So argument lists end up the same if and only if they are the same but for the
dashes of listed flags, up to the argument `--`.
-/

namespace TrieJournal.Flags

def IsText (arg : Bytes) : Prop := (Utf8.decode? arg).isSome = true

/-- What a long flag can be called. -/
structure IsLong (name : Bytes) : Prop where
  filled : name ≠ []
  undivided : equals ∉ name
  undashed : name.head? ≠ some dash

instance (name : Bytes) : Decidable (IsLong name) :=
  decidable_of_iff (name ≠ [] ∧ equals ∉ name ∧ name.head? ≠ some dash)
    ⟨fun ⟨filled, undivided, undashed⟩ => ⟨filled, undivided, undashed⟩,
      fun ⟨filled, undivided, undashed⟩ => ⟨filled, undivided, undashed⟩⟩

/-- A listed name, alone or with a value behind `=`. -/
def IsListed (names : List Bytes) (flag : Bytes) : Prop :=
  ∃ name ∈ names, ∃ value, flag = name ++ value ∧ (value = [] ∨ value.head? = some equals)

/-- A listed flag behind one dash, and the same flag behind two. -/
def Doubled (names : List Bytes) (arg new : Bytes) : Prop :=
  ∃ flag, IsListed names flag ∧ arg = dash :: flag ∧ new = dash :: arg ∧ IsText arg

def Spelled (names : List Bytes) (arg other : Bytes) : Prop :=
  arg = other ∨ Doubled names arg other ∨ Doubled names other arg

/-- The same arguments, in either spelling up to the first `--` and in the same from there on. -/
inductive Alike (names : List Bytes) : List Bytes → List Bytes → Prop where
  | nil : Alike names [] []
  | ended (rest : List Bytes) : Alike names (terminator :: rest) (terminator :: rest)
  | cons {arg other : Bytes} {args others : List Bytes} (flag : arg ≠ terminator)
      (flag' : other ≠ terminator) (here : Spelled names arg other)
      (rest : Alike names args others) :
      Alike names (arg :: args) (other :: others)

/-! ### One argument -/

section

variable {names : List Bytes} {arg other new : Bytes}

theorem nameOf_mem_iff (long : ∀ name ∈ names, IsLong name) (flag : Bytes) :
    nameOf flag ∈ names ↔ IsListed names flag := by
  constructor
  · intro listed
    refine ⟨_, listed, flag.dropWhile (· ≠ equals), List.takeWhile_append_dropWhile.symm, ?_⟩
    cases rest : flag.dropWhile (· ≠ equals) with
    | nil => exact Or.inl rfl
    | cons byte value =>
      have stopped := List.head?_dropWhile_not (· ≠ equals) flag
      rw [rest] at stopped
      exact Or.inr (by simpa using stopped)
  · rintro ⟨name, mem, value, rfl, ends⟩
    have whole : nameOf (name ++ value) = name := by
      have inName : ∀ byte ∈ name, (byte ≠ equals : Bool) = true := fun byte here =>
        decide_eq_true fun same => (long name mem).undivided (same ▸ here)
      rw [nameOf, List.takeWhile_append_of_pos inName]
      rcases ends with rfl | divided
      · exact List.append_nil name
      · obtain ⟨rest, rfl⟩ := List.head?_eq_some_iff.mp divided
        simp
    rwa [whole]

theorem head?_of_isListed (long : ∀ name ∈ names, IsLong name) {flag : Bytes}
    (listed : IsListed names flag) : flag ≠ [] ∧ flag.head? ≠ some dash := by
  obtain ⟨name, mem, value, rfl, -⟩ := listed
  obtain ⟨filled, -, undashed⟩ := long name mem
  cases name with
  | nil => exact absurd rfl filled
  | cons byte name => exact ⟨List.cons_ne_nil _ _, undashed⟩

theorem doubleDash_of_doubled (long : ∀ name ∈ names, IsLong name)
    (doubled : Doubled names arg new) :
    doubleDash names arg = new := by
  obtain ⟨flag, listed, rfl, rfl, text⟩ := doubled
  exact if_pos ⟨rfl, (head?_of_isListed long listed).2, (nameOf_mem_iff long flag).mpr listed, text⟩

theorem doubleDash_doubled (doubled : Doubled names arg new) : doubleDash names new = new := by
  obtain ⟨flag, -, rfl, rfl, -⟩ := doubled
  rw [doubleDash, if_neg]
  rintro ⟨-, undashed, -⟩
  exact undashed rfl

theorem doubled_or_eq (long : ∀ name ∈ names, IsLong name) (arg : Bytes) :
    Doubled names arg (doubleDash names arg) ∨ doubleDash names arg = arg := by
  unfold doubleDash
  split
  · exact Or.inr rfl
  · rename_i first flag
    split
    · rename_i single
      obtain ⟨rfl, -, listed, text⟩ := single
      exact Or.inl ⟨flag, (nameOf_mem_iff long flag).mp listed, rfl, rfl, text⟩
    · exact Or.inr rfl

theorem doubled_ne_terminator (long : ∀ name ∈ names, IsLong name)
    (doubled : Doubled names arg new) :
    arg ≠ terminator ∧ new ≠ terminator := by
  obtain ⟨flag, listed, rfl, rfl, -⟩ := doubled
  obtain ⟨filled, undashed⟩ := head?_of_isListed long listed
  constructor
  · intro same
    obtain rfl : flag = [dash] := (List.cons_eq_cons.mp same).2
    exact undashed rfl
  · intro same
    exact filled (List.cons_eq_cons.mp (List.cons_eq_cons.mp same).2).2

theorem doubleDash_ne_terminator (long : ∀ name ∈ names, IsLong name) (other : arg ≠ terminator) :
    doubleDash names arg ≠ terminator := by
  rcases doubled_or_eq long arg with doubled | same
  · exact (doubled_ne_terminator long doubled).2
  · rwa [same]

theorem doubleDash_eq_iff (long : ∀ name ∈ names, IsLong name) :
    doubleDash names arg = doubleDash names other ↔ Spelled names arg other := by
  constructor
  · intro same
    rcases doubled_or_eq long arg with doubled | unchanged
    · rcases doubled_or_eq long other with doubled' | unchanged'
      · obtain ⟨-, -, -, dashed, -⟩ := doubled
        obtain ⟨-, -, -, dashed', -⟩ := doubled'
        rw [dashed, dashed'] at same
        exact Or.inl (List.cons_eq_cons.mp same).2
      · rw [same, unchanged'] at doubled
        exact Or.inr (Or.inl doubled)
    · rcases doubled_or_eq long other with doubled' | unchanged'
      · rw [← same, unchanged] at doubled'
        exact Or.inr (Or.inr doubled')
      · exact Or.inl (unchanged.symm.trans (same.trans unchanged'))
  · rintro (rfl | doubled | doubled)
    · rfl
    · rw [doubleDash_of_doubled long doubled, doubleDash_doubled doubled]
    · rw [doubleDash_of_doubled long doubled, doubleDash_doubled doubled]

end

/-! ### Lists of arguments -/

section

variable {names : List Bytes}

theorem normalize_terminator (rest : List Bytes) :
    normalize names (terminator :: rest) = terminator :: rest := by
  rw [normalize, if_pos rfl]

theorem normalize_cons {arg : Bytes} (flag : arg ≠ terminator) (rest : List Bytes) :
    normalize names (arg :: rest) = doubleDash names arg :: normalize names rest := by
  rw [normalize, if_neg flag]

theorem normalize_append {front : List Bytes} (flags : terminator ∉ front) (rest : List Bytes) :
    normalize names (front ++ terminator :: rest) =
      normalize names front ++ terminator :: rest := by
  induction front with
  | nil => exact normalize_terminator rest
  | cons arg front ih =>
    rw [List.mem_cons, not_or] at flags
    obtain ⟨flag, others⟩ := flags
    rw [List.cons_append, normalize_cons (Ne.symm flag), normalize_cons (Ne.symm flag), ih others,
      List.cons_append]

variable (long : ∀ name ∈ names, IsLong name)

include long

/-- Each argument stays in its place. -/
theorem forall₂_normalize (args : List Bytes) :
    List.Forall₂ (fun arg new => Doubled names arg new ∨ new = arg) args
      (normalize names args) := by
  induction args with
  | nil => exact .nil
  | cons arg rest ih =>
    by_cases ends : arg = terminator
    · subst ends
      rw [normalize_terminator]
      exact List.forall₂_same.mpr fun _ _ => Or.inr rfl
    · rw [normalize_cons ends]
      exact .cons (doubled_or_eq long arg) ih

theorem length_normalize (args : List Bytes) : (normalize names args).length = args.length :=
  (forall₂_normalize long args).length_eq.symm

theorem normalize_cons_eq_iff {arg other : Bytes} {args others : List Bytes} :
    normalize names (arg :: args) = normalize names (other :: others) ↔
      (arg = terminator ∧ other = terminator ∧ args = others) ∨
        (arg ≠ terminator ∧ other ≠ terminator ∧ Spelled names arg other ∧
          normalize names args = normalize names others) := by
  by_cases ends : arg = terminator
  · by_cases ends' : other = terminator
    · simp [ends, ends', normalize_terminator]
    · have apart : terminator ≠ doubleDash names other :=
        (doubleDash_ne_terminator long ends').symm
      simp [ends, ends', normalize_terminator, normalize_cons, apart]
  · by_cases ends' : other = terminator
    · have apart := doubleDash_ne_terminator long ends
      simp [ends, ends', normalize_terminator, normalize_cons, apart]
    · simp [ends, ends', normalize_cons, doubleDash_eq_iff long]

theorem normalize_eq_iff (args others : List Bytes) :
    normalize names args = normalize names others ↔ Alike names args others := by
  constructor
  · intro same
    have lengths := congrArg List.length same
    rw [length_normalize long, length_normalize long] at lengths
    induction args generalizing others with
    | nil =>
      obtain rfl := List.length_eq_zero_iff.mp lengths.symm
      exact .nil
    | cons arg args ih =>
      obtain ⟨other, others, rfl⟩ := List.exists_cons_of_length_eq_add_one lengths.symm
      rcases (normalize_cons_eq_iff long).mp same with ⟨rfl, rfl, rfl⟩ | ⟨flag, flag', here, rest⟩
      · exact .ended args
      · exact .cons flag flag' here (ih others rest (Nat.succ.inj lengths))
  · intro alike
    induction alike with
    | nil => rfl
    | ended rest => rfl
    | cons flag flag' here rest ih =>
      exact (normalize_cons_eq_iff long).mpr (Or.inr ⟨flag, flag', here, ih⟩)

theorem alike_normalize (args : List Bytes) : Alike names args (normalize names args) := by
  induction args with
  | nil => exact .nil
  | cons arg rest ih =>
    by_cases ends : arg = terminator
    · subst ends
      rw [normalize_terminator]
      exact .ended rest
    · rw [normalize_cons ends]
      refine .cons ends (doubleDash_ne_terminator long ends) ?_ ih
      rcases doubled_or_eq long arg with doubled | same
      · exact Or.inr (Or.inl doubled)
      · exact Or.inl same.symm

/-- Two lists of arguments are normalized to the same one exactly if they are the same but for the
dashes of listed flags, so a normalized list stays as it is. No argument is added or dropped, and
none is changed but by a dash in front of it; what is not text and what stands from the first `--`
on is left alone. -/
theorem normalize_spellings :
    (∀ args others,
        normalize names args = normalize names others ↔ Alike names args others) ∧
      ∀ args, normalize names (normalize names args) = normalize names args ∧
        (normalize names args).length = args.length ∧
        List.Forall₂ (fun arg new => (new = arg ∨ new = dash :: arg) ∧ (¬IsText arg → new = arg))
          args (normalize names args) ∧
        ∀ front rest, args = front ++ terminator :: rest → terminator ∉ front →
          normalize names args = normalize names front ++ terminator :: rest := by
  refine ⟨normalize_eq_iff long, fun args => ⟨?_, length_normalize long args, ?_, ?_⟩⟩
  · have alike := alike_normalize long args
    exact ((normalize_eq_iff long _ _).mpr alike).symm
  · refine (forall₂_normalize long args).imp fun arg new changed => ?_
    rcases changed with ⟨flag, -, -, dashed, text⟩ | same
    · exact ⟨Or.inr dashed, fun none => absurd text none⟩
    · exact ⟨Or.inl same, fun _ => same⟩
  · rintro front rest rfl flags
    exact normalize_append flags rest

end

/-- The flags of the replaying program: a value that looks like a flag, a flag behind one dash or
two, an argument that is not text, and a flag behind `--`. -/
theorem normalize_spellings_mixed :
    let names := ReplayOptions.specs.map fun spec => Utf8.encode spec.name
    let args (csv db : String) :=
      [Utf8.encode csv, Utf8.encode db, [dash, 0xFF], terminator, Utf8.encode "-json"]
    let new := args "--csv=-db=1" "--db"
    (∀ name ∈ names, IsLong name) ∧ normalize names (args "-csv=-db=1" "--db") = new ∧
      normalize names (args "--csv=-db=1" "-db") = new ∧ normalize names new = new := by
  intro names args new
  have long : ∀ name ∈ names, IsLong name := by decide +kernel
  obtain ⟨same, each⟩ := normalize_spellings long
  have first : normalize names (args "-csv=-db=1" "--db") = new := by decide +kernel
  have again := (each (args "-csv=-db=1" "--db")).1
  have listed : IsListed names (Utf8.encode "csv=-db=1") :=
    ⟨Utf8.encode "csv", by decide +kernel, Utf8.encode "=-db=1", by decide +kernel, Or.inr rfl⟩
  have listed' : IsListed names (Utf8.encode "db") :=
    ⟨Utf8.encode "db", by decide +kernel, [], by decide +kernel, Or.inl rfl⟩
  have text (arg : String) : IsText (Utf8.encode arg) := by
    rw [IsText, Utf8.decode?_encode]
    rfl
  have csv : Doubled names (Utf8.encode "-csv=-db=1") (Utf8.encode "--csv=-db=1") :=
    ⟨_, listed, by decide +kernel, by decide +kernel, text _⟩
  have db : Doubled names (Utf8.encode "-db") (Utf8.encode "--db") :=
    ⟨_, listed', by decide +kernel, by decide +kernel, text _⟩
  have alike : Alike names (args "-csv=-db=1" "--db") (args "--csv=-db=1" "-db") := by
    refine .cons (by decide +kernel) (by decide +kernel) (Or.inr (Or.inl csv)) ?_
    refine .cons (by decide +kernel) (by decide +kernel) (Or.inr (Or.inr db)) ?_
    exact .cons (by decide +kernel) (by decide +kernel) (Or.inl rfl) (.ended _)
  refine ⟨long, first, ((same _ _).mpr alike).symm.trans first, ?_⟩
  rwa [first] at again

end TrieJournal.Flags
