import TrieJournal.Bytes

/-!
# RLP items

Recursive length prefix encoding: an item is a byte string or a list of items, behind a header
that gives the length of its payload. Reading is by need. `splitItem` takes one item off the front
of a byte string and looks no deeper than its header.

The items of a list are read one after another from the byte string that holds the list. Only the
first of them has to lie within the list's payload: `firstItem` returns what follows it in the
whole byte string.
-/

namespace TrieJournal.Rlp

/-- Why a byte string is not the encoding that is asked for. It is not minimal if a shorter header
would do, or if a number has a leading zero. -/
inductive Error where
  | tooShort
  | zeroInLength
  | notMinimal
  | tooBig
  | expectedList
  | expectedBytes
  deriving DecidableEq, Repr

def Error.message : Error → String
  | .tooShort => "RlpIsTooShort"
  | .zeroInLength => "RlpDataLenWithZeroPrefix"
  | .notMinimal => "RlpInvalidIndirection"
  | .tooBig => "RlpIsTooBig"
  | .expectedList => "RlpExpectedToBeList"
  | .expectedBytes => "RlpExpectedToBeData"

structure Header where
  headerLength : Nat
  payloadLength : Nat
  deriving DecidableEq, Repr

def Header.itemLength (h : Header) : Nat := h.headerLength + h.payloadLength

/-- The header whose length stands in `n` bytes at the front of `rest`. -/
def longHeader (n : Nat) (rest : Bytes) : Except Error Header :=
  match rest with
  | [] => .error .tooShort
  | lead :: _ =>
    if lead = 0 then .error .zeroInLength
    else if rest.length < n then .error .tooShort
    else if Bytes.toNat (rest.take n) ≤ 55 then .error .notMinimal
    else .ok ⟨1 + n, Bytes.toNat (rest.take n)⟩

/-- The header at the front of a byte string, whether or not the payload is all there. -/
def leadingHeader : Bytes → Except Error Header
  | [] => .error .tooShort
  | lead :: rest =>
    let n := lead.toNat
    if n < 0x80 then .ok ⟨0, 1⟩
    else if n < 0xB8 then .ok ⟨1, n - 0x80⟩
    else if n < 0xC0 then longHeader (n - 0xB7) rest
    else if n < 0xF8 then .ok ⟨1, n - 0xC0⟩
    else longHeader (n - 0xF7) rest

/-- The header of the item at the front of a byte string that holds all of it. -/
def header (b : Bytes) : Except Error Header := do
  let h ← leadingHeader b
  if h.itemLength ≤ b.length then return h else throw .tooShort

def isList : Bytes → Bool
  | [] => false
  | lead :: _ => 0xC0 ≤ lead

def isByteString : Bytes → Bool
  | [] => false
  | lead :: _ => lead < 0xC0

def payload (b : Bytes) : Except Error Bytes := do
  let h ← header b
  return (b.drop h.headerLength).take h.payloadLength

def splitItem (b : Bytes) : Except Error (Bytes × Bytes) := do
  let h ← header b
  return (b.take h.itemLength, b.drop h.itemLength)

theorem itemLength_pos_of_leadingHeader {b : Bytes} {h : Header}
    (read : leadingHeader b = .ok h) : 0 < h.itemLength := by
  cases b with
  | nil => simp [leadingHeader] at read
  | cons lead rest =>
    have long : ∀ n, longHeader n rest = .ok h → 0 < h.itemLength := by
      intro n hn
      unfold longHeader at hn
      repeat' split at hn
      all_goals first | contradiction | (cases hn; simp only [Header.itemLength]; omega)
    simp only [leadingHeader] at read
    repeat' split at read
    all_goals first | exact long _ read | (cases read; simp only [Header.itemLength]; omega)

theorem header_eq_ok {b : Bytes} {h : Header} :
    header b = .ok h ↔ leadingHeader b = .ok h ∧ h.itemLength ≤ b.length := by
  unfold header
  cases leadingHeader b with
  | error e => simp [bind, Except.bind]
  | ok found =>
    by_cases fits : found.itemLength ≤ b.length
    · simp only [bind, Except.bind, fits, ↓reduceIte, pure, Except.pure, Except.ok.injEq]
      exact ⟨fun same => ⟨same, same ▸ fits⟩, fun both => both.1⟩
    · simp only [bind, Except.bind, fits, ↓reduceIte, throw, throwThe, MonadExceptOf.throw,
        reduceCtorEq, Except.ok.injEq, false_iff]
      rintro ⟨rfl, fits'⟩
      exact fits fits'

theorem length_lt_of_splitItem {b item rest : Bytes} (split : splitItem b = .ok (item, rest)) :
    rest.length < b.length := by
  simp only [splitItem, bind, Except.bind] at split
  split at split
  · contradiction
  · rename_i h read
    have pos := itemLength_pos_of_leadingHeader (header_eq_ok.1 read).1
    have fits := (header_eq_ok.1 read).2
    simp only [pure, Except.pure, Except.ok.injEq, Prod.mk.injEq] at split
    rw [← split.2, List.length_drop]
    omega

/-- The items at the front of a byte string, up to the first that cannot be read. -/
def items (b : Bytes) : List Bytes :=
  match _ : splitItem b with
  | .ok (item, rest) => item :: items rest
  | .error _ => []
termination_by b.length
decreasing_by exact length_lt_of_splitItem ‹_›

/-- The first item of the list at the front of `b`, and all bytes of `b` after that item. -/
def firstItem (b : Bytes) : Except Error (Bytes × Bytes) := do
  if isList b then
    let h ← header b
    let (item, _) ← splitItem ((b.drop h.headerLength).take h.payloadLength)
    return (item, b.drop (h.headerLength + item.length))
  else throw .expectedList

/-- How many items of the list at the front of `b` can be read one after another. -/
def itemCount (b : Bytes) : Nat :=
  match firstItem b with
  | .ok (_, rest) => (items rest).length + 1
  | .error _ => 0

/-- The bytes of a byte string that is encoded in its shortest form. -/
def value (item : Bytes) : Except Error Bytes :=
  match item with
  | [] => .error .tooShort
  | lead :: rest =>
    if 0xC0 ≤ lead then .error .expectedBytes
    else if lead = 0x81 ∧ rest.head?.any (· < 0x80) then .error .notMinimal
    else payload item

def number (n : Nat) (item : Bytes) : Except Error (Fin (Bytes.capacity n)) := do
  let b ← value item
  if b.head? = some 0 then throw .notMinimal
  else if h : b.length ≤ n then
    return ⟨Bytes.toNat b, Nat.lt_of_lt_of_le b.toNat_lt (Bytes.capacity_mono h)⟩
  else throw .tooBig

def fixed (n : Nat) (item : Bytes) : Except Error { b : Bytes // b.length = n } := do
  let b ← value item
  if h : b.length = n then return ⟨b, h⟩
  else if b.length < n then throw .tooShort
  else throw .tooBig

end TrieJournal.Rlp
