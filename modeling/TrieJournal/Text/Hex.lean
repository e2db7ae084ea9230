import TrieJournal.Nibble
import TrieJournal.Text.Quoted
import TrieJournal.Text.Utf8

/-!
# Hexadecimal text

Bytes are written as two lowercase digits each and read in either case, with or without a leading
`0x`. An odd number of digits is reported before any character that is not a digit.
-/

namespace TrieJournal

inductive HexError where
  | oddLength
  | notDigit (byte : UInt8) (offset : Nat)
  deriving DecidableEq, Repr

/-- The message shown for the error. A byte is shown as the character of its own number. -/
def HexError.message : HexError → String
  | .oddLength => "Odd number of digits"
  | .notDigit byte offset =>
    s!"Invalid character {Quoted.char (Char.ofNat byte.toNat)} at position {offset}"

namespace Hex

def encode (b : Bytes) : String := String.ofList ((Nibble.ofBytes b).map Nibble.digit)

def digit? (byte : UInt8) : Option Nibble :=
  let n := byte.toNat
  if h : 48 ≤ n ∧ n ≤ 57 then some ⟨n - 48, by omega⟩
  else if h : 97 ≤ n ∧ n ≤ 102 then some ⟨n - 87, by omega⟩
  else if h : 65 ≤ n ∧ n ≤ 70 then some ⟨n - 55, by omega⟩
  else none

def digitAt (byte : UInt8) (offset : Nat) : Except HexError Nibble :=
  match digit? byte with
  | some n => .ok n
  | none => .error (.notDigit byte offset)

/-- Reads digits in pairs, the first of them at `offset`. -/
def decodePairs (offset : Nat) : Bytes → Except HexError Bytes
  | h :: l :: rest => do
    let high ← digitAt h offset
    let low ← digitAt l (offset + 1)
    let bytes ← decodePairs (offset + 2) rest
    return Nibble.pack high low :: bytes
  | _ => .ok []

def decodeDigits (digits : Bytes) : Except HexError Bytes :=
  if digits.length % 2 = 1 then .error .oddLength else decodePairs 0 digits

/-- Drops one leading `0x` or `0X`. -/
def dropMark : Bytes → Bytes
  | 48 :: 120 :: digits => digits
  | 48 :: 88 :: digits => digits
  | digits => digits

/-- Reads a text of hex digits, with or without a leading `0x`. -/
def decode (s : String) : Except HexError Bytes := decodeDigits (dropMark (Utf8.encode s))

end Hex

end TrieJournal
