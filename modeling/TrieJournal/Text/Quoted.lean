import TrieJournal.Text.Glyph
import TrieJournal.Text.Utf8

/-!
# Quoted text

How messages show text. Tab, newline, carriage return, the null character, the backslash and the
quotes of the form are escaped with a backslash; a character without a glyph of its own is shown
by its number in braces. Texts and names stand between double quotes, characters between single
ones. In file names, bytes that are not text are shown in hex.
-/

namespace TrieJournal.Quoted

def hexDigits (n : Nat) : List Char := Nat.toDigits 16 n

/-- A character as it stands inside quotes, which are escaped themselves. -/
def escape (quote : Char) (c : Char) : List Char :=
  if c = '\x00' then ['\\', '0']
  else if c = '\t' then ['\\', 't']
  else if c = '\n' then ['\\', 'n']
  else if c = '\r' then ['\\', 'r']
  else if c = '\\' ∨ c = quote then ['\\', c]
  else if Glyph.absent c then ['\\', 'u', '\x7b'] ++ hexDigits c.toNat ++ ['\x7d']
  else [c]

def text (s : String) : String :=
  String.ofList ('"' :: s.toList.flatMap (escape '"') ++ ['"'])

def char (c : Char) : String := String.ofList ('\'' :: escape '\'' c ++ ['\''])

/-- A byte outside any character, as two uppercase hex digits. -/
def rawByte (byte : UInt8) : List Char :=
  ['\\', 'x', (Nat.digitChar (byte.toNat / 16)).toUpper, (Nat.digitChar (byte.toNat % 16)).toUpper]

def fileName (name : Bytes) : String :=
  String.ofList ('"' :: (Utf8.pieces name).flatMap piece ++ ['"'])
where
  /-- A piece of the name as it stands inside the quotes. -/
  piece : Utf8.Piece → List Char
    | .char c => escape '"' c
    | .illFormed part => part.flatMap rawByte

end TrieJournal.Quoted
