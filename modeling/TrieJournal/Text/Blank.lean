/-!
# Blank characters

White space as Unicode defines it, and text without the blanks at its ends.
-/

namespace TrieJournal.Blank

/-- White space: the ASCII blanks and line ends, the next-line character, the no-break space and
the spaces and separators of other scripts. -/
def isBlank (c : Char) : Bool :=
  let n := c.toNat
  (9 ≤ n && n ≤ 13) || n = 0x20 || n = 0x85 || n = 0xA0 || n = 0x1680 ||
    (0x2000 ≤ n && n ≤ 0x200A) || n = 0x2028 || n = 0x2029 || n = 0x202F || n = 0x205F || n = 0x3000

def trimBoth {α : Type} (p : α → Bool) (l : List α) : List α :=
  ((l.dropWhile p).reverse.dropWhile p).reverse

def trim (l : List Char) : List Char := trimBoth isBlank l

end TrieJournal.Blank
