/-!
# Table layout

Cells are padded with spaces to a width and never cut; a rule is a line of one character.
-/

namespace TrieJournal.Layout

def left (width : Nat) (s : String) : String := s.pushn ' ' (width - s.length)

/-- The text at the right of a cell, behind `fill`. -/
def rightWith (fill : Char) (width : Nat) (s : String) : String :=
  "".pushn fill (width - s.length) ++ s

def right (width : Nat) (s : String) : String := rightWith ' ' width s

def rule (c : Char) (width : Nat) : String := "".pushn c width

/-- The lines, each with the newline that ends it. -/
def block (lines : List String) : String := String.join (lines.map (· ++ "\n"))

end TrieJournal.Layout
