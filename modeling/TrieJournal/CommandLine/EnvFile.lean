import TrieJournal.CommandLine.Arguments
import TrieJournal.Text.Blank
import TrieJournal.Text.Letter

/-!
# Environment files

A file of lines `NAME=value` that add to the environment. Values may be quoted: nothing is special
between single quotes, and between double quotes only backslashes and dollar signs. A dollar sign
stands before the name of a variable, which may be in braces. Quotes and a backslash at its end make
a line go on in the next one; a hash sign after a blank starts a comment. Lines are taken until the
first that cannot be read, and a variable that is set already keeps its value.
-/

namespace TrieJournal.EnvFile

/-- Where in a line the reading is, as far as it matters for the line's end. -/
inductive LinePlace where
  | outside
  | blank
  | escaped
  | single
  | singleEscaped
  | double
  | doubleEscaped
  deriving DecidableEq, Repr

/-- The place after a character that is neither quoted nor escaped and no blank. -/
def LinePlace.openedBy (c : Char) : LinePlace :=
  if c = '\\' then .escaped
  else if c = '"' then .double
  else if c = '\'' then .single
  else .outside

def LinePlace.next (p : LinePlace) (c : Char) : LinePlace :=
  match p with
  | .outside =>
    if Blank.isBlank c && c ≠ '\n' && c ≠ '\r' then .blank else LinePlace.openedBy c
  | .blank => LinePlace.openedBy c
  | .escaped => .outside
  | .single => if c = '\\' then .singleEscaped else if c = '\'' then .outside else .single
  | .singleEscaped => .single
  | .double => if c = '\\' then .doubleEscaped else if c = '"' then .outside else .double
  | .doubleEscaped => .double

/-- The place at the end of a text, or the text before a comment if there is one. -/
def endOf (p : LinePlace) (before : List Char) : List Char → LinePlace ⊕ List Char
  | [] => .inl p
  | c :: rest =>
    if p = .blank ∧ c = '#' then .inr before.reverse else endOf (p.next c) (c :: before) rest

def rawLines (b : Bytes) : List Bytes :=
  match splitOn Bytes.newline b with
  | [] => []
  | parts =>
    parts.dropLast.map (· ++ [Bytes.newline]) ++
      (parts.getLast?.filter fun l => !l.isEmpty).toList

def withoutLineEnd (text : List Char) : List Char :=
  match text.reverse with
  | '\n' :: '\r' :: rest => rest.reverse
  | '\n' :: rest => rest.reverse
  | _ => text

/-- The line that goes on with the first of the raw lines, and the raw lines after it. The text of
the line so far is `taken`, and the place at its end `p`. -/
def takeLine (p : LinePlace) (taken : List Char) : List Bytes → Option (List Char × List Bytes)
  | [] => none
  | raw :: rest =>
    match Utf8.decode? raw with
    | none => none
    | some text =>
      if ((taken ++ text.toList).dropWhile Blank.isBlank).head? = some '#' then some ([], rest)
      else
        match endOf p [] text.toList with
        | .inr before => some (taken ++ before, rest)
        | .inl .outside => some (withoutLineEnd (taken ++ text.toList), rest)
        | .inl place => takeLine place (taken ++ text.toList) rest

/-- Where in a value the reading is, and whether that is between double quotes. -/
inductive ValuePlace where
  | plain
  | single
  | double
  | escaped (quoted : Bool)
  | variable (quoted : Bool) (name : List Char)
  | braced (quoted : Bool) (name : List Char)
  | finished
  deriving DecidableEq, Repr

/-- The place outside a name and after an escape. -/
def ValuePlace.within (quoted : Bool) : ValuePlace := if quoted then double else plain

def unescape? (c : Char) : Option Char :=
  if c ∈ ['\\', '\'', '"', '$', ' '] then some c else if c = 'n' then some '\n' else none

def after? (front text : List Char) : Option (List Char) :=
  if front.isPrefixOf text then some (text.drop front.length) else none

/-- The text of a variable, empty if it is not set. The environment is a list of lines `NAME=value`,
and the text is what follows the name and an equals sign, so the value is cut where a name goes on
with an equals sign and the front of the value. -/
def valueOf (env : Environment) (name : List Char) : List Char :=
  (env.findSome? fun (n, value) => after? (name ++ ['=']) (n.toList ++ '=' :: value.toList)).getD []

def readValue (env : Environment) (p : ValuePlace) : List Char → Option (List Char)
  | [] =>
    match p with
    | .plain | .escaped false | .finished => some []
    | .variable false name => some (valueOf env name)
    | _ => none
  | c :: rest =>
    match p with
    | .finished =>
      if c = ' ' ∨ c = '\t' then readValue env .finished rest
      else if c = '#' then some []
      else none
    | .escaped quoted => do
      let d ← unescape? c
      return d :: (← readValue env (.within quoted) rest)
    | .single =>
      if c = '\'' then readValue env .plain rest
      else return c :: (← readValue env .single rest)
    | .variable quoted name =>
      if Letter.isAlphanumeric c then readValue env (.variable quoted (name ++ [c])) rest
      else if c = '\x7b' ∧ name = [] then readValue env (.braced quoted []) rest
      else if c = '$' then return valueOf env name ++ (← readValue env (.variable quoted []) rest)
      else return valueOf env name ++ c :: (← readValue env (.within quoted) rest)
    | .braced quoted name =>
      if c = '\x7d' then return valueOf env name ++ (← readValue env (.within quoted) rest)
      else readValue env (.braced quoted (name ++ [c])) rest
    | .double =>
      if c = '$' then readValue env (.variable true []) rest
      else if c = '"' then readValue env .plain rest
      else if c = '\\' then readValue env (.escaped true) rest
      else return c :: (← readValue env .double rest)
    | .plain =>
      if c = '$' then readValue env (.variable false []) rest
      else if c = '\'' then readValue env .single rest
      else if c = '"' then readValue env .double rest
      else if c = '\\' then readValue env (.escaped false) rest
      else if c = ' ' ∨ c = '\t' then readValue env .finished rest
      else return c :: (← readValue env .plain rest)

def startsName (c : Char) : Bool := c.isAlpha || c = '_'

def continuesName (c : Char) : Bool := c.isAlphanum || c = '_' || c = '.'

def takeName? (text : List Char) : Option (List Char × List Char) :=
  if text.head?.any startsName then
    some (text.takeWhile continuesName, (text.dropWhile continuesName).dropWhile Blank.isBlank)
  else none

def afterEquals? : List Char → Option (List Char)
  | '=' :: rest => some (rest.dropWhile Blank.isBlank)
  | _ => none

/-- The name before an equals sign, with or without the word `export` before it, and what
follows. -/
def takeTarget? (text : List Char) : Option (List Char × List Char) := do
  let (name, rest) ← takeName? text
  match afterEquals? rest with
  | some value => return (name, value)
  | none =>
    if name = "export".toList then
      let (name, rest) ← takeName? rest
      return (name, ← afterEquals? rest)
    else none

def isVoid (text : List Char) : Bool := text.isEmpty || text.head? = some '#'

def readLine (env : Environment) (line : List Char) : Option (Option (String × String)) :=
  let text := (dropRightWhile Blank.isBlank line).dropWhile Blank.isBlank
  if isVoid text then some none
  else do
    let (name, rest) ← takeTarget? text
    let value ← if isVoid rest then some [] else readValue env .plain rest
    return some (String.ofList name, String.ofList value)

/-- Adds a variable to the environment unless it is set already. Fails with `none` if its value
holds a null character, which no environment can. -/
def assign? (env : Environment) (binding : String × String) : Option Environment :=
  if (env.lookup binding.1).isSome then some env
  else if '\x00' ∈ binding.2.toList then none
  else some (env ++ [binding])

theorem length_lt_of_takeLine {p : LinePlace} {taken line : List Char} {raws rest : List Bytes}
    (h : takeLine p taken raws = some (line, rest)) : rest.length < raws.length := by
  induction raws generalizing p taken with
  | nil => simp [takeLine] at h
  | cons raw raws ih =>
    simp only [takeLine] at h
    repeat' split at h
    all_goals first
      | contradiction
      | (simp only [Option.some.injEq, Prod.mk.injEq] at h; rw [← h.2]; simp)
      | (have shorter := ih h; simp only [List.length_cons]; omega)

def loadLines? (env : Environment) (raws : List Bytes) : Option Environment :=
  match _ : takeLine .outside [] raws with
  | none => some env
  | some (line, rest) =>
    match readLine env line with
    | none => some env
    | some none => loadLines? env rest
    | some (some binding) =>
      match assign? env binding with
      | none => none
      | some env => loadLines? env rest
termination_by raws.length
decreasing_by all_goals exact length_lt_of_takeLine ‹_›

def byteOrderMark : Bytes := [0xEF, 0xBB, 0xBF]

/-- Adds what a file sets to the environment. Fails with `none` at a variable that cannot be set. -/
def load? (env : Environment) (file : Bytes) : Option Environment :=
  loadLines? env (rawLines (if byteOrderMark.isPrefixOf file then file.drop 3 else file))

end TrieJournal.EnvFile
