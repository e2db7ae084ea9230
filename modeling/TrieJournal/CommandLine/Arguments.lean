import TrieJournal.CommandLine.Flags
import TrieJournal.Text.Decimal

/-!
# Arguments

Which arguments a program takes and how they are read. Every argument is a flag or an option with a
value, given as `--name value` or `--name=value` and at most once; an option may also be set in the
environment. `--help` and `--version`, or `-h` and `-V`, end the reading.

An option whose value is still to come waits. It is looked at once the next flag or option arrives:
only then is it found to be repeated, or its value to be missing or wrong. Unknown arguments are
reported without looking at it.
-/

namespace TrieJournal

/-- The variables of the environment, of which the first of a name counts. -/
abbrev Environment := List (String × String)

inductive UsageError where
  | unknown
  | repeated
  | unexpectedValue
  | missingValue
  | notCount
  | notText
  | missingOption
  deriving DecidableEq, Repr

inductive Halt where
  | help
  | version
  | usage (e : UsageError)
  deriving DecidableEq, Repr

inductive ValueForm where
  | none
  | path
  | count
  deriving DecidableEq, Repr

/-- An argument that a program takes, by its name without dashes. The variable `fallback?` stands in
for an option that is not given. -/
structure ArgumentSpec where
  name : String
  form : ValueForm
  fallback? : Option String
  required : Bool
  deriving DecidableEq, Repr

abbrev Arguments := List (String × Bytes)

namespace Arguments

def given (a : Arguments) (name : String) : Bool := (a.lookup name).isSome

def countOf? (value : Bytes) : Option UInt64 := (Utf8.decode? value).bind Decimal.word?

def check (form : ValueForm) (value : Bytes) : Except UsageError Unit :=
  match form with
  | .none => .ok ()
  | .path => if value.isEmpty then .error .missingValue else .ok ()
  | .count =>
    if (Utf8.decode? value).isNone then .error .notText
    else if (countOf? value).isNone then .error .notCount
    else .ok ()

def add (a : Arguments) (spec : ArgumentSpec) (value : Bytes) : Except UsageError Arguments := do
  if a.given spec.name then throw .repeated
  check spec.form value
  return a ++ [(spec.name, value)]

/-- The arguments read so far, and an option that waits, for its value or with it. -/
structure Progress where
  taken : Arguments
  waiting : Option (ArgumentSpec × Option Bytes)

namespace Progress

def settle (p : Progress) : Except UsageError Arguments :=
  match p.waiting with
  | none => .ok p.taken
  | some (_, none) => .error .missingValue
  | some (spec, some value) => p.taken.add spec value

/-- Settles and then stops for another reason than the arguments taken down. -/
def stop {α : Type} (p : Progress) (reason : Halt) : Except Halt α := do
  let _ ← p.settle.mapError .usage
  throw reason

end Progress

def helpLetter : UInt8 := 0x68

def versionLetter : UInt8 := 0x56

def readLong (specs : List ArgumentSpec) (p : Progress) (text : Bytes) : Except Halt Progress := do
  let name := Flags.nameOf text
  let value? := (splitFirst? Flags.equals text).map (·.2)
  if name = Utf8.encode "help" then
    if value?.isSome then throw (.usage .unexpectedValue) else p.stop .help
  else if name = Utf8.encode "version" then
    if value?.isSome then throw (.usage .unexpectedValue) else p.stop .version
  else
    match specs.find? fun spec => Utf8.encode spec.name = name with
    | none => throw (.usage .unknown)
    | some spec =>
      match spec.form, value? with
      | .none, some _ => throw (.usage .unexpectedValue)
      | .none, none =>
        let taken ← (do (← p.settle).add spec []).mapError .usage
        return ⟨taken, none⟩
      | _, some value =>
        let taken ← (do (← p.settle).add spec value).mapError .usage
        return ⟨taken, none⟩
      | _, none => return ⟨← p.settle.mapError .usage, some (spec, none)⟩

def readOne (specs : List ArgumentSpec) (p : Progress) (arg : Bytes) : Except Halt Progress :=
  match Flags.dashes arg with
  | .long text => readLong specs p text
  | .short letter =>
    if letter = helpLetter then p.stop .help
    else if letter = versionLetter then p.stop .version
    else throw (.usage .unknown)
  | .plain =>
    match p.waiting with
    | some (spec, none) => return { p with waiting := some (spec, some arg) }
    | _ => throw (.usage .unknown)

/-- Reads the arguments one after the other. After the argument `--` none is expected. -/
def readAll (specs : List ArgumentSpec) (p : Progress) : List Bytes → Except Halt Progress
  | [] => return p
  | arg :: rest => do
    if arg = Flags.terminator then
      if rest.isEmpty then return p else throw (.usage .unknown)
    else readAll specs (← readOne specs p arg) rest

def fromEnvironment (env : Environment) (a : Arguments) :
    List ArgumentSpec → Except UsageError Arguments
  | [] => return a
  | spec :: specs => do
    match spec.fallback?.bind fun name => env.lookup name with
    | some value =>
      if a.given spec.name then fromEnvironment env a specs
      else fromEnvironment env (← a.add spec (Utf8.encode value)) specs
    | none => fromEnvironment env a specs

/-- Reads arguments, of which the first is the name of the program. -/
def parse (specs : List ArgumentSpec) (env : Environment) (args : List Bytes) :
    Except Halt Arguments := do
  let progress ← readAll specs ⟨[], none⟩ args.tail
  let taken ← progress.settle.mapError .usage
  let all ← (fromEnvironment env taken specs).mapError .usage
  if specs.all fun spec => !spec.required || all.given spec.name then return all
  else throw (.usage .missingOption)

end Arguments

end TrieJournal
