import ControlNode.Text.Number

/-!
# Options

How a list of words is taken apart into options with their values and positional arguments.

An option is written `--name`, and a flag may also have a letter; letters can stand together after
one dash. The value of an option follows it as the next word or after an equals sign. After `--`
every word is positional. No option may be given twice.

A value that stands in a word of its own is looked at only when the next option or positional
argument begins, or the words end. Until then it is pending, and a word that does not fit at all is
reported before anything that is wrong with it.
-/

namespace ControlNode.Cli

/-- Why the words of a command line do not make sense, or ask for a text instead of a run. -/
inductive ArgumentError where
  | displayHelp
  | displayVersion
  | displayHelpOnMissing
  | invalidSubcommand
  | missingSubcommand
  | missingArgument
  | unknownArgument
  | invalidValue
  | valueValidation
  | conflict
  | tooManyValues
deriving DecidableEq, Repr

/-- The exit code of a run that ends this way. -/
def ArgumentError.code : ArgumentError → Nat
  | .displayHelp => 0
  | .displayVersion => 0
  | _ => 2

inductive ValueKind where
  | text
  /-- A text that is not empty. -/
  | path
  /-- One of some words. -/
  | choice (words : List String)
  /-- A whole number that fits 64 bits with a sign and is below the limit. -/
  | integer (limit : Nat)
  /-- A whole number without a minus sign below the limit. -/
  | count (limit : Nat)

def ValueKind.check (value : String) : ValueKind → Except ArgumentError Unit
  | .text => .ok ()
  | .path => if value = "" then .error .invalidValue else .ok ()
  | .choice words => if words.contains value then .ok () else .error .invalidValue
  | .integer limit =>
    match Text.integer? value.toList with
    | some n => if 0 ≤ n ∧ n < limit then .ok () else .error .valueValidation
    | none => .error .valueValidation
  | .count limit =>
    match Text.unsigned? value.toList with
    | some n => if n < limit then .ok () else .error .valueValidation
    | none => .error .valueValidation

/-- What an argument does. -/
inductive Action where
  | take (kind : ValueKind)
  | flag
  | help
  | version

/-- An argument that can be given: an option with its name, or a positional argument. -/
structure Argument where
  name : String
  letter : Option Char := none
  action : Action
  /-- A variable of the environment that holds the value if none is given. -/
  fromVariable : Option String := none

/-- The arguments that can be given in one place. -/
structure Signature where
  positionals : List Argument := []
  options : List Argument

/-- The arguments that were given, with their values. -/
abbrev Given := List (String × String)

/-- A scan of words: what was given so far, an argument whose value is not looked at or not there
yet, and the positional arguments to come. -/
structure Scanner where
  given : Given := []
  pending : Option (Argument × Option String) := none
  trailing : Bool := false
  positionals : List Argument

namespace Scanner

/-- Whether the next word can be the value of the pending option. -/
def isAwaiting (s : Scanner) : Bool :=
  match s.pending with
  | some (_, none) => true
  | _ => false

def give (s : Scanner) (a : Argument) (value : String) : Except ArgumentError Scanner :=
  if s.given.any (·.1 == a.name) then .error .conflict
  else
    match a.action with
    | .take kind => (kind.check value).map fun () => { s with given := s.given ++ [(a.name, value)] }
    | .flag => .ok { s with given := s.given ++ [(a.name, value)] }
    | .help => .error .displayHelp
    | .version => .error .displayVersion

def settle (s : Scanner) : Except ArgumentError Scanner :=
  match s.pending with
  | none => .ok s
  | some (_, none) => .error .invalidValue
  | some (a, some value) => give { s with pending := none } a value

/-- Settles what is pending and gives an argument a value. -/
def react (s : Scanner) (a : Argument) (value : String) : Except ArgumentError Scanner := do
  (← s.settle).give a value

/-- Settles what is pending and awaits the value of an option, or has it pending. -/
def await (s : Scanner) (a : Argument) (value : Option String) : Except ArgumentError Scanner := do
  return { ← s.settle with pending := some (a, value) }

/-- Scans the word of a long option, without its dashes. -/
def long (options : List Argument) (s : Scanner) (word : List Char) :
    Except ArgumentError Scanner :=
  let name := String.ofList (word.takeWhile (· != '='))
  let attached := match word.dropWhile (· != '=') with
    | [] => none
    | _ :: value => some (String.ofList value)
  match options.find? (·.name == name) with
  | none => .error .unknownArgument
  | some a =>
    match a.action, attached with
    | .take _, some value => s.react a value
    | .take _, none => s.await a none
    | _, some _ => .error .tooManyValues
    | _, none => s.react a "true"

/-- Scans the letters of a word, without its dash. -/
def letters (options : List Argument) (s : Scanner) : List Char → Except ArgumentError Scanner
  | [] => .ok s
  | c :: rest =>
    match options.find? (·.letter == some c) with
    | none => .error .unknownArgument
    | some a =>
      match a.action with
      | .take _ => if rest = [] then s.await a none else s.react a (String.ofList rest)
      | _ => do letters options (← s.react a "true") rest

/-- Scans a word that is no option. A word with no place to go is the given error. -/
def positional (s : Scanner) (surplus : ArgumentError) (word : String) :
    Except ArgumentError Scanner :=
  match s.positionals with
  | a :: positionals => await { s with positionals } a (some word)
  | [] => .error surplus

def word (options : List Argument) (surplus : ArgumentError) (s : Scanner) (w : String) :
    Except ArgumentError Scanner :=
  if s.trailing then s.positional surplus w
  else
    match w.toList, s.pending with
    | ['-', '-'], _ => .ok { s with trailing := true }
    | '-' :: '-' :: rest, _ => s.long options rest
    | '-' :: c :: rest, _ => s.letters options (c :: rest)
    | _, some (a, none) => .ok { s with pending := some (a, some w) }
    | _, _ => s.positional surplus w

def words (options : List Argument) (surplus : ArgumentError) (s : Scanner) :
    List String → Except ArgumentError Scanner
  | [] => .ok s
  | w :: later => do words options surplus (← s.word options surplus w) later

/-- Takes the value of an argument from the environment if none was given. -/
def fill (environment : String → Option String) (s : Scanner) (a : Argument) :
    Except ArgumentError Scanner :=
  if s.given.any (·.1 == a.name) then .ok s
  else
    match a.fromVariable.bind environment with
    | some value => s.give a value
    | none => .ok s

end Scanner

/-- Scans the words of a signature and takes what is missing from the environment. -/
def Signature.scan (g : Signature) (environment : String → Option String) (ws : List String) :
    Except ArgumentError Given := do
  let s : Scanner ← Scanner.words g.options .unknownArgument { positionals := g.positionals } ws
  let s ← s.settle
  let s ← (g.positionals ++ g.options).foldlM (Scanner.fill environment) s
  return s.given

end ControlNode.Cli
