/-
**Arguments of a command line.**

An argument is an option, with two dashes and a long name or with one dash and short ones, or else a
word. An option takes a value, which stands behind it or is the next argument. Two dashes alone say
that all that follows are words.

* `Grammar.read`: the options and words of some arguments, up to the name of a command.
-/

namespace Statechart.Command

/-- Why arguments do not say what to do. -/
inductive Halt
  /-- They break a rule. -/
  | usage
  /-- They ask for help. -/
  | help
  /-- They ask for the version. -/
  | version
  deriving DecidableEq

/-- An option that takes a value. -/
structure OptionRule where
  short : Char
  long : String
  mayRepeat : Bool
  mayBeEmpty : Bool
  deriving DecidableEq

/-- What arguments may be. -/
structure Grammar where
  options : List OptionRule
  /-- Whether the version can be asked for. -/
  hasVersion : Bool
  /-- How many words there may be. -/
  words : Nat
  /-- The words that end the arguments. -/
  commands : List String

/-- The options and words of arguments. -/
structure Given where
  /-- The values of options by long name, in order. -/
  values : List (String × String) := []
  words : List String := []
  deriving DecidableEq

namespace Given

/-- The values of an option, in order. -/
def all (given : Given) (long : String) : List String :=
  (given.values.filter fun value => value.1 = long).map Prod.snd

/-- The value of an option that is given at most once. -/
def value? (given : Given) (long : String) : Option String := (given.all long).head?

/-- The arguments with one more value. -/
def withValue (given : Given) (rule : OptionRule) (value : String) : Except Halt Given :=
  if value.isEmpty && !rule.mayBeEmpty then .error .usage
  else if !rule.mayRepeat && !(given.all rule.long).isEmpty then .error .usage
  else .ok { given with values := given.values ++ [(rule.long, value)] }

end Given

/-- An option whose value is the next argument, if there is one, and what was given before. -/
abbrev Reading := Option OptionRule × Given

/-- What is left of arguments at the name of a command. -/
structure Rest where
  command : String
  arguments : List String

namespace Grammar

/-- Reads an option by its long name, and the value behind it if there is one. -/
def readLong (grammar : Grammar) (given : Given) (name : String) (value : Option String) :
    Except Halt Reading :=
  match grammar.options.find? fun rule => rule.long = name with
  | some rule =>
    match value with
    | some value => do return (none, ← given.withValue rule value)
    | none => .ok (some rule, given)
  | none =>
    if value.isSome then .error .usage
    else if name = "help" then .error .help
    else if name = "version" && grammar.hasVersion then .error .version
    else .error .usage

/-- Reads an option by its short name, and the value behind it if there is one. -/
def readShort (grammar : Grammar) (given : Given) (short : Char) (behind : List Char) :
    Except Halt Reading :=
  match grammar.options.find? fun rule => rule.short = short with
  | some rule =>
    match behind with
    | [] => .ok (some rule, given)
    | '=' :: value => do return (none, ← given.withValue rule (String.ofList value))
    | value => do return (none, ← given.withValue rule (String.ofList value))
  | none =>
    if short = 'h' then .error .help
    else if short = 'V' && grammar.hasVersion then .error .version
    else .error .usage

/-- Reads a word, of which there may be only so many, and no empty ones. -/
def readWord (grammar : Grammar) (given : Given) (word : String) : Except Halt Given :=
  if word.isEmpty || grammar.words ≤ given.words.length then .error .usage
  else .ok { given with words := given.words ++ [word] }

/-- Reads an argument that starts with a dash, two dashes alone excepted. -/
def readOption (grammar : Grammar) (given : Given) (argument : List Char) : Except Halt Reading :=
  match argument with
  | '-' :: '-' :: long =>
    let name := String.ofList (long.takeWhile (· ≠ '='))
    match long.dropWhile (· ≠ '=') with
    | [] => grammar.readLong given name none
    | _ :: value => grammar.readLong given name (some (String.ofList value))
  | _ :: short :: behind => grammar.readShort given short behind
  | _ => .error .usage

/-- Whether an argument is an option: it starts with a dash and is more than that. -/
def isOption (argument : String) : Bool :=
  match argument.toList with
  | '-' :: _ :: _ => true
  | _ => false

/-- Reads arguments up to the name of a command, if there is one among them. -/
def read (grammar : Grammar) : Reading → List String → Except Halt (Given × Option Rest)
  | (some _, _), [] => .error .usage
  | (none, given), [] => .ok (given, none)
  | (some rule, given), argument :: rest => do
    if isOption argument then throw .usage
    grammar.read (none, ← given.withValue rule argument) rest
  | (none, given), argument :: rest => do
    if argument = "--" then
      return (← rest.foldlM grammar.readWord given, none)
    else if isOption argument then
      grammar.read (← grammar.readOption given argument.toList) rest
    else if grammar.commands.contains argument then
      return (given, some { command := argument, arguments := rest })
    else grammar.read (none, ← grammar.readWord given argument) rest

end Grammar

end Statechart.Command
