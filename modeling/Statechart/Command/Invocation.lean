/-
**What a command line asks for.**

The program has four commands. The file with the configuration can be named before the command,
behind it, or in the environment; what is named last on the command line counts.
-/

import Statechart.Command.Arguments
import Statechart.Config.Environment

namespace Statechart.Command

/-- What the program can do. -/
inductive Task
  /-- Shows what a chart is like. -/
  | validate (chart : String)
  /-- Starts a machine or goes on with it, and sends it events. -/
  | send (chart owner : String) (events : List String) (payload : Option String)
  /-- Shows a dump. -/
  | inspect (dump : String)
  /-- Lists the machines of the store. -/
  | machines
  deriving DecidableEq

/-- What a command line asks for. -/
structure Invocation where
  /-- The file with the configuration. -/
  config : Option String
  task : Task
  deriving DecidableEq

/-- The option that names the file with the configuration. -/
def configRule : OptionRule :=
  { short := 'c', long := "config", mayRepeat := false, mayBeEmpty := false }

/-- The arguments before a command. -/
def programGrammar : Grammar where
  options := [configRule]
  hasVersion := true
  words := 0
  commands := ["validate", "send", "inspect", "machines", "help"]

/-- The arguments of a command that takes some words and no options of its own. -/
def plainGrammar (words : Nat) : Grammar where
  options := [configRule]
  hasVersion := false
  words := words
  commands := []

/-- The arguments of the command that sends events. -/
def sendGrammar : Grammar :=
  { plainGrammar 1 with
    options :=
      [configRule,
       { short := 'o', long := "owner", mayRepeat := false, mayBeEmpty := true },
       { short := 'e', long := "event", mayRepeat := true, mayBeEmpty := true },
       { short := 'p', long := "payload", mayRepeat := false, mayBeEmpty := true }] }

/-- The one word of some arguments. -/
def Given.word (given : Given) : Except Halt String :=
  match given.words with
  | [word] => .ok word
  | _ => .error .usage

/-- What the command that sends events is given. -/
def Given.toSend (given : Given) : Except Halt Task := do
  let chart ← given.word
  match given.value? "owner" with
  | none => throw .usage
  | some owner => return .send chart owner (given.all "event") (given.value? "payload")

/-- What is asked for by someone who asks for help on a command. -/
def helpOn (arguments : List String) : Halt :=
  match arguments with
  | [] => .help
  | command :: rest =>
    if programGrammar.commands.contains command && rest.isEmpty then .help else .usage

/-- The arguments of a command and the task that they describe. -/
def readCommand (rest : Rest) : Except Halt (Given × Task) := do
  match rest.command with
  | "validate" =>
    let (given, _) ← (plainGrammar 1).read (none, {}) rest.arguments
    return (given, .validate (← given.word))
  | "send" =>
    let (given, _) ← sendGrammar.read (none, {}) rest.arguments
    return (given, ← given.toSend)
  | "inspect" =>
    let (given, _) ← (plainGrammar 1).read (none, {}) rest.arguments
    return (given, .inspect (← given.word))
  | "machines" =>
    let (given, _) ← (plainGrammar 0).read (none, {}) rest.arguments
    return (given, .machines)
  | _ => throw (helpOn rest.arguments)

/-- The file with the configuration, as it is named behind the command, before it, or else in the
environment. An empty name is a mistake there too, unless nobody looks at it. -/
def configPath? (environment : Environment) (before behind : Given) :
    Except Halt (Option String) :=
  let named := [behind, before].filterMap fun given => given.value? configRule.long
  if named.length < 2 && environment.configPath? = some "" then .error .usage
  else .ok (named.head?.or environment.configPath?)

/-- What a command line asks for in an environment. -/
def Invocation.ofArguments (environment : Environment) (arguments : List String) :
    Except Halt Invocation := do
  let (before, rest?) ← programGrammar.read (none, {}) arguments
  match rest? with
  | none => throw .usage
  | some rest =>
    let (behind, task) ← readCommand rest
    return { config := ← configPath? environment before behind, task }

end Statechart.Command
