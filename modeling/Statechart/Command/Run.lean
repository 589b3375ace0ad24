/-
**Running the program.**

A run reads the configuration and then does its task. It works on a tree of files, at one time, and
leaves the lines that it prints, the files, and whether all went well.

* `run`: the run of a command line.
-/

import Statechart.Command.Invocation
import Statechart.Command.Report
import Statechart.Config.Loading
import Statechart.Pool.Lending
import Statechart.Description.Reading
import Statechart.Description.Markup
import Statechart.Description.Indented

namespace Statechart.Command

open Json

/-- What a run works on. -/
structure Workplace where
  storage : Storage
  /-- The time of the run. -/
  now : Int

instance : Clocked Workplace where
  now workplace := (workplace.now, workplace)

/-- A store for the pools of a run. -/
def workplaceStore (store : MachineStore Storage) : MachineStore Workplace :=
  store.within Workplace.storage fun storage workplace => { workplace with storage }

/-- What a run leaves. -/
structure Outcome where
  /-- Whether all went well. -/
  succeeded : Bool
  lines : List String := []
  storage : Storage

/-! ### Charts -/

/-- Why a chart cannot be read from a file. -/
inductive ChartError
  | file (fault : FileFault)
  | chart (error : Error)
  deriving DecidableEq

/-- What is said of a chart that cannot be read. -/
def ChartError.text : ChartError → String
  | .file fault => fault.message
  | .chart error => errorText error

/-- The form of the chart in a file, which shows in what its name ends with. -/
def formatOf (path : String) : SourceFormat :=
  match FilePath.extension? path with
  | some "yaml" | some "yml" => .yaml
  | some "xml" => .xml
  | _ => .json

/-- The description that a text gives in a form. -/
def describe (format : SourceFormat) (text : String) : Except Error Description :=
  match format with
  | .json => Description.ofJson text
  | .yaml => Description.ofYaml text
  | .xml => Description.ofXml text

/-- The machine at rest with the chart in a file. -/
def loadChart (files : FileTree) (path : String) : Except ChartError Machine :=
  match files.readText path with
  | .error fault => .error (.file fault)
  | .ok text =>
    match describe (formatOf path) text with
    | .error error => .error (.chart error)
    | .ok description =>
      match description.build with
      | .error fault => .error (.chart (.chart fault))
      | .ok machine => .ok machine

/-- Shows what the chart in a file is like. -/
def validate (storage : Storage) (path : String) : Outcome :=
  match loadChart storage.files path with
  | .error error =>
    { succeeded := false, lines := [bad ++ " " ++ path ++ ": " ++ error.text], storage }
  | .ok machine => { succeeded := true, lines := chartLines path machine, storage }

/-! ### Events -/

/-- What a run has done with a runner. -/
structure Progress where
  succeeded : Bool
  lines : List String
  runner : Runner Workplace
  workplace : Workplace

namespace Progress

/-- The progress with more lines. -/
def print (progress : Progress) (lines : List String) : Progress :=
  { progress with lines := progress.lines ++ lines }

/-- The progress of a run that stops. -/
def fail (progress : Progress) : Progress := { progress with succeeded := false }

/-- Starts the machine if it is not started. -/
def start (progress : Progress) (key : MachineKey) (payload : Value) : Progress :=
  let (result, runner, workplace) := progress.runner.start payload progress.workplace
  let progress := { progress with runner, workplace }
  match result with
  | .error _ => progress.fail
  | .ok true => progress.print [begun ++ " started " ++ key.text]
  | .ok false => progress

/-- Sends an event to the machine, unless the run has stopped. -/
def send (payload : Value) (progress : Progress) (event : String) : Progress :=
  if !progress.succeeded then progress
  else
    let (result, runner, workplace) := progress.runner.send event payload progress.workplace
    let progress := { progress with runner, workplace }
    match result with
    | .error error => (progress.print [bad ++ " " ++ event ++ ": " ++ errorText error]).fail
    | .ok _ =>
      match runner.currentState with
      | .error _ => progress.fail
      | .ok state => progress.print [good ++ " " ++ event ++ " -> " ++ state.name]

/-- Shows where the machine is, unless the run has stopped. -/
def showPosition (progress : Progress) : Progress :=
  if !progress.succeeded then progress
  else
    match positionLines progress.runner with
    | .error _ => progress.fail
    | .ok lines => progress.print lines

end Progress

/-- Starts the machine of a runner or goes on with it, and sends it events. -/
def drive (key : MachineKey) (events : List String) (payload : Value) (runner : Runner Workplace)
    (workplace : Workplace) : Progress :=
  let begun := { succeeded := true, lines := [], runner, workplace : Progress }.start key payload
  (events.foldl (Progress.send payload) begun).showPosition

/-- Drives the machine of a key with a runner of a pool, which is given back in any case. -/
def driveIn (pool : Pool Workplace) (key : MachineKey) (events : List String) (payload : Value)
    (workplace : Workplace) : Outcome :=
  match pool.acquire key workplace with
  | (.error _, _, workplace) => { succeeded := false, storage := workplace.storage }
  | (.ok guard, pool, workplace) =>
    let progress := drive key events payload guard.runner workplace
    let (_, workplace) := pool.release { guard with runner := progress.runner } progress.workplace
    { succeeded := progress.succeeded, lines := progress.lines, storage := workplace.storage }

/-- The payload that a text gives, nothing if there is no text. -/
def payloadOf? : Option String → Option Value
  | none => some .null
  | some text => Value.parse? text

/-- The pool of a configuration, which knows one chart. -/
def poolFor (config : Config) (store : MachineStore Storage) (chart : Machine) : Pool Workplace :=
  let runner := Runner.new .none config.runner
  (Pool.new config.pool (workplaceStore store) runner).registerChart chart

/-- Sends events to an owner's machine with the chart in a file. -/
def send (config : Config) (storage : Storage) (now : Int) (path owner : String)
    (events : List String) (payload : Option String) : Outcome :=
  match loadChart storage.files path, payloadOf? payload with
  | .ok chart, some payload =>
    match config.storage.openStore storage with
    | (.error _, storage) => { succeeded := false, storage }
    | (.ok store, storage) =>
      let key := { owner, chartType := chart.name : MachineKey }
      driveIn (poolFor config store chart) key events payload { storage, now }
  | _, _ => { succeeded := false, storage }

/-! ### Dumps and stores -/

/-- Shows the dump in a file. -/
def inspect (storage : Storage) (path : String) : Outcome :=
  match storage.files.read path with
  | .error _ => { succeeded := false, storage }
  | .ok bytes =>
    match Machine.decode? bytes with
    | .error _ => { succeeded := false, storage }
    | .ok machine =>
      { succeeded := true, lines := dumpLines path (.detect bytes) machine, storage }

/-- Lists the machines of the store. -/
def machines (config : Config) (storage : Storage) : Outcome :=
  match config.storage.openStore storage with
  | (.error _, storage) => { succeeded := false, storage }
  | (.ok store, storage) =>
    match store.keys storage with
    | (.error _, storage) => { succeeded := false, storage }
    | (.ok keys, storage) => { succeeded := true, lines := machineLines keys, storage }

/-! ### Command lines -/

/-- Does a task. -/
def perform (config : Config) (storage : Storage) (now : Int) : Task → Outcome
  | .validate chart => validate storage chart
  | .send chart owner events payload => send config storage now chart owner events payload
  | .inspect dump => inspect storage dump
  | .machines => machines config storage

/-- Reads the configuration, and then does what is asked for. -/
def carryOut (environment : Environment) (invocation : Invocation) (files : FileTree) (now : Int) :
    Outcome :=
  match Config.loadFrom environment files invocation.config with
  | .error _ => { succeeded := false, storage := { files } }
  | .ok config => perform config { files } now invocation.task

/-- The files that a task reads, besides those of the store. -/
def Task.paths : Task → List String
  | .validate chart => [chart]
  | .send chart _ _ _ => [chart]
  | .inspect dump => [dump]
  | .machines => []

/-- The files that a run reads, besides those of the store. -/
def Invocation.paths (invocation : Invocation) : List String :=
  invocation.config.toList ++ invocation.task.paths

/-- The directory that a run keeps dumps in, if it does. -/
def Invocation.directory? (environment : Environment) (files : FileTree)
    (invocation : Invocation) : Option String :=
  match Config.loadFrom environment files invocation.config with
  | .error _ => none
  | .ok config =>
    if config.storage.backend = .file then some config.storage.machinesDirectory else none

/-- What the program says when it ends. -/
structure Result where
  exitCode : Nat
  lines : List String
  files : FileTree

/-- The lines of the help. -/
def helpLines : List String :=
  ["Declarative state chart interpreter", "",
   "Usage: runchart [OPTIONS] <COMMAND>", "",
   "Commands:",
   "  validate  Build a chart and print its summary",
   "  send      Start or resume a machine and send events to it",
   "  inspect   Decode a machine dump (binary or JSON)",
   "  machines  List machines in the configured store"]

/-- What the program says if it does nothing. -/
def Halt.result (files : FileTree) : Halt → Result
  | .usage => { exitCode := 2, lines := [], files }
  | .help => { exitCode := 0, lines := helpLines, files }
  | .version => { exitCode := 0, lines := ["runchart 0.1.0"], files }

/-- What the program says at the end of a run. -/
def Outcome.result (outcome : Outcome) : Result where
  exitCode := if outcome.succeeded then 0 else 1
  lines := outcome.lines
  files := outcome.storage.files

/-- The run of a command line. -/
def run (environment : Environment) (arguments : List String) (files : FileTree) (now : Int) :
    Result :=
  match Invocation.ofArguments environment arguments with
  | .error halt => halt.result files
  | .ok invocation => (carryOut environment invocation files now).result

/-- The text of lines. -/
def textOf (lines : List String) : String := String.join (lines.map fun line => line ++ "\n")

end Statechart.Command
