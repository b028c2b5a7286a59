import StakeSnapshot.CommandLine.Command
import StakeSnapshot.Metrics

/-!
# Invocations

An invocation is what the arguments and the environment ask for, and a report is what is printed
and how the program ends.
-/

namespace StakeSnapshot.CommandLine

structure Invocation where
  execution : ExecutionOptions
  beacon : BeaconOptions
  settings : Settings
  printMetrics : Bool
  command : Command
deriving DecidableEq

structure Report where
  exitCode : UInt8
  output : String
  errorOutput : String
deriving DecidableEq

namespace Invocation

/-- The invocation that arguments and variables ask for. Options stand before the command. -/
def parse (environment : List (String × String)) (arguments : List String) :
    Except UsageError Invocation := do
  let specs := OptionSpec.all
  let (s, rest) ← Scan.options specs (Command.forms.map (·.1)) .empty arguments
  let command ← rest.mapM fun (name, arguments) => Command.parse name arguments
  let s ← s.settle
  let s ← s.environment environment specs
  match command, s.draft.execution?, s.draft.beacon? with
  | some command, some execution, some beacon =>
    .ok ⟨execution, beacon, s.draft.settings, s.draft.printMetrics, command⟩
  | _, _, _ => .error .missing

def endpoints (i : Invocation) : Http.Endpoints :=
  ⟨i.execution.url, i.beacon.url, i.execution.multicall, i.execution.balanceBatcher⟩

/-- The task of an invocation, put to its servers. -/
def task (i : Invocation) : Task Http.Exchange Json :=
  i.endpoints.overWeb (i.command.task i.settings i.execution.storage)

/-- The report of an invocation that ended, with the metrics at the end. -/
def report (i : Invocation) (metrics : Metrics) : Outcome Json → Report
  | .ok result =>
    ⟨0, result.pretty ++ "\n", if i.printMetrics then metrics.text ++ "\n" else ""⟩
  | .error (.error e) => ⟨1, "", "snapshot failed: " ++ e.display ++ "\n"⟩
  | .error (.fault f) => ⟨101, "", f.text ++ "\n"⟩

/-- How to ask. -/
def usage : String :=
  "Usage: stake-snapshot [OPTIONS] <COMMAND>\n\nCommands:\n"
    ++ String.join (Command.forms.map fun (name, form) => match form with
      | .alone _ => s!"  {name}\n"
      | .withArgument _ => s!"  {name} <ARGUMENT>\n")
    ++ "\nOptions:\n"
    ++ String.join (OptionSpec.all.map fun option =>
      "  --" ++ option.name ++ (if option.takesValue then " <VALUE>" else "") ++ " [env: "
        ++ option.variableName ++ "]\n")
    ++ "  --help\n"

/-- The report when there is nothing to do but to say how to ask. -/
def usageReport : UsageError → Report
  | .help => ⟨0, usage, ""⟩
  | _ => ⟨2, "", usage⟩

end Invocation

end StakeSnapshot.CommandLine
