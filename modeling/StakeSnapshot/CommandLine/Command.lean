import StakeSnapshot.CommandLine.Scan
import StakeSnapshot.Request

/-!
# Commands

A command is one request. Most commands stand for themselves; four take one argument.
-/

namespace StakeSnapshot.CommandLine

inductive Command where
  /-- A snapshot of the whole pool at the head of the chain. -/
  | head
  /-- A snapshot of one node at the head of the chain. -/
  | node (address : Address)
  /-- A snapshot of the whole pool at a slot. -/
  | slot (slot : UInt64)
  | latestBlock
  | finalizedBlock
  /-- The position of a minipool in the queue. -/
  | queuePosition (minipool : Address)
  | queueStatus
  /-- The minipool at a position in the queue. -/
  | queueMinipool (position : UInt64)
deriving DecidableEq

/-- What follows the name of a command. -/
inductive CommandForm where
  | alone (command : Command)
  /-- One argument, which has to be readable. -/
  | withArgument (read? : String → Option Command)

namespace Command

/-- The names of the commands. -/
def forms : List (String × CommandForm) :=
  [("head", .alone .head),
    ("node", .withArgument fun text => (Address.ofText? text).map .node),
    ("slot", .withArgument fun text => (countOfText? text).map .slot),
    ("latest-block", .alone .latestBlock),
    ("finalized-block", .alone .finalizedBlock),
    ("queue-position", .withArgument fun text => (Address.ofText? text).map .queuePosition),
    ("queue-status", .alone .queueStatus),
    ("queue-minipool", .withArgument fun text => (countOfText? text).map .queueMinipool)]

/-- What has been read of a command's arguments. -/
inductive Progress where
  | finished (command : Command)
  | wants (read? : String → Option Command)
  | pending (read? : String → Option Command) (text : String)

namespace Progress

def ofForm : CommandForm → Progress
  | .alone command => .finished command
  | .withArgument read? => .wants read?

/-- Reads the argument that is pending. -/
def settle : Progress → Except UsageError Progress
  | .pending read? text =>
    match read? text with
    | some command => .ok (.finished command)
    | none => .error .badValue
  | p => .ok p

/-- Takes an argument. -/
def take (p : Progress) (text : String) : Except UsageError Progress :=
  match p with
  | .wants read? => .ok (.pending read? text)
  | _ => .error .unknown

/-- Takes arguments that are no options. -/
def takeAll (p : Progress) (arguments : List String) : Except UsageError Progress :=
  arguments.foldlM take p

/-- Reads the arguments of a command. The only option is that for help, and there is none behind
two dashes. -/
def arguments : Progress → List String → Except UsageError Progress
  | p, [] => .ok p
  | p, argument :: rest =>
    match argument.toList with
    | ['-', '-'] => p.takeAll rest
    | '-' :: '-' :: name =>
      match Scan.splitOption name with
      | ("help", none) => do
        let _ ← p.settle
        .error .help
      | ("help", some _) => .error .unwantedValue
      | _ => .error .unknown
    | '-' :: letter :: _ =>
      if letter = 'h' then do
        let _ ← p.settle
        .error .help
      else .error .unknown
    | _ => do arguments (← p.take argument) rest

end Progress

/-- The command with the given name and arguments. -/
def parse (name : String) (arguments : List String) : Except UsageError Command :=
  match forms.lookup name with
  | none => .error .unknown
  | some form => do
    match ← (← (Progress.ofForm form).arguments arguments).settle with
    | .finished command => .ok command
    | _ => .error .missing

/-- The request of a command, with the JSON form of its result. -/
def task (settings : Settings) (storage : Address) : Command → Task Query Json
  | .head => toJson <$> Request.headState settings storage
  | .node address => toJson <$> Request.headStateForNode settings storage address
  | .slot number => toJson <$> Request.stateForSlot settings storage number
  | .latestBlock => toJson <$> Request.latestBlock settings
  | .finalizedBlock => toJson <$> Request.latestFinalizedBlock settings
  | .queuePosition minipool => toJson <$> Request.queuePosition settings storage minipool
  | .queueStatus => toJson <$> Request.queueStatus settings storage
  | .queueMinipool position => toJson <$> Request.minipoolAtQueuePosition settings storage position

end Command

end StakeSnapshot.CommandLine
