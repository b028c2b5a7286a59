import StakeSnapshot.CommandLine.Options

/-!
# Reading arguments

Arguments are read from left to right. An option's value is either attached to it by `=`, and then
read at once, or the next argument, and then read when the next option or the end is reached. So of
two mistakes the one that is noticed first counts.
-/

namespace StakeSnapshot.CommandLine

/-- Why arguments are refused, or not followed. -/
inductive UsageError where
  /-- An option that there is not, or an argument where none belongs. -/
  | unknown
  /-- An option that lacks its value. -/
  | valueMissing
  /-- A value that cannot be read. -/
  | badValue
  /-- An option that is given twice. -/
  | repeated
  /-- A value attached to an option that takes none. -/
  | unwantedValue
  /-- A required option or argument that is not given. -/
  | missing
  /-- The help text was asked for. -/
  | help
deriving DecidableEq

/-- An option whose value has not been read yet. -/
structure Pending where
  option : OptionSpec
  /-- The value, if it has been reached. -/
  value : Option String

/-- What has been read so far. -/
structure Scan where
  draft : Draft
  given : List String
  pending : Option Pending

namespace Scan

def empty : Scan := ⟨.usual, [], none⟩

/-- Puts a value into the draft. -/
def store (s : Scan) (option : OptionSpec) (value : String) : Except UsageError Scan :=
  if option.name ∈ s.given then .error .repeated
  else
    match option.store value s.draft with
    | some draft => .ok { s with draft, given := option.name :: s.given }
    | none => .error .badValue

/-- Reads the value that is pending. -/
def settle (s : Scan) : Except UsageError Scan :=
  match s.pending with
  | none => .ok s
  | some ⟨_, none⟩ => .error .valueMissing
  | some ⟨option, some value⟩ => Scan.store { s with pending := none } option value

/-- Whether the next argument is the value of an option. -/
def isWaiting (s : Scan) : Bool := s.pending.any (·.value.isNone)

/-- An option as it was given: its name and the value attached to it. -/
def splitOption (argument : List Char) : String × Option String :=
  let (name, value) := Http.Url.cut '=' argument
  (String.ofList name, value.map String.ofList)

/-- Reads a long option. -/
def long (options : List OptionSpec) (s : Scan) (argument : List Char) :
    Except UsageError Scan :=
  let (name, value) := splitOption argument
  match options.find? (·.name = name), value with
  | some option, some value =>
    if option.takesValue then do (← s.settle).store option value else .error .unwantedValue
  | some option, none => do
    let s ← s.settle
    if option.takesValue then .ok { s with pending := some ⟨option, none⟩ }
    else s.store option "true"
  | none, value =>
    if name = "help" then
      if value.isSome then .error .unwantedValue
      else do
        let _ ← s.settle
        .error .help
    else .error .unknown

/-- Reads a short option, of which there is only that for help. -/
def short (s : Scan) (letter : Char) : Except UsageError Scan :=
  if letter = 'h' then do
    let _ ← s.settle
    .error .help
  else .error .unknown

/-- Reads options up to the end, or up to the name of a command, which is returned with the
arguments behind it. -/
def options (specs : List OptionSpec) (commands : List String) :
    Scan → List String → Except UsageError (Scan × Option (String × List String))
  | s, [] => .ok (s, none)
  | s, argument :: rest =>
    if !s.isWaiting && commands.contains argument then .ok (s, some (argument, rest))
    else
      match argument.toList with
      | ['-', '-'] => if rest.isEmpty then .ok (s, none) else .error .unknown
      | '-' :: '-' :: name => do options specs commands (← s.long specs name) rest
      | '-' :: letter :: _ => do options specs commands (← s.short letter) rest
      | _ =>
        match s.pending with
        | some ⟨option, none⟩ =>
          options specs commands { s with pending := some ⟨option, some argument⟩ } rest
        | _ => .error .unknown

/-- Reads the variables of the options that were not given. -/
def environment (values : List (String × String)) :
    Scan → List OptionSpec → Except UsageError Scan
  | s, [] => .ok s
  | s, option :: rest =>
    if option.name ∈ s.given then environment values s rest
    else
      match values.lookup option.variableName with
      | none => environment values s rest
      | some value => do environment values (← s.store option value) rest

/-- Whether every required option was given. -/
def isComplete (specs : List OptionSpec) (s : Scan) : Bool :=
  specs.all fun option => !option.isRequired || s.given.contains option.name

/-- The draft of arguments that are options alone. -/
def onlyOptions (specs : List OptionSpec) (arguments : List String) :
    Except UsageError Draft := do
  let (s, _) ← options specs [] empty arguments
  let s ← s.settle
  if s.isComplete specs then .ok s.draft else .error .missing

end Scan

end StakeSnapshot.CommandLine
