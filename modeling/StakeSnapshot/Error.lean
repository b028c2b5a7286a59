import StakeSnapshot.Json.Codec

/-!
# Errors

An error has a kind, by which callers decide whether to try again, and a message that grows at the
front as the error is passed on (`Error.context`). A computation can also end in a fault of 64 bit
arithmetic, which no caller handles. `Outcome` is the result of a computation that may end in
either.
-/

namespace StakeSnapshot

inductive ErrorKind where
  /-- A data source could not be reached, or does not have the data. -/
  | sourceUnavailable
  /-- A part of a fetch failed, and all of it was discarded. -/
  | partialFetchFailure
  /-- A position outside the current bounds was asked for. -/
  | outOfRange
  /-- A value did not have the expected shape. -/
  | decodeMismatch
deriving DecidableEq

namespace ErrorKind

def all : List ErrorKind :=
  [.sourceUnavailable, .partialFetchFailure, .outOfRange, .decodeMismatch]

/-- The name in records. -/
def name : ErrorKind → String
  | .sourceUnavailable => "UpstreamUnavailable"
  | .partialFetchFailure => "PartialFetchFailure"
  | .outOfRange => "OutOfRange"
  | .decodeMismatch => "DecodeMismatch"

/-- The name in texts. -/
def text : ErrorKind → String
  | .sourceUnavailable => "upstream unavailable"
  | .partialFetchFailure => "partial fetch failure"
  | .outOfRange => "out of range"
  | .decodeMismatch => "decode mismatch"

/-- The message of an error to which no context has been added. -/
def message : ErrorKind → String
  | .partialFetchFailure => "batched fetch failed"
  | kind => kind.text

instance : JsonForm ErrorKind := JsonForm.ofNames all name

end ErrorKind

structure Error where
  message : String
  kind : ErrorKind
deriving DecidableEq

namespace Error

/-- The error of a kind without any context. -/
def bare (kind : ErrorKind) : Error := ⟨kind.message, kind⟩

/-- Puts a context before the message. The kind stays. -/
def context (context : String) (e : Error) : Error :=
  ⟨context ++ ": " ++ e.message, e.kind⟩

/-- The error of a kind with one context. -/
def of (kind : ErrorKind) (context : String) : Error := (bare kind).context context

/-- The kind and the message, as they are shown to a user. -/
def display (e : Error) : String := e.kind.text ++ ": " ++ e.message

/-- The error `outer` with an inner error as its context. -/
def because (outer inner : Error) : Error := outer.context inner.display

@[simp] theorem kind_context (c : String) (e : Error) : (e.context c).kind = e.kind := rfl

@[simp] theorem kind_of (kind : ErrorKind) (c : String) : (of kind c).kind = kind := rfl

instance : RecordForm Error where
  blank := bare .decodeMismatch
  fields :=
    [.required "message" message fun v e => { e with message := v },
      .required "kind" kind fun v e => { e with kind := v }]

end Error

/-- A fault of 64 bit arithmetic, or another event that no caller can handle. -/
inductive Fault where
  | divideByZero
  | multiplyOverflow
  | addOverflow
  | subtractOverflow
  /-- More permits were asked for than can be kept. -/
  | tooManyPermits
  /-- More items were announced than memory can hold. -/
  | tooManyItems
deriving DecidableEq

def Fault.text : Fault → String
  | .divideByZero => "attempt to divide by zero"
  | .multiplyOverflow => "attempt to multiply with overflow"
  | .addOverflow => "attempt to add with overflow"
  | .subtractOverflow => "attempt to subtract with overflow"
  | .tooManyPermits =>
    "a semaphore may not have more than MAX_PERMITS permits (2305843009213693951)"
  | .tooManyItems => "capacity overflow"

namespace Memory

/-- How many bytes memory can hold at most. -/
def limit : Nat := UInt64.size / 2 - 1

/-- A fault, unless memory can hold a number of items of some size. -/
def reserve (itemSize count : Nat) : Except Fault Unit :=
  if limit < itemSize * count then .error .tooManyItems else .ok ()

end Memory

inductive Failure where
  | error (e : Error)
  | fault (f : Fault)
deriving DecidableEq

/-- Puts a context before the message of an error. A fault has no message to extend. -/
def Failure.mapError (f : Error → Error) : Failure → Failure
  | .error e => .error (f e)
  | .fault f => .fault f

abbrev Outcome := Except Failure

namespace Outcome

variable {α : Type}

/-- A result that may be an error but not a fault. -/
def ofExcept (r : Except Error α) : Outcome α := r.mapError .error

/-- Changes the error of an outcome, if it has one. -/
def mapError (f : Error → Error) (r : Outcome α) : Outcome α :=
  Except.mapError (Failure.mapError f) r

/-- Puts a context before the message of an outcome's error. -/
def context (c : String) (r : Outcome α) : Outcome α :=
  mapError (Error.context c) r

end Outcome

/-- Ends a computation in an error of the given kind and context. -/
def fail {α : Type} (kind : ErrorKind) (context : String) : Except Error α :=
  .error (.of kind context)

end StakeSnapshot
