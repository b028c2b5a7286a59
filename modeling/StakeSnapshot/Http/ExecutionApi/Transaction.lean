import StakeSnapshot.Http.ExecutionApi.Form

/-!
# Transactions in blocks

A block names its transactions by their digests, or contains them as a whole. A transaction says by
its type which members it has; one that does not is of the oldest type, whose signature is bound to
a chain in another way than that of all others (`oldSignatureFits`).
-/

namespace StakeSnapshot.Http.ExecutionApi

namespace Transaction

/-! ## Members -/

/-- What every transaction may say about its place in the chain and about the price that was paid,
and what it says about its sender. -/
def placeForm : List MemberForm :=
  [.optional Digest ["blockHash"], .optional Quantity ["blockNumber"],
    .optional Quantity ["transactionIndex"], .required Address ["from"],
    ⟨["gasPrice"], false, fun value => value matches .null || (number? 128 value).isSome⟩]

/-- What every transaction is made of. -/
def commonForm : List MemberForm :=
  [.required Quantity ["nonce"], .required Quantity ["gas", "gasLimit"],
    .required Amount ["value"], .data "input", .required Digest ["hash"],
    .required Amount ["r"], .required Amount ["s"]]

/-- The receiver, who may be missing where a contract is created. -/
def receiver : MemberForm := .optional Address ["to"]

def price : MemberForm := .number 128 "gasPrice"

def feeForm : List MemberForm :=
  [.number 128 "maxFeePerGas", .number 128 "maxPriorityFeePerGas"]

/-- A part of the state that a transaction announces to use. -/
structure Access where
  account : Address
  keys : List Digest

instance : RecordForm Access where
  blank := ⟨.ofBytes [], []⟩
  fields :=
    [.required "address" (·.account) fun v a => { a with account := v },
      .required "storageKeys" (·.keys) fun v a => { a with keys := v }]

/-- What all types but the oldest have. -/
def typedForm : List MemberForm :=
  [.required Quantity ["chainId"],
    ⟨["accessList"], true, fun value =>
      (JsonForm.ofJson? (α := Option (List Access)) value).isSome⟩]

/-- A permission to run code in the name of its signer. -/
def authorizationForm : List MemberForm :=
  [.required Amount ["chainId"], .required Address ["address"], .required Quantity ["nonce"],
    ⟨["yParity", "v"], true, fun value => (number? 8 value).isSome⟩, .required Amount ["r"],
    .required Amount ["s"]]

def authorizations : MemberForm :=
  ⟨["authorizationList"], true, fun value =>
    match value with
    | .array items => items.all fun item =>
      match item with
      | .object members => MemberForm.fit authorizationForm members
      | _ => false
    | _ => false⟩

/-! ## Types -/

inductive Kind where
  | old
  | withAccess
  | withFees
  | withBlobs
  | withAuthorizations
deriving DecidableEq

namespace Kind

/-- The types in the order of their numbers. -/
def all : List Kind := [.old, .withAccess, .withFees, .withBlobs, .withAuthorizations]

/-- The type that a value tells: its number, or the number in one or two digits. -/
def ofJson? : Json → Option Kind
  | .natural n => all[n]?
  | .string text =>
    (all.zipIdx.find? fun (_, n) => text = s!"0x{n}" ∨ text = s!"0x0{n}").map (·.1)
  | _ => none

/-- The members that transactions of a type have. -/
def form : Kind → List MemberForm
  | .old => .optional Quantity ["chainId"] :: price :: receiver :: commonForm
  | .withAccess => price :: receiver :: typedForm ++ commonForm
  | .withFees => receiver :: feeForm ++ typedForm ++ commonForm
  | .withBlobs =>
    [.required Address ["to"], .required (List Digest) ["blobVersionedHashes"],
      .number 128 "maxFeePerBlobGas"] ++ feeForm ++ typedForm ++ commonForm
  | .withAuthorizations =>
    [.required Address ["to"], authorizations] ++ feeForm ++ typedForm ++ commonForm

end Kind

/-! ## Signatures -/

/-- A number among some members. It is missing when it is left out or `null`. -/
def numberIn? (members : List (String × Json)) (name : String) (bits : Nat) :
    Option (Option Nat) :=
  match members.filter (·.1 = name) with
  | [] => some none
  | [(_, .null)] => some none
  | [(_, value)] => (number? bits value).map some
  | _ => none

/-- The signature of the oldest type tells in one number which of two keys signed, and for which
chain. Numbers from 35 on name the chain; 27 and 28 name none. A signature of zeros is none. -/
def oldSignatureFits (members : List (String × Json)) : Bool :=
  match numberIn? members "v" 128, numberIn? members "chainId" 64, numberIn? members "r" 256,
    numberIn? members "s" 256 with
  | some (some v), some chain, some r, some s =>
    if v = 0 ∧ r = some 0 ∧ s = some 0 then true
    else if v = 27 ∨ v = 28 then true
    else if v < 35 then false
    else (v - 35) / 2 < UInt64.size && chain.all (· == (v - 35) / 2)
  | _, _, _, _ => false

/-- Other signatures tell which of two keys signed, by a number of their own or by that of the
oldest type. -/
def signatureFits (members : List (String × Json)) : Bool :=
  match numberIn? members "yParity" 64, numberIn? members "v" 64 with
  | some (some parity), some _ => parity < 2
  | some none, some (some v) => v < 2 || v == 27 || v == 28 || 35 ≤ v
  | _, _ => false

/-- Whether some members make a transaction of a type. -/
def fits (kind : Kind) (members : List (String × Json)) : Bool :=
  MemberForm.fit kind.form members &&
    (if kind = .old then oldSignatureFits members else signatureFits members)

/-- The type among some members, if there is exactly one that is known. -/
def kind? (members : List (String × Json)) : Option Kind :=
  match members.filter (·.1 = "type") with
  | [(_, value)] => Kind.ofJson? value
  | _ => none

end Transaction

/-- Whether a value is a transaction. One that does not fit its type may still fit the oldest. -/
def isTransaction : Json → Bool
  | .object members =>
    MemberForm.fit Transaction.placeForm members &&
      ((Transaction.kind? members).any (Transaction.fits · members) ||
        Transaction.fits .old members)
  | _ => false

/-- Whether a value is what a block has as its transactions: all of them, or all of their digests.
A block that is not part of the chain has `null`. -/
def areTransactions : Json → Bool
  | .null => true
  | .array items =>
    items.all isTransaction || items.all fun item => (Json.ByteArray.ofJson? 32 item).isSome
  | _ => false

end StakeSnapshot.Http.ExecutionApi
