import StakeSnapshot.Error

/-!
# Splitting a distributor's balance

A distributor holds rewards that belong in part to the node and in part to the users of the pool.
The node has the part that its own capital earned, and a commission on the rest. Each division
rounds down, and the users have what is left.
-/

namespace StakeSnapshot

/-- What the node and the users own of a balance. -/
structure Shares where
  node : Amount
  user : Amount
deriving DecidableEq

namespace Shares

instance : RecordForm Shares where
  blank := ⟨0, 0⟩
  fields :=
    [.required "node" node fun v s => { s with node := v },
      .required "user" user fun v s => { s with user := v }]

/-- The shares of a balance before any commission. -/
def ofCapital (balance ratio : Amount) : Except Error Shares :=
  if ratio < Amount.one then
    fail .decodeMismatch
      s!"collateralisation ratio {ratio.decimal} below 1 with distributor balance {balance.decimal}"
  else
    match Amount.mul? balance Amount.one with
    | none => fail .decodeMismatch s!"balance {balance.decimal} overflows"
    | some scaled => .ok ⟨scaled / ratio, balance - scaled / ratio⟩

/-- Moves the commission on the users' share to the node. -/
def withCommission (balance fee : Amount) (shares : Shares) : Except Error Shares :=
  if Amount.one < fee then
    fail .decodeMismatch s!"average node fee {fee.decimal} above 100%"
  else
    match Amount.mul? shares.user fee with
    | none => fail .decodeMismatch s!"fee {fee.decimal} overflows"
    | some scaled =>
      let node := shares.node + scaled / Amount.one
      .ok ⟨node, balance - node⟩

/-- The shares of a balance, given the ratio of all capital to the node's own and the fee of the
node, if it earns one. An empty balance is not checked against the ratio or the fee. -/
def split (balance ratio : Amount) (fee : Option Amount) : Except Error Shares :=
  if balance = 0 then .ok ⟨0, 0⟩
  else
    match ofCapital balance ratio, fee with
    | .ok shares, some fee => withCommission balance fee shares
    | shares, _ => shares

theorem split_zero (ratio : Amount) (fee : Option Amount) : split 0 ratio fee = .ok ⟨0, 0⟩ := rfl

end Shares

end StakeSnapshot
