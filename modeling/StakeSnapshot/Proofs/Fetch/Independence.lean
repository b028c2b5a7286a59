import Mathlib.Data.List.Nodup
import StakeSnapshot.Proofs.Fetch.Fields

/-!
# Tables whose rows do not touch each other

A row of a table reads a reply as a value of one part of a record, and stores it there and nowhere
else, whatever the record has been before (`FieldSpec.Fills`). Rows with different parts can
therefore be stored one after the other in either order, and the rows of a table whose parts are all
different in any order (`Fetch.Independent`). The node table and the minipool table are such tables.
-/

namespace StakeSnapshot

open Contract

variable {κ ρ : Type}

/-- The parts of a record, which make it up together. -/
structure Parts (ρ : Type) where
  Part : Type
  Value : Part → Type
  get : (p : Part) → ρ → Value p
  ext {r r' : ρ} : (∀ p, get p r = get p r') → r = r'

/-- A part of a record, with the value that a reply has for it, or the error if it has none. -/
structure Parts.Column (parts : Parts ρ) where
  part : parts.Part
  read : Bytes → Except Error (parts.Value part)

namespace FieldSpec

/-- The row stores what a reply says about one part, and leaves the other parts alone. -/
structure Fills {parts : Parts ρ} (f : FieldSpec κ ρ) (c : parts.Column) : Prop where
  refuses {data : Bytes} {e : Error} (h : c.read data = .error e) (r : ρ) :
    f.store data r = .error e
  stores {data : Bytes} {value : parts.Value c.part} (h : c.read data = .ok value) (r : ρ) :
    ∃ r', f.store data r = .ok r' ∧ parts.get c.part r' = value ∧
      ∀ p, p ≠ c.part → parts.get p r' = parts.get p r

/-- The rows can be stored one after the other in either order. -/
def Commutes (f f' : FieldSpec κ ρ) : Prop :=
  ∀ data data' r r',
    (∃ m, f.store data r = .ok m ∧ f'.store data' m = .ok r') ↔
      ∃ m, f'.store data' r = .ok m ∧ f.store data m = .ok r'

theorem Commutes.symm {f f' : FieldSpec κ ρ} (h : f.Commutes f') : f'.Commutes f :=
  fun data data' r r' => (h data' data r r').symm

section Fills

variable {parts : Parts ρ} {f f' : FieldSpec κ ρ} {c c' : parts.Column}

theorem Fills.of_ok (h : f.Fills c) {data : Bytes} {r r' : ρ} (hstore : f.store data r = .ok r') :
    c.read data = .ok (parts.get c.part r') ∧
      ∀ p, p ≠ c.part → parts.get p r' = parts.get p r := by
  cases hread : c.read data with
  | error e =>
      rw [h.refuses hread r] at hstore
      cases hstore
  | ok value =>
      obtain ⟨r'', hstore', hvalue, hothers⟩ := h.stores hread r
      rw [hstore'] at hstore
      cases hstore
      exact ⟨congrArg Except.ok hvalue.symm, hothers⟩

/-- Each part of the record in the end is that of the one row that fills it, or of the record in the
beginning. -/
theorem Fills.swap (h : f.Fills c) (h' : f'.Fills c') (hne : c.part ≠ c'.part) {data data' : Bytes}
    {r m r' : ρ} (hm : f.store data r = .ok m) (hr' : f'.store data' m = .ok r') :
    ∃ m', f'.store data' r = .ok m' ∧ f.store data m' = .ok r' := by
  obtain ⟨hread, hkept⟩ := h.of_ok hm
  obtain ⟨hread', hkept'⟩ := h'.of_ok hr'
  obtain ⟨m', hm', hvalue', hothers'⟩ := h'.stores hread' r
  obtain ⟨last, hlast, hvalue, hothers⟩ := h.stores hread m'
  have same : last = r' := by
    refine parts.ext fun p => ?_
    rcases eq_or_ne p c.part with rfl | hp
    · rw [hvalue, hkept' _ hne]
    · rw [hothers p hp]
      rcases eq_or_ne p c'.part with rfl | hp'
      · exact hvalue'
      · rw [hothers' p hp', hkept' p hp', hkept p hp]
  exact ⟨m', hm', same ▸ hlast⟩

theorem Fills.commutes (h : f.Fills c) (h' : f'.Fills c') (hne : c.part ≠ c'.part) :
    f.Commutes f' := by
  intro data data' r r'
  constructor
  · rintro ⟨m, hm, hr'⟩
    exact h.swap h' hne hm hr'
  · rintro ⟨m, hm, hr'⟩
    exact h'.swap h hne.symm hm hr'

end Fills

/-! ## The two kinds of rows -/

/-- The result of a function, or why it cannot be read. -/
def decoded {inputs : List Abi.Ty} {output : Abi.Ty} (m : Abi.Method inputs output) (data : Bytes) :
    Except Error output.Value :=
  (m.decodeResult data).mapError Abi.DecodeError.toError

theorem store_ofMethod_eq {inputs : List Abi.Ty} {output : Abi.Ty} (method : String)
    (m : Abi.Method inputs output) (target : Registry → κ → Address) (args : κ → Abi.Values inputs)
    (set : output.Value → ρ → ρ) (data : Bytes) (r : ρ) :
    (ofMethod method m target args set).store data r = (decoded m data).map (set · r) := by
  dsimp only [ofMethod, decoded]
  cases m.decodeResult data <;> rfl

theorem store_numberRow_eq {α : Type} (m : Abi.Method [] .uint8)
    (ofNumber : UInt8 → Except Error α) (set : α → Minipool → Minipool) (data : Bytes)
    (r : Minipool) :
    (MinipoolField.numberRow m ofNumber set).store data r =
      ((decoded m data).bind ofNumber).map (set · r) := by
  dsimp only [MinipoolField.numberRow, decoded]
  cases m.decodeResult data <;> rfl

/-- A row that sets a part to what is read off the reply alone. -/
theorem Fills.of_set {parts : Parts ρ} {f : FieldSpec κ ρ} {part : parts.Part}
    {read : Bytes → Except Error (parts.Value part)} {set : parts.Value part → ρ → ρ}
    (hstore : ∀ data r, f.store data r = (read data).map (set · r))
    (hself : ∀ value r, parts.get part (set value r) = value)
    (hothers : ∀ p, p ≠ part → ∀ value r, parts.get p (set value r) = parts.get p r) :
    f.Fills ⟨part, read⟩ where
  refuses h r := by
    dsimp only at h
    rw [hstore, h]
    rfl
  stores h r := by
    dsimp only at h
    rw [hstore, h]
    exact ⟨_, rfl, hself _ r, fun p hp => hothers p hp _ r⟩

end FieldSpec

/-! ## Storing in any order -/

namespace Fetch

/-- Stores the reply beside each row. -/
def storeRows (rows : List (FieldSpec κ ρ × Bytes)) (r : ρ) : Except Error ρ :=
  storeAll (rows.map Prod.fst) (rows.map Prod.snd) r

theorem storeRows_cons_eq_ok {row : FieldSpec κ ρ × Bytes} {rows : List (FieldSpec κ ρ × Bytes)}
    {r r' : ρ} :
    storeRows (row :: rows) r = .ok r' ↔
      ∃ m, row.1.store row.2 r = .ok m ∧ storeRows rows m = .ok r' :=
  storeAll_cons_eq_ok

theorem storeRows_swap {first second : FieldSpec κ ρ × Bytes}
    (h : first.1.Commutes second.1) {rows : List (FieldSpec κ ρ × Bytes)} {r r' : ρ}
    (hstore : storeRows (first :: second :: rows) r = .ok r') :
    storeRows (second :: first :: rows) r = .ok r' := by
  obtain ⟨m, hfirst, hrest⟩ := storeRows_cons_eq_ok.mp hstore
  obtain ⟨next, hsecond, hrest⟩ := storeRows_cons_eq_ok.mp hrest
  obtain ⟨m, hsecond, hfirst⟩ := (h _ _ _ _).mp ⟨m, hfirst, hsecond⟩
  exact storeRows_cons_eq_ok.mpr ⟨m, hsecond, storeRows_cons_eq_ok.mpr ⟨next, hfirst, hrest⟩⟩

theorem storeRows_perm {rows rows' : List (FieldSpec κ ρ × Bytes)} (hperm : rows.Perm rows')
    (hcommute : rows.Pairwise fun a b => a.1.Commutes b.1) {r r' : ρ} :
    storeRows rows r = .ok r' ↔ storeRows rows' r = .ok r' := by
  induction hperm generalizing r with
  | nil => rfl
  | cons row _ ih =>
      rw [storeRows_cons_eq_ok, storeRows_cons_eq_ok]
      exact exists_congr fun m => and_congr_right fun _ => ih (List.pairwise_cons.mp hcommute).2
  | swap first second rows =>
      have hfirst := (List.pairwise_cons.mp hcommute).1 first (List.mem_cons_self ..)
      exact ⟨storeRows_swap hfirst, storeRows_swap hfirst.symm⟩
  | trans hperm _ ih ih' =>
      exact (ih hcommute).trans (ih' ((hperm.pairwise_iff fun h => h.symm).mp hcommute))

/-- The rows of a table fill the parts of the columns, which are all different. So if replies are
beside the rows, they make the same record in whatever order they are stored, or none in any. -/
structure Independent (parts : Parts ρ) (table : List (FieldSpec κ ρ))
    (columns : List parts.Column) : Prop where
  fills : List.Forall₂ FieldSpec.Fills table columns
  nodup : (columns.map Parts.Column.part).Nodup
  anyOrder {replies : List Bytes} (hlength : replies.length = table.length)
    {rows : List (FieldSpec κ ρ × Bytes)} (hperm : rows.Perm (table.zip replies)) (r r' : ρ) :
    storeRows rows r = .ok r' ↔ storeAll table replies r = .ok r'

theorem pairwise_commutes {parts : Parts ρ} {table : List (FieldSpec κ ρ)}
    {columns : List parts.Column} (hfills : List.Forall₂ FieldSpec.Fills table columns)
    (hnodup : (columns.map Parts.Column.part).Nodup) : table.Pairwise FieldSpec.Commutes := by
  induction hfills with
  | nil => exact .nil
  | @cons f c table columns hf hfills ih =>
      rw [List.map_cons, List.nodup_cons] at hnodup
      refine .cons (fun f' hf' => ?_) (ih hnodup.2)
      obtain ⟨i, hi, rfl⟩ := List.mem_iff_getElem.mp hf'
      have hi' : i < columns.length := hfills.length_eq ▸ hi
      refine hf.commutes (hfills.get hi hi') fun hpart => hnodup.1 ?_
      rw [hpart]
      exact List.mem_map_of_mem (List.getElem_mem hi')

theorem Independent.of_fills {parts : Parts ρ} {table : List (FieldSpec κ ρ)}
    {columns : List parts.Column} (hfills : List.Forall₂ FieldSpec.Fills table columns)
    (hnodup : (columns.map Parts.Column.part).Nodup) : Independent parts table columns where
  fills := hfills
  nodup := hnodup
  anyOrder {replies} hlength {rows} hperm r r' := by
    have hfst : (table.zip replies).map Prod.fst = table :=
      List.map_fst_zip (Nat.le_of_eq hlength.symm)
    have hsnd : (table.zip replies).map Prod.snd = replies :=
      List.map_snd_zip (Nat.le_of_eq hlength)
    have hcommute : (table.zip replies).Pairwise fun a b => a.1.Commutes b.1 := by
      rw [← List.pairwise_map, hfst]
      exact pairwise_commutes hfills hnodup
    have hstore : storeRows (table.zip replies) r = storeAll table replies r := by
      rw [storeRows, hfst, hsnd]
    rw [← hstore]
    exact (storeRows_perm hperm.symm hcommute).symm

end Fetch

/-! ## The fields of nodes -/

namespace NodeGetter

theorem get_set_self (g : NodeGetter) (value : g.output.Value) (n : Node) :
    g.get (g.set value n) = value := by
  cases g <;> rfl

theorem get_set_of_ne {g g' : NodeGetter} (h : g' ≠ g) (value : g.output.Value) (n : Node) :
    g'.get (g.set value n) = g'.get n := by
  cases g <;> cases g' <;> first | rfl | exact absurd rfl h

end NodeGetter

namespace Node

/-- A field of the record: one that a contract keeps, the address, a balance or one that is
derived. -/
inductive Part where
  | kept (g : NodeGetter)
  | address
  | balanceEth
  | distributorBalance
  | averageNodeFee
  | distributorBalanceUserEth
  | distributorBalanceNodeEth

namespace Part

def Value : Part → Type
  | .kept g => g.output.Value
  | .address => Address
  | _ => Amount

def get : (p : Part) → Node → p.Value
  | .kept g => g.get
  | .address => Node.address
  | .balanceEth => Node.balanceEth
  | .distributorBalance => Node.distributorBalance
  | .averageNodeFee => Node.averageNodeFee
  | .distributorBalanceUserEth => Node.distributorBalanceUserEth
  | .distributorBalanceNodeEth => Node.distributorBalanceNodeEth

theorem get_set_of_ne {p : Part} {g : NodeGetter} (h : p ≠ .kept g) (value : g.output.Value)
    (n : Node) : p.get (g.set value n) = p.get n := by
  cases p with
  | kept g' => exact NodeGetter.get_set_of_ne (fun hg => h (congrArg kept hg)) value n
  | _ => cases g <;> rfl

theorem ext {n n' : Node} (h : ∀ p : Part, p.get n = p.get n') : n = n' := by
  have hkept : ∀ g : NodeGetter, g.get n = g.get n' := fun g => h (.kept g)
  rw [Node.mk.injEq]
  exact ⟨hkept .registered, hkept .registrationTime, hkept .timezoneLocation,
    hkept .feeDistributorInitialised, hkept .feeDistributorAddress, hkept .rewardNetwork,
    hkept .rplStake, hkept .effectiveRplStake, hkept .minimumRplStake, hkept .maximumRplStake,
    hkept .ethMatched, hkept .ethMatchedLimit, hkept .minipoolCount, h .balanceEth,
    hkept .balanceReth, hkept .balanceRpl, hkept .balanceOldRpl, hkept .depositCreditBalance,
    hkept .withdrawalAddress, hkept .pendingWithdrawalAddress,
    hkept .smoothingPoolRegistrationState, hkept .smoothingPoolRegistrationChanged, h .address,
    hkept .collateralisationRatio, h .distributorBalance, h .averageNodeFee,
    h .distributorBalanceUserEth, h .distributorBalanceNodeEth⟩

end Part

/-- The record of a node has these fields, and no others. -/
def parts : Parts Node := ⟨Part, Part.Value, Part.get, Part.ext⟩

end Node

/-- The field of a node that the function has the value of, and the value in a reply. -/
def NodeGetter.column (g : NodeGetter) : Node.parts.Column :=
  ⟨.kept g, FieldSpec.decoded g.method⟩

theorem NodeGetter.fills_field (g : NodeGetter) : g.field.Fills g.column :=
  .of_set (fun _ _ => FieldSpec.store_ofMethod_eq ..) g.get_set_self
    fun _ hp => Node.Part.get_set_of_ne hp

/-! ## The fields of minipools -/

namespace MinipoolGetter

def Kept : MinipoolGetter → Type
  | .nodeAddress => Address
  | .status => MinipoolStatus
  | .finalised => Bool
  | .nodeFee => Amount
  | .depositType => DepositType

/-- The field of a record that the function has the value of. -/
def get : (g : MinipoolGetter) → Minipool → g.Kept
  | .nodeAddress => Minipool.nodeAddress
  | .status => Minipool.status
  | .finalised => Minipool.finalised
  | .nodeFee => Minipool.nodeFee
  | .depositType => Minipool.depositType

def set : (g : MinipoolGetter) → g.Kept → Minipool → Minipool
  | .nodeAddress => fun v m => { m with nodeAddress := v }
  | .status => fun v m => { m with status := v }
  | .finalised => fun v m => { m with finalised := v }
  | .nodeFee => fun v m => { m with nodeFee := v }
  | .depositType => fun v m => { m with depositType := v }

/-- The value in a reply. Of the numbers of statuses and deposit types, not all have a meaning. -/
def read : (g : MinipoolGetter) → Bytes → Except Error g.Kept
  | .nodeAddress => FieldSpec.decoded MinipoolDelegate.getNodeAddress
  | .status => fun data =>
      (FieldSpec.decoded MinipoolDelegate.getStatus data).bind MinipoolStatus.ofNumber
  | .finalised => FieldSpec.decoded MinipoolDelegate.getFinalised
  | .nodeFee => FieldSpec.decoded MinipoolDelegate.getNodeFee
  | .depositType => fun data =>
      (FieldSpec.decoded MinipoolDelegate.getDepositType data).bind DepositType.ofNumber

theorem store_field (g : MinipoolGetter) (data : Bytes) (m : Minipool) :
    g.field.store data m = (g.read data).map (g.set · m) := by
  cases g with
  | status | depositType => exact FieldSpec.store_numberRow_eq ..
  | nodeAddress | finalised | nodeFee => exact FieldSpec.store_ofMethod_eq ..

theorem get_set_self (g : MinipoolGetter) (value : g.Kept) (m : Minipool) :
    g.get (g.set value m) = value := by
  cases g <;> rfl

theorem get_set_of_ne {g g' : MinipoolGetter} (h : g' ≠ g) (value : g.Kept) (m : Minipool) :
    g'.get (g.set value m) = g'.get m := by
  cases g <;> cases g' <;> first | rfl | exact absurd rfl h

end MinipoolGetter

namespace Minipool

/-- A field of the record: one that the minipool keeps, or the address. -/
inductive Part where
  | kept (g : MinipoolGetter)
  | address

namespace Part

def Value : Part → Type
  | .kept g => g.Kept
  | .address => Address

def get : (p : Part) → Minipool → p.Value
  | .kept g => g.get
  | .address => Minipool.address

theorem get_set_of_ne {p : Part} {g : MinipoolGetter} (h : p ≠ .kept g) (value : g.Kept)
    (m : Minipool) : p.get (g.set value m) = p.get m := by
  cases p with
  | kept g' => exact MinipoolGetter.get_set_of_ne (fun hg => h (congrArg kept hg)) value m
  | address => cases g <;> rfl

theorem ext {m m' : Minipool} (h : ∀ p : Part, p.get m = p.get m') : m = m' := by
  have hkept : ∀ g : MinipoolGetter, g.get m = g.get m' := fun g => h (.kept g)
  rw [Minipool.mk.injEq]
  exact ⟨h .address, hkept .nodeAddress, hkept .status, hkept .finalised, hkept .nodeFee,
    hkept .depositType⟩

end Part

/-- The record of a minipool has these fields, and no others. -/
def parts : Parts Minipool := ⟨Part, Part.Value, Part.get, Part.ext⟩

end Minipool

/-- The field of a minipool that the function has the value of, and the value in a reply. -/
def MinipoolGetter.column (g : MinipoolGetter) : Minipool.parts.Column := ⟨.kept g, g.read⟩

theorem MinipoolGetter.fills_field (g : MinipoolGetter) : g.field.Fills g.column :=
  .of_set g.store_field g.get_set_self fun _ hp => Minipool.Part.get_set_of_ne hp

/-! ## Both tables -/

namespace Fetch

/-- The rows of the node table and of the minipool table have a field each for themselves, in which
they store what the reply to their function says, and they make the same record in any order. They
leave alone the address, which a record has from the beginning, the balances of a node, which are
read otherwise, and its three derived fields. -/
theorem tables_independent :
    (Independent Node.parts NodeField.table (NodeGetter.all.map NodeGetter.column) ∧
      ∀ f ∈ NodeField.table, ∀ data n n', f.store data n = .ok n' →
        n'.address = n.address ∧ n'.balanceEth = n.balanceEth ∧
        n'.distributorBalance = n.distributorBalance ∧ n'.averageNodeFee = n.averageNodeFee ∧
        n'.distributorBalanceUserEth = n.distributorBalanceUserEth ∧
        n'.distributorBalanceNodeEth = n.distributorBalanceNodeEth) ∧
    Independent Minipool.parts MinipoolField.table (MinipoolGetter.all.map MinipoolGetter.column) ∧
      ∀ f ∈ MinipoolField.table, ∀ data m m', f.store data m = .ok m' → m'.address = m.address := by
  refine ⟨⟨.of_fills ?_ ?_, fun f hf data n n' hstore => ?_⟩, .of_fills ?_ ?_,
    fun f hf data m m' hstore => ?_⟩
  · rw [NodeGetter.table_eq, List.forall₂_map_left_iff, List.forall₂_map_right_iff,
      List.forall₂_same]
    exact fun g _ => g.fills_field
  · rw [List.map_map]
    exact NodeGetter.nodup_all.map fun g g' h => Node.Part.kept.inj h
  · rw [NodeGetter.table_eq] at hf
    obtain ⟨g, -, rfl⟩ := List.mem_map.mp hf
    have kept : ∀ p : Node.Part, p ≠ .kept g → p.get n' = p.get n :=
      (g.fills_field.of_ok hstore).2
    exact ⟨kept .address nofun, kept .balanceEth nofun, kept .distributorBalance nofun,
      kept .averageNodeFee nofun, kept .distributorBalanceUserEth nofun,
      kept .distributorBalanceNodeEth nofun⟩
  · rw [MinipoolGetter.table_eq, List.forall₂_map_left_iff, List.forall₂_map_right_iff,
      List.forall₂_same]
    exact fun g _ => g.fills_field
  · rw [List.map_map]
    exact MinipoolGetter.nodup_all.map fun g g' h => Minipool.Part.kept.inj h
  · rw [MinipoolGetter.table_eq] at hf
    obtain ⟨g, -, rfl⟩ := List.mem_map.mp hf
    have kept : ∀ p : Minipool.Part, p ≠ .kept g → p.get m' = p.get m :=
      (g.fills_field.of_ok hstore).2
    exact kept .address nofun

/-- The replies of a minipool make its record from the last one to the first, too. -/
theorem storeRows_backwards :
    let m : Minipool := ⟨.ofNat 80, .ofNat 7, .staking, true, 5, .half⟩
    let replies := MinipoolGetter.all.map (·.reply m)
    storeRows (MinipoolField.table.zip replies).reverse (.new m.address) = .ok m :=
  (tables_independent.2.1.anyOrder rfl (List.reverse_perm _) _ _).mpr (storeAll_minipoolTable _)

end Fetch

end StakeSnapshot
