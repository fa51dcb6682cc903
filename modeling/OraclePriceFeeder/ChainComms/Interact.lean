import Mathlib.Data.UInt

/-!
# Gas estimation in `chain-comms`

`commit_tx_with_gas_estimation` (`chain-comms/src/interact/mod.rs`) simulates a contract
transaction under a hard gas limit, takes the gas the simulation used (the fallback gas
limit when the simulation fails), scales it by the node's gas-adjustment ratio in `u128`
arithmetic, and commits the transaction signed with the result as its gas limit.

`config::Node`, `signer::Signer` and the `error` modules are not under src/. `Node` keeps the
four `NonZero` ratio parts that `calculate_fee` and the adjustment read (as the `u128`
values `.get().into()` gives) and the fee denomination; `Signer` keeps its sequence number,
which signing stamps and `tx_confirmed` advances (modelled from the spec, §4.2). Whether a
signing, a gRPC call or a broadcast succeeds is the world's answer.

Results:
1. `adjustedGasLimit_toNat`: the adjustment is `⌊g · num / den⌋`, saturated at `u64::MAX`,
   and `g` itself when `g · num` overflows `u128`.
2. `simulateTx_gasUsed_le`: a successful simulation used no more than the gas limit.
3. `commitTxWithGasEstimation_gasLimit`: exactly one transaction is committed once the fee
   is calculated and the signing succeeds, none otherwise, and its gas limit is the
   adjustment of the simulated gas, or of the fallback when the simulation failed. It is
   bounded by the hard limit only when the ratio is at most one
   (`adjusted_gas_exceeds_limit`).
-/

namespace OraclePriceFeeder.ChainComms

/-- A gas amount, `u64`. -/
abbrev Gas := UInt64

/-- A `NonZero` ratio of `config::Node`, as the `u128` values the code widens it to. -/
structure Ratio where
  numerator : Nat
  denominator : Nat
  numerator_pos : 0 < numerator
  denominator_pos : 0 < denominator
  numerator_lt : numerator < 2 ^ 128
  denominator_lt : denominator < 2 ^ 128

/-- The part of `config::Node` that `calculate_fee` and `commit_tx_with_gas_estimation`
read. `feeDenomAccepted` is whether `Coin::new` accepts `fee_denom`. -/
structure Node where
  gasPrice : Ratio
  gasAdjustment : Ratio
  feeDenom : String
  feeDenomAccepted : Bool

/-- `Fee::from_amount_and_gas(Coin::new(amount, denom)?, gas_limit)`. -/
structure Fee where
  amount : Nat
  denom : String
  gasLimit : Gas
  deriving DecidableEq, Repr

/-- A `ContractTx`: the contract it executes and its messages. -/
structure ContractTx where
  contract : String
  messages : List String
  deriving DecidableEq, Repr

/-- A signed `RawTx`: the transaction, its fee, and the sequence number it was signed at. -/
structure RawTx where
  tx : ContractTx
  fee : Fee
  sequenceNumber : UInt64
  deriving DecidableEq, Repr

/-- Modelled from the spec: the sequence number of `signer::Signer`. -/
structure Signer where
  sequenceNumber : UInt64
  deriving DecidableEq, Repr

/-- Modelled from the spec: `tx_confirmed` moves the signer to the next sequence number. -/
def Signer.txConfirmed (signer : Signer) : Signer :=
  ⟨signer.sequenceNumber + 1⟩

/-- `ContractTx::commit(signer, fee, None, None)`: serialize and sign at the signer's
sequence number; `ok` is whether serializing and signing succeed. -/
def ContractTx.commit (tx : ContractTx) (signer : Signer) (fee : Fee) (ok : Bool) :
    Except Unit RawTx :=
  if ok then .ok ⟨tx, fee, signer.sequenceNumber⟩ else .error ()

/-- `GasInfo`; only `gas_used` is read. -/
structure GasInfo where
  gasUsed : Gas
  deriving DecidableEq, Repr

/-- The `deliver_tx` fields of a `CommitResponse` that `commit_tx` reads. -/
structure DeliverTx where
  code : UInt32
  gasUsed : Int
  gasWanted : Int
  deriving DecidableEq, Repr

/-- `CommitResponse`, through its `deliver_tx`. -/
structure CommitResponse where
  deliverTx : DeliverTx
  deriving DecidableEq, Repr

namespace Error

/-- `error::FeeCalculation`: `Coin::new` failed. -/
inductive FeeCalculation
  | coin
  deriving DecidableEq, Repr

/-- `error::SimulateTx`, one constructor per way `simulate_tx` fails. -/
inductive SimulateTx
  | feeCalculation
  | commit
  | grpc
  | missingSimulationGasInto
  | simulationGasExceedsLimit (used : Gas)
  deriving DecidableEq, Repr

/-- `error::CommitTx`, one constructor per way `commit_tx` fails. -/
inductive CommitTx
  | feeCalculation
  | commit
  | broadcast
  deriving DecidableEq, Repr

/-- `error::GasEstimatingTxCommit`: the commit's error, through `Into`. -/
inductive GasEstimatingTxCommit
  | commitTx (error : CommitTx)
  deriving DecidableEq, Repr

end Error

/-- The world's answers to one `simulate_tx`. -/
structure Simulation where
  /-- Committing and encoding the simulation transaction succeed. -/
  signed : Bool
  /-- The node's answer: `none` for a gRPC error, `some none` for a reply with no
  `gas_info`. -/
  gasInfo : Option (Option GasInfo)
  deriving DecidableEq, Repr

/-- The world's answers to one `commit_tx`. -/
structure Commit where
  /-- Committing the transaction succeeds. -/
  signed : Bool
  /-- `broadcast_commit`'s answer, `none` for an error. -/
  response : Option CommitResponse
  deriving DecidableEq, Repr

/-- What the node sees, in order. -/
inductive Event
  /-- A transaction was sent to `simulate`. -/
  | simulated (tx : RawTx)
  /-- A transaction was sent to `broadcast_commit`. -/
  | committed (tx : RawTx)
  deriving DecidableEq, Repr

/-- `u128::MAX`, where `saturating_mul` stops. -/
def u128Max : Nat := 2 ^ 128 - 1

/-- `u64::MAX`. -/
def u64Max : Gas := 18446744073709551615

/-- `calculate_fee`: the amount `gas_limit · num` saturated at `u128::MAX`, over `den`. -/
def calculateFee (config : Node) (gasLimit : Gas) : Except Error.FeeCalculation Fee :=
  if config.feeDenomAccepted then
    .ok ⟨min (gasLimit.toNat * config.gasPrice.numerator) u128Max / config.gasPrice.denominator,
      config.feeDenom, gasLimit⟩
  else .error .coin

/-- `simulate_tx`: sign under `gas_limit`, simulate, and reject a simulation that used more
than `gas_limit`. -/
def simulateTx (signer : Signer) (config : Node) (gasLimit : Gas) (unsignedTx : ContractTx)
    (answer : Simulation) : List Event × Except Error.SimulateTx GasInfo :=
  match calculateFee config gasLimit with
  | .error _ => ([], .error .feeCalculation)
  | .ok fee =>
    match unsignedTx.commit signer fee answer.signed with
    | .error _ => ([], .error .commit)
    | .ok simulationTx =>
      ([.simulated simulationTx],
        match answer.gasInfo with
        | none => .error .grpc
        | some none => .error .missingSimulationGasInto
        | some (some gasInfo) =>
          if gasLimit < gasInfo.gasUsed then .error (.simulationGasExceedsLimit gasInfo.gasUsed)
          else .ok gasInfo)

/-- `commit_tx`'s `ERROR_CODE`. -/
def errorCode : UInt32 := 13

/-- The test in front of `signer.tx_confirmed()`: not code 13 with no gas wanted or used. -/
def DeliverTx.confirmed (d : DeliverTx) : Bool :=
  !(d.code == errorCode && d.gasUsed == 0 && d.gasWanted == 0)

/-- `commit_tx`: sign under `gas_limit`, broadcast, and confirm the sequence number unless
the node rejected the transaction before running it. -/
def commitTx (signer : Signer) (nodeConfig : Node) (unsignedTx : ContractTx) (gasLimit : Gas)
    (answer : Commit) : Signer × List Event × Except Error.CommitTx CommitResponse :=
  match calculateFee nodeConfig gasLimit with
  | .error _ => (signer, [], .error .feeCalculation)
  | .ok fee =>
    match unsignedTx.commit signer fee answer.signed with
    | .error _ => (signer, [], .error .commit)
    | .ok signedTx =>
      match answer.response with
      | none => (signer, [.committed signedTx], .error .broadcast)
      | some response =>
        (if response.deliverTx.confirmed then signer.txConfirmed else signer,
          [.committed signedTx], .ok response)

/-- `u128::checked_mul`. -/
def checkedMul (a b : Nat) : Option Nat :=
  if a * b < 2 ^ 128 then some (a * b) else none

/-- `u128::checked_div`. -/
def checkedDiv (a b : Nat) : Option Nat :=
  if b = 0 then none else some (a / b)

/-- `u64::try_from` on a `u128`. -/
def u64TryFrom (n : Nat) : Option Gas :=
  if n < 2 ^ 64 then some (UInt64.ofNat n) else none

/-- The `tx_gas_limit` of `commit_tx_with_gas_estimation`: the simulation's `gas_used`, or
the fallback when it failed. -/
def txGasLimit (simulated : Except Error.SimulateTx GasInfo) (fallbackGasLimit : Gas) : Gas :=
  match simulated with
  | .ok gasInfo => gasInfo.gasUsed
  | .error _ => fallbackGasLimit

/-- The `adjusted_gas_limit` of `commit_tx_with_gas_estimation`. -/
def adjustedGasLimit (nodeConfig : Node) (txGasLimit : Gas) : Gas :=
  (((checkedMul txGasLimit.toNat nodeConfig.gasAdjustment.numerator).bind fun result =>
      checkedDiv result nodeConfig.gasAdjustment.denominator).map fun result =>
        (u64TryFrom result).getD u64Max).getD txGasLimit

/-- `commit_tx_with_gas_estimation`. -/
def commitTxWithGasEstimation (signer : Signer) (nodeConfig : Node) (gasLimit : Gas)
    (unsignedTx : ContractTx) (fallbackGasLimit : Gas) (simulation : Simulation)
    (commit : Commit) :
    Signer × List Event × Except Error.GasEstimatingTxCommit CommitResponse :=
  let simulated := simulateTx signer nodeConfig gasLimit unsignedTx simulation
  let committed := commitTx signer nodeConfig unsignedTx
    (adjustedGasLimit nodeConfig (txGasLimit simulated.2 fallbackGasLimit)) commit
  (committed.1, simulated.1 ++ committed.2.1, committed.2.2.mapError .commitTx)

/-- The gas limits of the transactions sent to `broadcast_commit`. -/
def committedGas (events : List Event) : List Gas :=
  events.filterMap fun
    | .committed tx => some tx.fee.gasLimit
    | _ => none

namespace InteractLemmas

theorem gas_le_iff (a b : Gas) : a ≤ b ↔ a.toNat ≤ b.toNat := Iff.rfl

@[simp] theorem committedGas_append (xs ys : List Event) :
    committedGas (xs ++ ys) = committedGas xs ++ committedGas ys :=
  List.filterMap_append _ _ _

theorem calculateFee_gasLimit {config : Node} {gasLimit : Gas} {fee : Fee}
    (calculated : calculateFee config gasLimit = .ok fee) : fee.gasLimit = gasLimit := by
  unfold calculateFee at calculated
  split at calculated <;> cases calculated
  rfl

theorem simulateTx_committedGas (signer : Signer) (config : Node) (gasLimit : Gas)
    (unsignedTx : ContractTx) (answer : Simulation) :
    committedGas (simulateTx signer config gasLimit unsignedTx answer).1 = [] := by
  unfold simulateTx
  split
  · rfl
  · split <;> rfl

/-- `commit_tx` sends one transaction, under `gas_limit`, once the fee is calculated and the
signing succeeds, and none otherwise. -/
theorem commitTx_committedGas (signer : Signer) (nodeConfig : Node) (unsignedTx : ContractTx)
    (gasLimit : Gas) (answer : Commit) :
    committedGas (commitTx signer nodeConfig unsignedTx gasLimit answer).2.1 =
      match calculateFee nodeConfig gasLimit with
      | .ok _ => if answer.signed then [gasLimit] else []
      | .error _ => [] := by
  obtain ⟨signed, response⟩ := answer
  unfold commitTx ContractTx.commit
  cases calculated : calculateFee nodeConfig gasLimit with
  | error => rfl
  | ok fee =>
    cases signed <;> cases response <;> simp [committedGas, calculateFee_gasLimit calculated]

@[simp] theorem u64Max_toNat : u64Max.toNat = 2 ^ 64 - 1 := rfl

end InteractLemmas

open InteractLemmas

/-! ## The adjustment -/

/-- The adjustment computes `⌊g · num / den⌋` in `u128`, saturated at `u64::MAX`; when
`g · num` overflows `u128` it leaves `g` as it is. -/
theorem adjustedGasLimit_toNat (nodeConfig : Node) (g : Gas) :
    (adjustedGasLimit nodeConfig g).toNat =
      if g.toNat * nodeConfig.gasAdjustment.numerator < 2 ^ 128 then
        min (g.toNat * nodeConfig.gasAdjustment.numerator / nodeConfig.gasAdjustment.denominator)
          (2 ^ 64 - 1)
      else g.toNat := by
  have positive := nodeConfig.gasAdjustment.denominator_pos
  unfold adjustedGasLimit checkedMul
  split
  · simp only [Option.some_bind, checkedDiv, Nat.pos_iff_ne_zero.mp positive, if_false,
      Option.map_some', Option.getD_some, u64TryFrom]
    split
    · next fits => rw [Option.getD_some, UInt64.toNat_ofNat_of_lt fits]; omega
    · rw [Option.getD_none, u64Max_toNat]; omega
  · rfl

/-- A ratio of at most one never raises the gas. -/
theorem adjustedGasLimit_le (nodeConfig : Node) (g : Gas)
    (ratio : nodeConfig.gasAdjustment.numerator ≤ nodeConfig.gasAdjustment.denominator) :
    adjustedGasLimit nodeConfig g ≤ g := by
  have shrinks : g.toNat * nodeConfig.gasAdjustment.numerator /
      nodeConfig.gasAdjustment.denominator ≤ g.toNat :=
    Nat.div_le_of_le_mul (by rw [Nat.mul_comm]; exact Nat.mul_le_mul_right _ ratio)
  rw [gas_le_iff, adjustedGasLimit_toNat]
  split <;> omega

/-- A ratio of at least one never lowers the gas. -/
theorem le_adjustedGasLimit (nodeConfig : Node) (g : Gas)
    (ratio : nodeConfig.gasAdjustment.denominator ≤ nodeConfig.gasAdjustment.numerator) :
    g ≤ adjustedGasLimit nodeConfig g := by
  have grows : g.toNat ≤ g.toNat * nodeConfig.gasAdjustment.numerator /
      nodeConfig.gasAdjustment.denominator :=
    (Nat.le_div_iff_mul_le nodeConfig.gasAdjustment.denominator_pos).mpr
      (Nat.mul_le_mul_left _ ratio)
  have bounded : g.toNat < 2 ^ 64 := g.toNat_lt_size
  rw [gas_le_iff, adjustedGasLimit_toNat]
  split <;> omega

/-- A simulation that `simulate_tx` accepts used no more gas than the limit. -/
theorem simulateTx_gasUsed_le {signer : Signer} {config : Node} {gasLimit : Gas}
    {unsignedTx : ContractTx} {answer : Simulation} {gasInfo : GasInfo}
    (simulated : (simulateTx signer config gasLimit unsignedTx answer).2 = .ok gasInfo) :
    gasInfo.gasUsed ≤ gasLimit := by
  unfold simulateTx at simulated
  split at simulated
  · cases simulated
  · split at simulated
    · cases simulated
    · dsimp only at simulated
      split at simulated
      · cases simulated
      · cases simulated
      · split at simulated
        · cases simulated
        · next notAbove => cases simulated; exact UInt64.not_lt.mp notAbove

/-! ## The committed gas limit -/

/-- `commit_tx_with_gas_estimation` commits, if at all, one transaction, and exactly one once
the fee is calculated and the signing succeeds; its gas limit is the adjustment of
`tx_gas_limit`: the simulated gas, which is at most `gas_limit`, or the fallback gas limit
when the simulation failed. With a ratio of at most one the committed gas limit stays within
`gas_limit` after a successful simulation, and with a ratio of at least one it is never
below `tx_gas_limit`. -/
theorem commitTxWithGasEstimation_gasLimit (signer : Signer) (nodeConfig : Node)
    (gasLimit : Gas) (unsignedTx : ContractTx) (fallbackGasLimit : Gas)
    (simulation : Simulation) (commit : Commit) :
    let estimate := (simulateTx signer nodeConfig gasLimit unsignedTx simulation).2
    let g := txGasLimit estimate fallbackGasLimit
    let committed := committedGas (commitTxWithGasEstimation signer nodeConfig gasLimit
      unsignedTx fallbackGasLimit simulation commit).2.1
    committed.length ≤ 1 ∧
    (∀ fee, calculateFee nodeConfig (adjustedGasLimit nodeConfig g) = .ok fee →
      commit.signed = true → committed = [adjustedGasLimit nodeConfig g]) ∧
    (∀ gas ∈ committed, gas = adjustedGasLimit nodeConfig g ∧ gas.toNat =
      if g.toNat * nodeConfig.gasAdjustment.numerator < 2 ^ 128 then
        min (g.toNat * nodeConfig.gasAdjustment.numerator / nodeConfig.gasAdjustment.denominator)
          (2 ^ 64 - 1)
      else g.toNat) ∧
    (∀ gasInfo, estimate = .ok gasInfo → g = gasInfo.gasUsed ∧ gasInfo.gasUsed ≤ gasLimit) ∧
    (∀ e, estimate = .error e → g = fallbackGasLimit) ∧
    (nodeConfig.gasAdjustment.numerator ≤ nodeConfig.gasAdjustment.denominator →
      ∀ gasInfo, estimate = .ok gasInfo → ∀ gas ∈ committed, gas ≤ gasLimit) ∧
    (nodeConfig.gasAdjustment.denominator ≤ nodeConfig.gasAdjustment.numerator →
      ∀ gas ∈ committed, g ≤ gas) := by
  intro estimate g committed
  have sent : committed =
      match calculateFee nodeConfig (adjustedGasLimit nodeConfig g) with
      | .ok _ => if commit.signed then [adjustedGasLimit nodeConfig g] else []
      | .error _ => [] := by
    simp only [committed, commitTxWithGasEstimation, committedGas_append, simulateTx_committedGas,
      List.nil_append]
    exact commitTx_committedGas signer nodeConfig unsignedTx (adjustedGasLimit nodeConfig g) commit
  have shape : committed = [] ∨ committed = [adjustedGasLimit nodeConfig g] := by
    rw [sent]
    split
    · split <;> simp
    · simp
  have adjusted : ∀ gas ∈ committed, gas = adjustedGasLimit nodeConfig g := by
    rcases shape with h | h <;> simp [h]
  have formula := adjustedGasLimit_toNat nodeConfig g
  have simulated : ∀ gasInfo, estimate = .ok gasInfo → g = gasInfo.gasUsed := by
    intro gasInfo ok
    simp only [g, ok, txGasLimit]
  refine ⟨by rcases shape with h | h <;> simp [h],
    fun fee calculated signed => by rw [sent, calculated, if_pos signed],
    fun gas found => ⟨adjusted gas found, by rw [adjusted gas found, formula]⟩,
    fun gasInfo ok => ⟨simulated gasInfo ok, simulateTx_gasUsed_le ok⟩,
    fun e failed => by simp only [g, failed, txGasLimit], ?_, ?_⟩
  · intro ratio gasInfo ok gas found
    have used := simulateTx_gasUsed_le ok
    rw [← simulated gasInfo ok, gas_le_iff] at used
    rw [adjusted gas found]
    exact Nat.le_trans (adjustedGasLimit_le nodeConfig g ratio) used
  · intro ratio gas found
    rw [adjusted gas found]
    exact le_adjustedGasLimit nodeConfig g ratio

/-- With a gas-adjustment ratio of 3/2, a simulation that used the whole hard limit of 100
gets its transaction committed with gas limit 150; when the simulation fails, the fallback
of 50 is adjusted as well, to 75. -/
theorem adjusted_gas_exceeds_limit :
    let nodeConfig : Node :=
      ⟨⟨1, 1, by decide, by decide, by decide, by decide⟩,
        ⟨3, 2, by decide, by decide, by decide, by decide⟩, "unls", true⟩
    let committed (simulation : Simulation) :=
      committedGas (commitTxWithGasEstimation ⟨0⟩ nodeConfig 100 ⟨"oracle", []⟩ 50 simulation
        ⟨true, some ⟨⟨0, 150, 150⟩⟩⟩).2.1
    committed ⟨true, some (some ⟨100⟩)⟩ = [150] ∧ committed ⟨true, none⟩ = [75] := by
  decide

end OraclePriceFeeder.ChainComms
