import Mathlib.Data.UInt

/-!
# The alarms dispatcher

`alarms-dispatcher/src/main.rs` polls two contracts, the market price oracle and the time
alarms, forever. For each, `dispatch_alarm` asks the contract whether alarms remain and, while
they do, commits a `DispatchAlarms { max_count }` transaction; a transaction that dispatched
the full `max_count` is followed at once by another query. After both contracts,
`dispatch_alarms` sleeps for the poll period.

The node's answers are the world's: one `Round` per pass of `dispatch_alarm`'s loop (the
status query's result and the answers to the `commit_tx` it may make), one list of rounds per
contract and per pass of `dispatch_alarms`'s loop. A run on a prefix of the answers is the
run stopped there. `signer::Signer` is not under src/: it keeps its sequence number, which
signing stamps and `tx_confirmed` advances (modelled from the spec, §4.2). The fee amount of
`config.fee()` is sent as it is and left out; serializing the two fixed messages cannot fail
and is left out too.

The loops' results, `dispatchAlarm_drain_loop`, `dispatchAlarms_polls` and
`dispatchAlarms_sequenceNumber`, are in `AlarmsDispatcher.Drain`; what the dispatcher signs
is in `AlarmsDispatcher.Signing`.
-/

namespace OraclePriceFeeder.AlarmsDispatcher

/-- A gas amount, `u64`. -/
abbrev Gas := UInt64

/-- The `Duration` given to `sleep`, in seconds. -/
structure Duration where
  seconds : Nat
  deriving DecidableEq, Repr

/-- `StatusResponse`, through `remaining_for_dispatch()`. -/
structure StatusResponse where
  remainingForDispatch : Bool
  deriving DecidableEq, Repr

/-- `DispatchResponse`, through `dispatched_alarms()`. -/
structure DispatchResponse where
  dispatchedAlarms : UInt32
  deriving DecidableEq, Repr

/-- `ExecuteMsg::DispatchAlarms { max_count }`. -/
structure DispatchAlarms where
  maxCount : UInt32
  deriving DecidableEq, Repr

/-- The `ContractTx` of `commit_tx`: one `DispatchAlarms` message to the contract, with no
funds. -/
structure ContractTx where
  contract : String
  message : DispatchAlarms
  deriving DecidableEq, Repr

/-- A signed transaction: the contract transaction, the gas limit of its fee, and the
sequence number it was signed at. -/
structure RawTx where
  tx : ContractTx
  gasLimit : Gas
  sequenceNumber : UInt64
  deriving DecidableEq, Repr

/-- Modelled from the spec: the sequence number of `signer::Signer`. -/
structure Signer where
  sequenceNumber : UInt64
  deriving DecidableEq, Repr

/-- Modelled from the spec: `tx_confirmed` moves the signer to the next sequence number. -/
def Signer.txConfirmed (signer : Signer) : Signer :=
  ⟨signer.sequenceNumber + 1⟩

/-- The part of `configuration::Node` that `commit_tx` reads. -/
structure Node where
  gasLimitPerAlarm : Gas
  deriving DecidableEq, Repr

/-- A contract of the configuration: its address and `max_alarms_group`. -/
structure Contract where
  address : String
  maxAlarmsGroup : UInt32
  deriving DecidableEq, Repr

/-- The part of `Config` that `dispatch_alarms` reads. -/
structure Config where
  node : Node
  pollPeriodSeconds : Nat
  marketPriceOracle : Contract
  timeAlarms : Contract
  deriving DecidableEq, Repr

namespace Error

/-- `error::StatusQuery`: the gRPC query failed, or its answer did not decode. -/
inductive StatusQuery
  | grpc
  | deserialize
  deriving DecidableEq, Repr

/-- `error::TxCommit`, one constructor per way `commit_tx` fails. -/
inductive TxCommit
  | commit
  | grpc
  | missingSimulationGasInto
  | broadcast
  | deserialize
  deriving DecidableEq, Repr

/-- `error::DispatchAlarm`. -/
inductive DispatchAlarm
  | statusQuery (error : StatusQuery)
  | txCommit (error : TxCommit)
  deriving DecidableEq, Repr

/-- `error::DispatchAlarms`: the error of the contract whose `dispatch_alarm` failed. -/
inductive DispatchAlarms
  | dispatchPriceAlarm (error : DispatchAlarm)
  | dispatchTimeAlarm (error : DispatchAlarm)
  deriving DecidableEq, Repr

end Error

/-- The world's answers to one `commit_tx`. -/
structure CommitAnswers where
  /-- Committing and encoding the simulation transaction succeed. -/
  simulationSigned : Bool
  /-- The node's `simulate` answer: `none` for a gRPC error, `some none` for a reply with no
  `gas_info`, else the `gas_used`. -/
  simulation : Option (Option Gas)
  /-- Committing the transaction succeeds. -/
  signed : Bool
  /-- `broadcast_commit`'s answer: `none` for an error, `some none` when `deliver_tx.data`
  does not decode. -/
  broadcast : Option (Option DispatchResponse)
  deriving DecidableEq, Repr

/-- The world's answers to one pass of `dispatch_alarm`'s loop: the status query's result,
and the answers to the `commit_tx` the pass makes if alarms remain. -/
structure Round where
  status : Except Error.StatusQuery StatusResponse
  commit : CommitAnswers

/-- What a run does, in order. -/
inductive Event
  /-- `query_status` asked `address` and got `status`. -/
  | queried (address : String) (status : Except Error.StatusQuery StatusResponse)
  /-- A transaction went to `simulate`. -/
  | simulated (tx : RawTx)
  /-- A transaction went to `broadcast_commit`; `returned` is whether that call returned. -/
  | broadcast (tx : RawTx) (returned : Bool)
  /-- `commit_tx(.., address, max_count)` returned `result`. -/
  | committed (address : String) (maxCount : UInt32)
      (result : Except Error.TxCommit DispatchResponse)
  /-- `sleep(poll_period)`. -/
  | slept (duration : Duration)

/-! ## `commit_tx` -/

/-- The simulation's gas limit: `gas_limit_per_alarm().saturating_mul(max_count.into())`. -/
def simulationGasLimit (config : Node) (maxCount : UInt32) : Gas :=
  UInt64.ofNat (min (config.gasLimitPerAlarm.toNat * maxCount.toNat) (2 ^ 64 - 1))

/-- The committed fee's gas limit:
`gas_used.checked_mul(11).and_then(|result| result.checked_div(10)).unwrap_or(gas_used)`. -/
def feeGasLimit (gasUsed : Gas) : Gas :=
  if gasUsed.toNat * 11 < 2 ^ 64 then UInt64.ofNat (gasUsed.toNat * 11 / 10) else gasUsed

/-- `simulation_gas_info`: sign the transaction under the simulation's gas limit and
simulate it; the result is the simulation's `gas_used`. -/
def simulationGasInfo (signer : Signer) (config : Node) (maxCount : UInt32)
    (unsignedTx : ContractTx) (answers : CommitAnswers) : List Event × Except Error.TxCommit Gas :=
  if answers.simulationSigned then
    ([.simulated ⟨unsignedTx, simulationGasLimit config maxCount, signer.sequenceNumber⟩],
      match answers.simulation with
      | none => .error .grpc
      | some none => .error .missingSimulationGasInto
      | some (some gasUsed) => .ok gasUsed)
  else ([], .error .commit)

/-- `commit_tx`: simulate, sign with the adjusted gas, broadcast, confirm the sequence number
once the broadcast returned, and decode the dispatch response. -/
def commitTx (signer : Signer) (config : Node) (address : String) (maxCount : UInt32)
    (answers : CommitAnswers) : Signer × List Event × Except Error.TxCommit DispatchResponse :=
  let unsignedTx : ContractTx := ⟨address, ⟨maxCount⟩⟩
  let simulated := simulationGasInfo signer config maxCount unsignedTx answers
  match simulated.2 with
  | .error e => (signer, simulated.1, .error e)
  | .ok gasUsed =>
    if answers.signed then
      let signedTx : RawTx := ⟨unsignedTx, feeGasLimit gasUsed, signer.sequenceNumber⟩
      match answers.broadcast with
      | none => (signer, simulated.1 ++ [.broadcast signedTx false], .error .broadcast)
      | some data =>
        (signer.txConfirmed, simulated.1 ++ [.broadcast signedTx true],
          match data with
          | none => .error .deserialize
          | some response => .ok response)
    else (signer, simulated.1, .error .commit)

/-- An event of `commit_tx(.., address, max_count)`: a transaction of the
`DispatchAlarms { max_count }` message to `address`, simulated or broadcast. -/
@[simp] def Event.txOf (address : String) (maxCount : UInt32) : Event → Prop
  | .simulated tx => tx.tx = ⟨address, ⟨maxCount⟩⟩
  | .broadcast tx _ => tx.tx = ⟨address, ⟨maxCount⟩⟩
  | _ => False

/-- The calls to `broadcast_commit` among `events` that returned. -/
@[simp] def Event.returned : Event → Bool
  | .broadcast _ returned => returned
  | _ => false

/-- How many calls to `broadcast_commit` among `events` returned. -/
def returnedBroadcasts (events : List Event) : Nat :=
  events.countP Event.returned

namespace DispatchLemmas

@[simp] theorem returnedBroadcasts_nil : returnedBroadcasts [] = 0 := rfl

@[simp] theorem returnedBroadcasts_cons (e : Event) (events : List Event) :
    returnedBroadcasts (e :: events) = returnedBroadcasts events + if e.returned then 1 else 0 := by
  simp only [returnedBroadcasts, List.countP_cons]

@[simp] theorem returnedBroadcasts_append (xs ys : List Event) :
    returnedBroadcasts (xs ++ ys) = returnedBroadcasts xs + returnedBroadcasts ys :=
  List.countP_append _ _ _

variable (signer : Signer) (config : Node) (address : String) (maxCount : UInt32)
  (answers : CommitAnswers)

/-- Everything `commit_tx` can do: fail to sign the simulation; fail in the simulation; or
get the simulated gas and then fail to sign, fail to broadcast, or broadcast, confirm the
sequence number and decode (or not) the response. -/
theorem commitTx_cases :
    let unsignedTx : ContractTx := ⟨address, ⟨maxCount⟩⟩
    let simulationTx : RawTx :=
      ⟨unsignedTx, simulationGasLimit config maxCount, signer.sequenceNumber⟩
    commitTx signer config address maxCount answers = (signer, [], .error .commit) ∨
    (∃ e, commitTx signer config address maxCount answers =
      (signer, [.simulated simulationTx], .error e)) ∨
    ∃ gasUsed, answers.simulation = some (some gasUsed) ∧
      let signedTx : RawTx := ⟨unsignedTx, feeGasLimit gasUsed, signer.sequenceNumber⟩
      (commitTx signer config address maxCount answers =
          (signer, [.simulated simulationTx], .error .commit) ∨
        commitTx signer config address maxCount answers =
          (signer, [.simulated simulationTx, .broadcast signedTx false], .error .broadcast) ∨
        ∃ result, commitTx signer config address maxCount answers =
          (signer.txConfirmed, [.simulated simulationTx, .broadcast signedTx true], result)) := by
  obtain ⟨simulationSigned, simulation, signed, broadcast⟩ := answers
  cases simulationSigned
  · exact .inl rfl
  · rcases simulation with _ | _ | gasUsed
    · exact .inr (.inl ⟨_, rfl⟩)
    · exact .inr (.inl ⟨_, rfl⟩)
    · refine .inr (.inr ⟨gasUsed, rfl, ?_⟩)
      cases signed
      · exact .inl rfl
      · rcases broadcast with _ | data
        · exact .inr (.inl rfl)
        · exact .inr (.inr ⟨_, rfl⟩)

theorem commitTx_txOf : ∀ e ∈ (commitTx signer config address maxCount answers).2.1,
    e.txOf address maxCount := by
  rcases commitTx_cases signer config address maxCount answers with
    committed | ⟨e, committed⟩ | ⟨gasUsed, -, committed | committed | ⟨result, committed⟩⟩ <;>
  simp [committed]

theorem commitTx_sequenceNumber :
    (commitTx signer config address maxCount answers).1.sequenceNumber =
      signer.sequenceNumber +
        UInt64.ofNat (returnedBroadcasts (commitTx signer config address maxCount answers).2.1) := by
  rcases commitTx_cases signer config address maxCount answers with
    committed | ⟨e, committed⟩ | ⟨gasUsed, -, committed | committed | ⟨result, committed⟩⟩ <;>
  simp [committed, Signer.txConfirmed]

end DispatchLemmas

/-! ## `dispatch_alarm` and `dispatch_alarms` -/

/-- Where `dispatch_alarm` got to: the signer, the events, the result once it returned
(`none`: the answers ran out first), and the rounds it did not use. -/
structure Progress where
  signer : Signer
  events : List Event
  result : Option (Except Error.DispatchAlarm Unit)
  rest : List Round

/-- `dispatch_alarm(signer, .., address, max_alarms, ..)`. -/
def dispatchAlarm (signer : Signer) (config : Node) (address : String) (maxAlarms : UInt32) :
    List Round → Progress
  | [] => ⟨signer, [], none, []⟩
  | round :: rounds =>
    match round.status with
    | .error e => ⟨signer, [.queried address round.status], some (.error (.statusQuery e)), rounds⟩
    | .ok response =>
      if response.remainingForDispatch then
        let committed := commitTx signer config address maxAlarms round.commit
        let events := .queried address round.status :: committed.2.1 ++
          [.committed address maxAlarms committed.2.2]
        match committed.2.2 with
        | .error e => ⟨committed.1, events, some (.error (.txCommit e)), rounds⟩
        | .ok dispatched =>
          if dispatched.dispatchedAlarms = maxAlarms then
            let p := dispatchAlarm committed.1 config address maxAlarms rounds
            { p with events := events ++ p.events }
          else ⟨committed.1, events, some (.ok ()), rounds⟩
      else ⟨signer, [.queried address round.status], some (.ok ()), rounds⟩

/-- The world's answers to one pass of `dispatch_alarms`'s loop: the rounds of the market
price oracle's `dispatch_alarm`, then those of the time alarms'. -/
structure Tick where
  marketPrice : List Round
  time : List Round

/-- A run of `dispatch_alarms`: the signer, the events, and the error it returned (its loop
is left only through `?`), or `none` while it runs. -/
structure Run where
  signer : Signer
  events : List Event
  result : Option Error.DispatchAlarms

/-- `dispatch_alarms`. -/
def dispatchAlarms (signer : Signer) (config : Config) : List Tick → Run
  | [] => ⟨signer, [], none⟩
  | tick :: ticks =>
    let price := dispatchAlarm signer config.node config.marketPriceOracle.address
      config.marketPriceOracle.maxAlarmsGroup tick.marketPrice
    match price.result with
    | none => ⟨price.signer, price.events, none⟩
    | some (.error e) => ⟨price.signer, price.events, some (.dispatchPriceAlarm e)⟩
    | some (.ok ()) =>
      let time := dispatchAlarm price.signer config.node config.timeAlarms.address
        config.timeAlarms.maxAlarmsGroup tick.time
      match time.result with
      | none => ⟨time.signer, price.events ++ time.events, none⟩
      | some (.error e) => ⟨time.signer, price.events ++ time.events, some (.dispatchTimeAlarm e)⟩
      | some (.ok ()) =>
        let r := dispatchAlarms time.signer config ticks
        ⟨r.signer, price.events ++ time.events ++ .slept ⟨config.pollPeriodSeconds⟩ :: r.events,
          r.result⟩

end OraclePriceFeeder.AlarmsDispatcher
