import OraclePriceFeeder.AlarmsDispatcher.Dispatch

/-!
# The drain loop of `dispatch_alarm`

`dispatch_alarm` queries the contract's status and, while alarms remain, commits
`DispatchAlarms { max_alarms }`; it goes round again, with no sleep, exactly when the commit
dispatched the full `max_alarms`. `Drained` describes the passes that went round again and
`Returned` the one that returned, and `dispatchAlarm_drain_loop` says every run of
`dispatch_alarm` is the one followed by the other, one pass per round of answers, and that it
stops short of returning only where the answers ran out.

Over the whole service, whatever the answers:
1. `dispatchAlarms_polls`: every run of `dispatch_alarms` is `Polled`: each pass of its loop
   dispatches the market price oracle over the tick's rounds for it, then the time alarms
   over theirs, then sleeps; it stops only on the first error, tagged with the contract that
   raised it, or where the answers ran out.
2. `dispatchAlarms_sequenceNumber`: the signer's sequence number is the initial one plus the
   calls to `broadcast_commit` that returned.
-/

namespace OraclePriceFeeder.AlarmsDispatcher

/-- The events are those of `commit_tx(.., address, max_count)`. -/
def TxEvents (address : String) (maxCount : UInt32) (events : List Event) : Prop :=
  ∀ e ∈ events, e.txOf address maxCount

/-- Passes of `dispatch_alarm`'s loop that went round again: each queried `address`, found
alarms remaining, and committed a transaction that dispatched exactly `max_alarms`. -/
inductive Drained (address : String) (maxAlarms : UInt32) : List Event → Prop
  | nil : Drained address maxAlarms []
  | round {txs rest : List Event} (txEvents : TxEvents address maxAlarms txs)
      (later : Drained address maxAlarms rest) :
      Drained address maxAlarms (.queried address (.ok ⟨true⟩) :: txs ++
        .committed address maxAlarms (.ok ⟨maxAlarms⟩) :: rest)

/-- The pass that returned `result`: `Ok` after a query that found nothing remaining or a
commit that dispatched other than `max_alarms`; the query's error; or the commit's error. -/
def Returned (address : String) (maxAlarms : UInt32) (events : List Event) :
    Except Error.DispatchAlarm Unit → Prop
  | .ok () => events = [.queried address (.ok ⟨false⟩)] ∨
      ∃ txs response, events = .queried address (.ok ⟨true⟩) :: txs ++
        [.committed address maxAlarms (.ok response)] ∧ TxEvents address maxAlarms txs ∧
        response.dispatchedAlarms ≠ maxAlarms
  | .error (.statusQuery e) => events = [.queried address (.error e)]
  | .error (.txCommit e) => ∃ txs, events = .queried address (.ok ⟨true⟩) :: txs ++
      [.committed address maxAlarms (.error e)] ∧ TxEvents address maxAlarms txs

/-- What the status queries among `events` got, in order. -/
def queriedStatuses (events : List Event) : List (Except Error.StatusQuery StatusResponse) :=
  events.filterMap fun
    | .queried _ status => some status
    | _ => none

/-- A run of `dispatch_alarm` on `contract` over `rounds`, with what it returned (`none`: it
still runs): passes that went round again, then, once it returned, the one that returned; one
pass per round it used, in order, so that it still runs only once it used every round. -/
def Dispatched (contract : Contract) (rounds : List Round) (events : List Event)
    (result : Option (Except Error.DispatchAlarm Unit)) : Prop :=
  (∃ drained final, events = drained ++ final ∧
    Drained contract.address contract.maxAlarmsGroup drained ∧
    match result with
    | none => final = []
    | some result => Returned contract.address contract.maxAlarmsGroup final result) ∧
  ∃ used rest, rounds = used ++ rest ∧ queriedStatuses events = used.map Round.status ∧
    (result = none → rest = [])

/-- The runs of `dispatch_alarms` under `config` over `ticks`, with the error they returned
(`none` while they run): passes of its loop, one per tick, that each dispatched the market
price oracle over the tick's rounds for it, then the time alarms over theirs, both to `Ok`,
and slept `poll_period`; then the pass that returned the first error, under the constructor
of the contract that raised it, or the pass whose rounds ran out, or nothing once the ticks
ran out. -/
inductive Polled (config : Config) : List Tick → List Event → Option Error.DispatchAlarms → Prop
  | nil : Polled config [] [] none
  | priceRunning {tick : Tick} {ticks : List Tick} {events : List Event}
      (price : Dispatched config.marketPriceOracle tick.marketPrice events none) :
      Polled config (tick :: ticks) events none
  | priceFailed {tick : Tick} {ticks : List Tick} {events : List Event} {e : Error.DispatchAlarm}
      (price : Dispatched config.marketPriceOracle tick.marketPrice events (some (.error e))) :
      Polled config (tick :: ticks) events (some (.dispatchPriceAlarm e))
  | timeRunning {tick : Tick} {ticks : List Tick} {priceEvents timeEvents : List Event}
      (price : Dispatched config.marketPriceOracle tick.marketPrice priceEvents (some (.ok ())))
      (time : Dispatched config.timeAlarms tick.time timeEvents none) :
      Polled config (tick :: ticks) (priceEvents ++ timeEvents) none
  | timeFailed {tick : Tick} {ticks : List Tick} {priceEvents timeEvents : List Event}
      {e : Error.DispatchAlarm}
      (price : Dispatched config.marketPriceOracle tick.marketPrice priceEvents (some (.ok ())))
      (time : Dispatched config.timeAlarms tick.time timeEvents (some (.error e))) :
      Polled config (tick :: ticks) (priceEvents ++ timeEvents) (some (.dispatchTimeAlarm e))
  | next {tick : Tick} {ticks : List Tick} {priceEvents timeEvents rest : List Event}
      {result : Option Error.DispatchAlarms}
      (price : Dispatched config.marketPriceOracle tick.marketPrice priceEvents (some (.ok ())))
      (time : Dispatched config.timeAlarms tick.time timeEvents (some (.ok ())))
      (later : Polled config ticks rest result) :
      Polled config (tick :: ticks)
        (priceEvents ++ timeEvents ++ .slept ⟨config.pollPeriodSeconds⟩ :: rest) result

/-- What the calls to `commit_tx` among `events` returned, in order. -/
def commitResults (events : List Event) : List (Except Error.TxCommit DispatchResponse) :=
  events.filterMap fun
    | .committed _ _ result => some result
    | _ => none

/-- A `sleep`. -/
@[simp] def Event.isSlept : Event → Bool
  | .slept _ => true
  | _ => false

open DispatchLemmas

namespace DrainLemmas

@[simp] theorem commitResults_nil : commitResults [] = [] := rfl

@[simp] theorem commitResults_append (xs ys : List Event) :
    commitResults (xs ++ ys) = commitResults xs ++ commitResults ys :=
  List.filterMap_append _ _ _

@[simp] theorem commitResults_queried (address : String)
    (status : Except Error.StatusQuery StatusResponse) (events : List Event) :
    commitResults (.queried address status :: events) = commitResults events := rfl

@[simp] theorem commitResults_committed (address : String) (maxCount : UInt32)
    (result : Except Error.TxCommit DispatchResponse) (events : List Event) :
    commitResults (.committed address maxCount result :: events) =
      result :: commitResults events := rfl

theorem commitResults_of_txEvents {address : String} {maxCount : UInt32} {txs : List Event}
    (txEvents : TxEvents address maxCount txs) : commitResults txs = [] := by
  refine List.filterMap_eq_nil_iff.mpr fun e found => ?_
  have := txEvents e found
  cases e <;> simp_all

@[simp] theorem queriedStatuses_nil : queriedStatuses [] = [] := rfl

@[simp] theorem queriedStatuses_append (xs ys : List Event) :
    queriedStatuses (xs ++ ys) = queriedStatuses xs ++ queriedStatuses ys :=
  List.filterMap_append _ _ _

@[simp] theorem queriedStatuses_queried (address : String)
    (status : Except Error.StatusQuery StatusResponse) (events : List Event) :
    queriedStatuses (.queried address status :: events) = status :: queriedStatuses events := rfl

@[simp] theorem queriedStatuses_committed (address : String) (maxCount : UInt32)
    (result : Except Error.TxCommit DispatchResponse) (events : List Event) :
    queriedStatuses (.committed address maxCount result :: events) = queriedStatuses events :=
  rfl

theorem queriedStatuses_of_txEvents {address : String} {maxCount : UInt32} {txs : List Event}
    (txEvents : TxEvents address maxCount txs) : queriedStatuses txs = [] := by
  refine List.filterMap_eq_nil_iff.mpr fun e found => ?_
  have := txEvents e found
  cases e <;> simp_all

theorem Drained.commitResults {address : String} {maxAlarms : UInt32} {events : List Event}
    (drained : Drained address maxAlarms events) :
    ∀ r ∈ AlarmsDispatcher.commitResults events, r = .ok ⟨maxAlarms⟩ := by
  induction drained with
  | nil => simp
  | round txEvents _ ih => simpa [commitResults_of_txEvents txEvents] using ih

theorem uint64_ofNat_add (a b : Nat) : UInt64.ofNat (a + b) = UInt64.ofNat a + UInt64.ofNat b :=
  UInt64.eq_of_toBitVec_eq (BitVec.ofNat_add a b)

variable (config : Node) (address : String) (maxAlarms : UInt32)

theorem dispatchAlarm_shape (signer : Signer) (rounds : List Round) :
    ∃ drained final, (dispatchAlarm signer config address maxAlarms rounds).events =
      drained ++ final ∧ Drained address maxAlarms drained ∧
      match (dispatchAlarm signer config address maxAlarms rounds).result with
      | none => final = []
      | some result => Returned address maxAlarms final result := by
  induction rounds generalizing signer with
  | nil => exact ⟨[], [], rfl, .nil, rfl⟩
  | cons round rounds ih =>
    obtain ⟨status, answers⟩ := round
    have txEvents := commitTx_txOf signer config address maxAlarms answers
    cases status with
    | error e => exact ⟨[], _, rfl, .nil, rfl⟩
    | ok response =>
      obtain ⟨remaining⟩ := response
      cases remaining
      · exact ⟨[], _, rfl, .nil, .inl rfl⟩
      · simp only [dispatchAlarm, if_true]
        cases result : (commitTx signer config address maxAlarms answers).2.2 with
        | error e => exact ⟨[], _, rfl, .nil, _, rfl, txEvents⟩
        | ok dispatched =>
          by_cases full : dispatched.dispatchedAlarms = maxAlarms
          · obtain ⟨drained, final, events, later, ended⟩ :=
              ih (commitTx signer config address maxAlarms answers).1
            have same : dispatched = ⟨maxAlarms⟩ := by rw [← full]
            subst same
            refine ⟨.queried address (.ok ⟨true⟩) :: (commitTx signer config address maxAlarms
              answers).2.1 ++ .committed address maxAlarms (.ok ⟨maxAlarms⟩) :: drained, final,
              by simp [events], .round txEvents later, by simpa using ended⟩
          · exact ⟨[], .queried address (.ok ⟨true⟩) :: (commitTx signer config address maxAlarms
              answers).2.1 ++ [.committed address maxAlarms (.ok dispatched)], by simp [full], .nil,
              by simpa [full] using .inr ⟨_, _, rfl, txEvents, full⟩⟩

theorem isSlept_of_txOf {e : Event} (tx : e.txOf address maxAlarms) : e.isSlept = false := by
  cases e <;> simp_all

theorem Drained.not_slept {events : List Event} (drained : Drained address maxAlarms events) :
    ∀ e ∈ events, e.isSlept = false := by
  induction drained with
  | nil => simp
  | round txEvents _ ih =>
    simp only [List.cons_append, List.forall_mem_cons, List.forall_mem_append]
    exact ⟨rfl, fun e found => isSlept_of_txOf address maxAlarms (txEvents e found), rfl, ih⟩

theorem Returned.not_slept {events : List Event} {result : Except Error.DispatchAlarm Unit}
    (ended : Returned address maxAlarms events result) : ∀ e ∈ events, e.isSlept = false := by
  have txs : ∀ {txs : List Event} (response : Except Error.TxCommit DispatchResponse),
      TxEvents address maxAlarms txs → ∀ e ∈ .queried address (.ok ⟨true⟩) :: txs ++
        [.committed address maxAlarms response], e.isSlept = false := fun _ txEvents => by
    simp only [List.cons_append, List.forall_mem_cons, List.forall_mem_append]
    exact ⟨rfl, fun e found => isSlept_of_txOf address maxAlarms (txEvents e found), by simp⟩
  cases result with
  | error e =>
    cases e with
    | statusQuery e =>
      simp only [Returned] at ended
      simp [ended]
    | txCommit e =>
      obtain ⟨_, rfl, txEvents⟩ := ended
      exact txs _ txEvents
  | ok u =>
    rcases ended with rfl | ⟨_, _, rfl, txEvents, -⟩
    · simp
    · exact txs _ txEvents

theorem dispatchAlarm_not_slept (signer : Signer) (rounds : List Round) :
    ∀ e ∈ (dispatchAlarm signer config address maxAlarms rounds).events, e.isSlept = false := by
  obtain ⟨drained, final, events, full, ended⟩ := dispatchAlarm_shape config address maxAlarms
    signer rounds
  rw [events, List.forall_mem_append]
  refine ⟨Drained.not_slept address maxAlarms full, ?_⟩
  revert ended
  cases (dispatchAlarm signer config address maxAlarms rounds).result with
  | none => rintro rfl; simp
  | some result => exact Returned.not_slept address maxAlarms

theorem dispatchAlarm_sequenceNumber (signer : Signer) (rounds : List Round) :
    (dispatchAlarm signer config address maxAlarms rounds).signer.sequenceNumber =
      signer.sequenceNumber +
        UInt64.ofNat (returnedBroadcasts (dispatchAlarm signer config address maxAlarms rounds).events) := by
  induction rounds generalizing signer with
  | nil => simp [dispatchAlarm]
  | cons round rounds ih =>
    have committed := commitTx_sequenceNumber signer config address maxAlarms round.commit
    simp only [dispatchAlarm]
    split
    · simp
    · split
      · split
        · simpa [returnedBroadcasts] using committed
        · split
          · simp only [ih, committed, returnedBroadcasts_append, returnedBroadcasts_cons,
              uint64_ofNat_add, add_assoc]
            simp
          · simpa [returnedBroadcasts] using committed
      · simp

/-- `dispatch_alarm` uses the rounds in order, one per pass, and leaves the rest over: the
statuses it queried are those of the rounds it used, and it stops short of returning only
once it used them all. -/
theorem dispatchAlarm_uses (signer : Signer) (rounds : List Round) :
    (∃ used, rounds = used ++ (dispatchAlarm signer config address maxAlarms rounds).rest ∧
      queriedStatuses (dispatchAlarm signer config address maxAlarms rounds).events =
        used.map Round.status) ∧
    ((dispatchAlarm signer config address maxAlarms rounds).result = none →
      (dispatchAlarm signer config address maxAlarms rounds).rest = []) := by
  induction rounds generalizing signer with
  | nil => exact ⟨⟨[], rfl, rfl⟩, fun _ => rfl⟩
  | cons round rounds ih =>
    have txs := queriedStatuses_of_txEvents
      (commitTx_txOf signer config address maxAlarms round.commit)
    simp only [dispatchAlarm]
    split
    · exact ⟨⟨[round], rfl, rfl⟩, nofun⟩
    · split
      · split
        · exact ⟨⟨[round], rfl, by simp [txs]⟩, nofun⟩
        · split
          · obtain ⟨⟨used, split, statuses⟩, ran⟩ :=
              ih (commitTx signer config address maxAlarms round.commit).1
            exact ⟨⟨round :: used, congrArg (List.cons round) split, by simp [txs, statuses]⟩, ran⟩
          · exact ⟨⟨[round], rfl, by simp [txs]⟩, nofun⟩
      · exact ⟨⟨[round], rfl, rfl⟩, nofun⟩

/-- A run of `dispatch_alarm` on a contract of the configuration is `Dispatched` over its
rounds. -/
theorem dispatchAlarm_dispatched (node : Node) (signer : Signer) (contract : Contract)
    (rounds : List Round) :
    Dispatched contract rounds
      (dispatchAlarm signer node contract.address contract.maxAlarmsGroup rounds).events
      (dispatchAlarm signer node contract.address contract.maxAlarmsGroup rounds).result :=
  have ⟨⟨used, split, statuses⟩, ran⟩ :=
    dispatchAlarm_uses node contract.address contract.maxAlarmsGroup signer rounds
  ⟨dispatchAlarm_shape node contract.address contract.maxAlarmsGroup signer rounds,
    used, _, split, statuses, ran⟩

end DrainLemmas

open DrainLemmas

/-! ## One contract -/

/-- Over every run of `dispatch_alarms`, the signer's sequence number is the initial one plus
the calls to `broadcast_commit` that returned: `tx_confirmed` follows each of them and
nothing else. -/
theorem dispatchAlarms_sequenceNumber (signer : Signer) (config : Config) (ticks : List Tick) :
    (dispatchAlarms signer config ticks).signer.sequenceNumber =
      signer.sequenceNumber +
        UInt64.ofNat (returnedBroadcasts (dispatchAlarms signer config ticks).events) := by
  induction ticks generalizing signer with
  | nil => simp [dispatchAlarms]
  | cons tick ticks ih =>
    have price := dispatchAlarm_sequenceNumber config.node config.marketPriceOracle.address
      config.marketPriceOracle.maxAlarmsGroup signer tick.marketPrice
    simp only [dispatchAlarms]
    split
    · exact price
    · exact price
    · have time := dispatchAlarm_sequenceNumber config.node config.timeAlarms.address
        config.timeAlarms.maxAlarmsGroup
        (dispatchAlarm signer config.node config.marketPriceOracle.address
          config.marketPriceOracle.maxAlarmsGroup tick.marketPrice).signer tick.time
      split
      · simp only [time, price, returnedBroadcasts_append, uint64_ofNat_add, add_assoc]
      · simp only [time, price, returnedBroadcasts_append, uint64_ofNat_add, add_assoc]
      · simp only [ih, time, price, returnedBroadcasts_append, returnedBroadcasts_cons,
          uint64_ofNat_add, add_assoc]
        simp

/-- Every run of `dispatch_alarms`, whatever the answers: each pass of its loop takes the
next tick, dispatches the market price oracle over the tick's rounds for it, then the time
alarms over theirs, and sleeps `poll_period` only after both returned `Ok`; the run returns
only the first error of a `dispatch_alarm`, as `DispatchPriceAlarm` when the market price
oracle's raised it and as `DispatchTimeAlarm` when the time alarms' did, and the time alarms
are not polled in a pass whose price dispatch failed; and it stops short of an error only
where the answers ran out: after the last tick, or in a tick whose rounds for the contract it
was polling it used up. -/
theorem dispatchAlarms_polls (signer : Signer) (config : Config) (ticks : List Tick) :
    Polled config ticks (dispatchAlarms signer config ticks).events
      (dispatchAlarms signer config ticks).result := by
  induction ticks generalizing signer with
  | nil => exact .nil
  | cons tick ticks ih =>
    have price := dispatchAlarm_dispatched config.node signer config.marketPriceOracle
      tick.marketPrice
    simp only [dispatchAlarms]
    split
    next found =>
      rw [found] at price
      exact .priceRunning price
    next e found =>
      rw [found] at price
      exact .priceFailed price
    next found =>
      rw [found] at price
      have time := dispatchAlarm_dispatched config.node
        (dispatchAlarm signer config.node config.marketPriceOracle.address
          config.marketPriceOracle.maxAlarmsGroup tick.marketPrice).signer config.timeAlarms
        tick.time
      split
      next found =>
        rw [found] at time
        exact .timeRunning price time
      next e found =>
        rw [found] at time
        exact .timeFailed price time
      next found =>
        rw [found] at time
        exact .next price time (ih _)

end OraclePriceFeeder.AlarmsDispatcher
