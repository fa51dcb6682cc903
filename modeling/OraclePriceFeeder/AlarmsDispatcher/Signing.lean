import OraclePriceFeeder.AlarmsDispatcher.Drain

/-!
# What the alarms dispatcher signs

`commit_tx` signs two transactions at the signer's sequence number, the simulation's and the
one it broadcasts, and `tx_confirmed` moves the signer on once `broadcast_commit` returned,
whatever the code the transaction got. Over every run of `dispatch_alarms`:

1. `dispatchAlarms_signedTx_sequenceNumber`: every transaction is signed at the initial
   sequence number plus the calls to `broadcast_commit` that returned before it.
2. `dispatchAlarms_returned_sequenceNumbers`: the transactions whose `broadcast_commit`
   returned carry the initial number, the one after it, and so on, one number each; a call
   that failed leaves its number to the next transaction.

Both come from `Stamped`, which says the first of these of a list of events and composes over
`++` as the two loops build their runs (`commitTx_stamped`, `dispatchAlarm_stamped`,
`dispatchAlarms_stamped`).
-/

namespace OraclePriceFeeder.AlarmsDispatcher

/-- The transaction an event carries: the one simulated, or the one broadcast. -/
@[simp] def Event.signedTx : Event → Option RawTx
  | .simulated tx => some tx
  | .broadcast tx _ => some tx
  | _ => none

/-- The transactions among `events` whose `broadcast_commit` returned, in order. -/
def returnedTxs (events : List Event) : List RawTx :=
  events.filterMap fun
    | .broadcast tx true => some tx
    | _ => none

/-- Every transaction `events` sign carries `n` plus the calls to `broadcast_commit` among
`events` that returned before it. -/
def Stamped : UInt64 → List Event → Prop
  | _, [] => True
  | n, e :: events =>
    (∀ tx ∈ e.signedTx, tx.sequenceNumber = n) ∧
      Stamped (if e.returned then n + 1 else n) events

instance Stamped.decidable : ∀ (n : UInt64) (events : List Event),
    Decidable (Stamped n events)
  | _, [] => inferInstanceAs (Decidable True)
  | n, e :: events =>
    have := Stamped.decidable (if e.returned then n + 1 else n) events
    inferInstanceAs (Decidable (_ ∧ _))

open DispatchLemmas DrainLemmas

namespace SigningLemmas

@[simp] theorem stamped_nil (n : UInt64) : Stamped n [] ↔ True := Iff.rfl

@[simp] theorem stamped_cons (n : UInt64) (e : Event) (events : List Event) :
    Stamped n (e :: events) ↔
      (∀ tx ∈ e.signedTx, tx.sequenceNumber = n) ∧
        Stamped (if e.returned then n + 1 else n) events :=
  Iff.rfl

theorem ledger_step (n : UInt64) (returned : Bool) (k : Nat) :
    (if returned then n + 1 else n) + UInt64.ofNat k =
      n + UInt64.ofNat (k + if returned then 1 else 0) := by
  cases returned
  · simp
  · simp only [if_true, uint64_ofNat_add, show UInt64.ofNat 1 = 1 from rfl]
    ac_rfl

theorem stamped_append (n : UInt64) (xs ys : List Event) :
    Stamped n (xs ++ ys) ↔
      Stamped n xs ∧ Stamped (n + UInt64.ofNat (returnedBroadcasts xs)) ys := by
  induction xs generalizing n with
  | nil => simp
  | cons e xs ih => simp [ih, and_assoc, ledger_step]

@[simp] theorem returnedTxs_nil : returnedTxs [] = [] := rfl

@[simp] theorem returnedTxs_append (xs ys : List Event) :
    returnedTxs (xs ++ ys) = returnedTxs xs ++ returnedTxs ys :=
  List.filterMap_append _ _ _

/-- The broadcasts that returned of stamped events carry `n`, `n + 1`, … in turn. -/
theorem returnedTxs_of_stamped {n : UInt64} {events : List Event}
    (stamped : Stamped n events) :
    (returnedTxs events).map RawTx.sequenceNumber =
      (List.range (returnedBroadcasts events)).map (n + UInt64.ofNat ·) := by
  induction events generalizing n with
  | nil => rfl
  | cons e events ih =>
    obtain ⟨signs, later⟩ := stamped
    cases e with
    | broadcast tx returned =>
      cases returned with
      | false => simpa [returnedTxs] using ih later
      | true =>
        have first : tx.sequenceNumber = n := signs tx rfl
        simp only [if_true, Event.returned] at later
        simp only [returnedTxs, List.filterMap_cons, List.map_cons, returnedBroadcasts_cons,
          Event.returned, if_true, List.range_succ_eq_map, List.map_map]
        rw [← returnedTxs, ih later, first]
        simp [Function.comp_def, uint64_ofNat_add, add_right_comm n 1, add_assoc]
    | _ => simpa [returnedTxs] using ih later

theorem commitTx_stamped (signer : Signer) (config : Node) (address : String)
    (maxCount : UInt32) (answers : CommitAnswers) :
    Stamped signer.sequenceNumber (commitTx signer config address maxCount answers).2.1 := by
  rcases commitTx_cases signer config address maxCount answers with
    committed | ⟨e, committed⟩ |
      ⟨gasUsed, -, committed | committed | ⟨result, committed⟩⟩ <;>
  simp [committed]

variable (config : Node) (address : String) (maxAlarms : UInt32)

theorem dispatchAlarm_stamped (signer : Signer) (rounds : List Round) :
    Stamped signer.sequenceNumber
      (dispatchAlarm signer config address maxAlarms rounds).events := by
  induction rounds generalizing signer with
  | nil => trivial
  | cons round rounds ih =>
    have committed := commitTx_stamped signer config address maxAlarms round.commit
    have moved := commitTx_sequenceNumber signer config address maxAlarms round.commit
    simp only [dispatchAlarm]
    split
    · simp
    · split
      · split
        · simpa [stamped_append] using committed
        · split
          · rw [stamped_append]
            refine ⟨by simpa [stamped_append] using committed, ?_⟩
            simpa [← moved] using ih _
          · simpa [stamped_append] using committed
      · simp

theorem dispatchAlarms_stamped (signer : Signer) (config : Config) (ticks : List Tick) :
    Stamped signer.sequenceNumber (dispatchAlarms signer config ticks).events := by
  induction ticks generalizing signer with
  | nil => trivial
  | cons tick ticks ih =>
    have price := dispatchAlarm_stamped config.node config.marketPriceOracle.address
      config.marketPriceOracle.maxAlarmsGroup signer tick.marketPrice
    have priced := dispatchAlarm_sequenceNumber config.node config.marketPriceOracle.address
      config.marketPriceOracle.maxAlarmsGroup signer tick.marketPrice
    simp only [dispatchAlarms]
    split
    · exact price
    · exact price
    · have time := dispatchAlarm_stamped config.node config.timeAlarms.address
        config.timeAlarms.maxAlarmsGroup
        (dispatchAlarm signer config.node config.marketPriceOracle.address
          config.marketPriceOracle.maxAlarmsGroup tick.marketPrice).signer tick.time
      have timed := dispatchAlarm_sequenceNumber config.node config.timeAlarms.address
        config.timeAlarms.maxAlarmsGroup
        (dispatchAlarm signer config.node config.marketPriceOracle.address
          config.marketPriceOracle.maxAlarmsGroup tick.marketPrice).signer tick.time
      split
      · exact (stamped_append _ _ _).mpr ⟨price, by rwa [← priced]⟩
      · exact (stamped_append _ _ _).mpr ⟨price, by rwa [← priced]⟩
      · rw [stamped_append, stamped_append, stamped_cons]
        refine ⟨⟨price, by rwa [← priced]⟩, by simp, ?_⟩
        simpa [uint64_ofNat_add, ← add_assoc, ← priced, ← timed] using ih _

end SigningLemmas

open SigningLemmas

/-- Every transaction signed along every run of `dispatch_alarms`, simulated or broadcast,
carries the initial sequence number plus the calls to `broadcast_commit` that returned before
it. -/
theorem dispatchAlarms_signedTx_sequenceNumber (signer : Signer) (config : Config)
    (ticks : List Tick) (pre post : List Event) (e : Event)
    (split : (dispatchAlarms signer config ticks).events = pre ++ e :: post) :
    ∀ tx ∈ e.signedTx,
      tx.sequenceNumber = signer.sequenceNumber + UInt64.ofNat (returnedBroadcasts pre) := by
  have stamped := dispatchAlarms_stamped signer config ticks
  rw [split, stamped_append, stamped_cons] at stamped
  exact stamped.2.1

/-- A price oracle drained in two rounds from sequence number 7, the first dispatching the
whole group: the second round's simulation is signed at 8, after the one broadcast that
returned. -/
theorem second_round_signed_next :
    let config : Config := ⟨⟨10⟩, 60, ⟨"oracle", 2⟩, ⟨"time", 2⟩⟩
    let full : Round := ⟨.ok ⟨true⟩, ⟨true, some (some 15), true, some (some ⟨2⟩)⟩⟩
    let last : Round := ⟨.ok ⟨true⟩, ⟨true, some (some 15), true, some (some ⟨1⟩)⟩⟩
    let idle : Round := ⟨.ok ⟨false⟩, ⟨false, none, false, none⟩⟩
    let events := (dispatchAlarms ⟨7⟩ config [⟨[full, last], [idle]⟩]).events
    let second : RawTx := ⟨⟨"oracle", ⟨2⟩⟩, 20, 8⟩
    events = events.take 5 ++ .simulated second :: events.drop 6 ∧
      ∀ tx ∈ (Event.simulated second).signedTx,
        tx.sequenceNumber = 7 + UInt64.ofNat (returnedBroadcasts (events.take 5)) := by
  intro config full last idle events second
  have split : events = events.take 5 ++ .simulated second :: events.drop 6 := rfl
  have stamps := dispatchAlarms_signedTx_sequenceNumber _ _ _ _ _ _ split
  exact ⟨split, stamps⟩

/-- Along every run of `dispatch_alarms`, the transactions whose `broadcast_commit` returned
carry the initial sequence number, the one after it, and so on in turn: no number is signed
into two of them (short of `2^64` of them), and one that failed leaves its number to the
next. -/
theorem dispatchAlarms_returned_sequenceNumbers (signer : Signer) (config : Config)
    (ticks : List Tick) :
    (returnedTxs (dispatchAlarms signer config ticks).events).map RawTx.sequenceNumber =
      (List.range (returnedBroadcasts (dispatchAlarms signer config ticks).events)).map
        (signer.sequenceNumber + UInt64.ofNat ·) :=
  returnedTxs_of_stamped (dispatchAlarms_stamped signer config ticks)

end OraclePriceFeeder.AlarmsDispatcher
