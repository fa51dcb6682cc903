import OraclePriceFeeder.Broadcaster.Basic

/-!
# `Broadcast::broadcast_tx` and `Broadcast::run`

The loop of the broadcaster, one definition per function of `lib.rs`:
`simulate_and_sign_tx`, `broadcast_with_expiration`, the `'process` block of `broadcast_tx`,
one pass of its `'broadcast_loop`, the loop itself, and `run`.

A run is driven by the world: `run` takes what `recv()` returns and, for every pass of every
package, the `Attempt` that answers it. When the world has not answered yet the run is
suspended, so a run on a prefix of the answers is the run stopped at that point; the
results below hold for every list of answers, and so at every point of every run.

Each function gets the lemmas later modules need, so that they never unfold it:
`simulateAndSignTx_eq`, `process_*` with the inversion `process_cases`, and one
`broadcastTxPass_of_*` per way a pass can end: unsigned, expired, failed, or a response.
-/

namespace OraclePriceFeeder.Broadcaster

variable {Expiration : Type}

/-- `simulate_and_sign_tx`: the simulation it asks the node for, and the transaction it
signs for broadcasting, with the estimated gas adjusted, or with `fallback_gas` when the
simulation failed. -/
def simulateAndSignTx (signer : Signer) (tx : TxBody) (hardGasLimit fallbackGas : Gas)
    (a : Attempt) : List (Event Expiration) × Except Error RawTx :=
  match signer.tx tx hardGasLimit a.simulationSigned with
  | .error e => ([], .error (e.context "Failed to sign simulation transaction!"))
  | .ok simulationTx =>
    ([.simulated simulationTx a.simulation],
      (match a.simulation with
        | some gas => signer.txWithGasAdjustment tx gas hardGasLimit a.signed
        | none => signer.tx tx fallbackGas a.signed).mapError
        fun e : Error => e.context "Failed to sign transaction intended for broadcasting!")

/-- `broadcast_with_expiration`: `none` when the package expired before the broadcast
returned. -/
def broadcastWithExpiration : BroadcastResult → Option (Except Unit TxResponse)
  | .expired => none
  | .failed => some (.error ())
  | .response r => some (.ok r)

/-- How a pass of `'broadcast_loop` ends. -/
inductive Exit
  /-- Past `sleep(self.retry_delay_duration)`, into the next pass. -/
  | retry
  /-- `broadcast_tx` returns `result`, by `break 'broadcast_loop` or by `?`. -/
  | done (result : Except Error Unit)

/-- A pass of `'broadcast_loop`: the broadcaster after it, what it did, and how it ended. -/
structure Pass (Expiration : Type) where
  broadcast : Broadcast
  events : List (Event Expiration)
  exit : Exit

/-- Where `broadcast_tx` has got to: the broadcaster, what it did, what it returned (`none`
while it waits for the answers to its next pass), and the answers it left unused. -/
structure Progress (Expiration : Type) where
  broadcast : Broadcast
  events : List (Event Expiration)
  result : Option (Except Error Unit)
  rest : List Attempt

/-- Where a run has got to: the broadcaster, what it did, and the error `run` returned
(`none` while the run goes on). -/
structure Run (Expiration : Type) where
  broadcast : Broadcast
  events : List (Event Expiration)
  result : Option Error

namespace Broadcast

/-- `Broadcast::fetch_sequence_number`. -/
def fetchSequenceNumber (b : Broadcast) (fetched : Option UInt64) : Except Error Broadcast :=
  (b.signer.fetchSequenceNumber fetched).map fun signer => { b with signer }

/-- The last lines of `'process`: a response whose code is not 32 goes to the
`feedback_sender` and ends `broadcast_tx`; a code-32 one falls out of the block. -/
def deliver (b : Broadcast) (events : List (Event Expiration)) (response : TxResponse) :
    Broadcast × List (Event Expiration) × Option (Except Error Unit) :=
  if response.code ≠ signatureVerificationErrorCode then
    (b, events ++ [.delivered response], some (.ok ()))
  else (b, events, none)

/-- The `'process` block on a response: the broadcaster after it, what it did, and
`some result` when `broadcast_tx` returns from it (`none`: on to the retry sleep). -/
def process (b : Broadcast) (response : TxResponse) (fetched : Option UInt64) :
    Broadcast × List (Event Expiration) × Option (Except Error Unit) :=
  let b := if response.admitted then { b with signer := b.signer.incrementSequenceNumber }
    else b
  if response.code = 0 then deliver { b with consecutiveErrors := 0 } [] response
  else
    let b := { b with consecutiveErrors := (b.consecutiveErrors + 1) % 5 }
    if b.consecutiveErrors = 0 then
      match b.fetchSequenceNumber fetched with
      | .ok b' => deliver b' [.fetched fetched] response
      | .error e =>
        (b, [.fetched fetched], some (.error (e.context "Failed to fetch sequence number!")))
    else deliver b [] response

/-- One pass of `'broadcast_loop` for `package`, answered by `a`. -/
def broadcastTxPass (b : Broadcast) (package : TxPackage Expiration) (a : Attempt) :
    Pass Expiration :=
  match simulateAndSignTx b.signer package.txBody package.hardGasLimit package.fallbackGas a
    with
  | (events, .error e) =>
    ⟨b, events, .done (.error (e.context "Failed to simulate and sign transaction!"))⟩
  | (events, .ok rawTx) =>
    let events := events ++ [.broadcast rawTx package.expiration a.broadcast]
    match broadcastWithExpiration a.broadcast with
    | none => ⟨b, events, .done (.ok ())⟩
    | some (.error ()) => ⟨b, events ++ [.slept b.retryDelayDuration], .retry⟩
    | some (.ok response) =>
      match b.process response a.fetched with
      | (b', processed, some result) => ⟨b', events ++ processed, .done result⟩
      | (b', processed, none) =>
        ⟨b', events ++ processed ++ [.slept b'.retryDelayDuration], .retry⟩

/-- `broadcast_tx`: passes of `'broadcast_loop`, one `Attempt` each, until one leaves it. -/
def broadcastTx (b : Broadcast) (package : TxPackage Expiration) :
    List Attempt → Progress Expiration
  | [] => ⟨b, [], none, []⟩
  | a :: rest =>
    let p := b.broadcastTxPass package a
    match p.exit with
    | .done result => ⟨p.broadcast, p.events, some result, rest⟩
    | .retry =>
      let q := p.broadcast.broadcastTx package rest
      { q with events := p.events ++ q.events }

/-- `run`: receive a package, `broadcast_tx` it, sleep `delay_duration`, loop. `received`
is what the calls of `recv()` return (`none` once the channel is closed). -/
def run (b : Broadcast) :
    List (Option (TxPackage Expiration)) → List Attempt → Run Expiration
  | [], _ => ⟨b, [], none⟩
  | none :: _, _ => ⟨b, [], some ⟨["Transaction receiving channel closed!"]⟩⟩
  | some package :: received, attempts =>
    let p := b.broadcastTx package attempts
    match p.result with
    | none => ⟨p.broadcast, .received package :: p.events, none⟩
    | some (.error e) =>
      ⟨p.broadcast, .received package :: p.events,
        some (e.context "Failed to broadcast transaction!")⟩
    | some (.ok ()) =>
      let r := p.broadcast.run received p.rest
      { r with
        events := .received package :: p.events ++ .slept p.broadcast.delayDuration :: r.events }

/-- Whether the `'process` block calls `fetch_sequence_number` on `r`: a nonzero code that
brings `consecutive_errors` round to `0`. -/
def fetchesOn (b : Broadcast) (r : TxResponse) : Bool :=
  r.code != 0 && (b.consecutiveErrors + 1) % 5 == 0

end Broadcast

/-! ## One lemma per function -/

/-- The transaction `simulate_and_sign_tx` signs for broadcasting. -/
def broadcastSigning (tx : TxBody) (hardGasLimit fallbackGas : Gas) : Option Gas → Signing
  | some gas => .txWithGasAdjustment tx gas hardGasLimit
  | none => .tx tx fallbackGas

theorem simulateAndSignTx_eq (signer : Signer) (tx : TxBody) (hardGasLimit fallbackGas : Gas)
    (a : Attempt) :
    @simulateAndSignTx Expiration signer tx hardGasLimit fallbackGas a =
      if a.simulationSigned then
        ([.simulated ⟨.tx tx hardGasLimit, signer.sequenceNumber⟩ a.simulation],
          if a.signed then
            .ok ⟨broadcastSigning tx hardGasLimit fallbackGas a.simulation, signer.sequenceNumber⟩
          else .error ⟨["Failed to sign transaction intended for broadcasting!"]⟩)
      else ([], .error ⟨["Failed to sign simulation transaction!"]⟩) := by
  cases a with
  | mk simulationSigned simulation signed broadcast fetched =>
    cases simulationSigned <;> cases simulation <;> cases signed <;>
      rfl

namespace Broadcast

variable (b : Broadcast) (r : TxResponse) (fetched : Option UInt64)

/-- The broadcaster after `'process` when it calls no fetch, or when its fetch fails. -/
def counted : Broadcast :=
  { b with
    signer := if r.admitted then b.signer.incrementSequenceNumber else b.signer
    consecutiveErrors := if r.code = 0 then 0 else (b.consecutiveErrors + 1) % 5 }

@[simp] theorem counted_sequenceNumber :
    (b.counted r).signer.sequenceNumber =
      if r.admitted then b.signer.sequenceNumber + 1 else b.signer.sequenceNumber := by
  unfold counted
  split <;> rfl

theorem process_eq :
    @Broadcast.process Expiration b r fetched =
      if b.fetchesOn r then
        match fetched with
        | some v => deliver { b.counted r with signer := ⟨v⟩ } [.fetched fetched] r
        | none =>
          (b.counted r, [.fetched fetched], some (.error ⟨["Failed to fetch sequence number!"]⟩))
      else deliver (b.counted r) [] r := by
  unfold process fetchesOn counted
  by_cases admitted : r.admitted <;> by_cases zero : r.code = 0 <;>
    by_cases wraps : (b.consecutiveErrors + 1) % 5 = 0 <;> cases fetched <;>
    simp [admitted, zero, wraps, fetchSequenceNumber, Signer.fetchSequenceNumber, Except.map,
      Error.context]

theorem process_sequenceNumber :
    (@Broadcast.process Expiration b r fetched).1.signer.sequenceNumber =
      if b.fetchesOn r then fetched.getD (b.counted r).signer.sequenceNumber
      else (b.counted r).signer.sequenceNumber := by
  rw [process_eq]
  split <;> (try cases fetched) <;> simp only [deliver] <;> (try split) <;> rfl

theorem process_consecutiveErrors :
    (@Broadcast.process Expiration b r fetched).1.consecutiveErrors =
      (b.counted r).consecutiveErrors := by
  rw [process_eq]
  split <;> (try cases fetched) <;> simp only [deliver] <;> (try split) <;> rfl

theorem process_retryDelayDuration :
    (@Broadcast.process Expiration b r fetched).1.retryDelayDuration =
      b.retryDelayDuration := by
  rw [process_eq]
  split <;> (try cases fetched) <;> simp only [deliver] <;> (try split) <;> rfl

/-- `'process` fetches when `fetchesOn` says so, then delivers any response but a code-32
one, unless its fetch failed. -/
theorem process_events :
    (@Broadcast.process Expiration b r fetched).2.1 =
      (if b.fetchesOn r then [.fetched fetched] else []) ++
        if r.code ≠ signatureVerificationErrorCode ∧ (b.fetchesOn r → fetched.isSome)
        then [.delivered r] else [] := by
  rw [process_eq]
  split <;> (try cases fetched) <;> simp_all [deliver] <;> split <;> simp_all

/-- `'process` leaves `broadcast_tx` with an error when its fetch fails, with `Ok` on any
other code but 32, and falls through to the retry sleep on code 32. -/
theorem process_result :
    (@Broadcast.process Expiration b r fetched).2.2 =
      if b.fetchesOn r ∧ fetched = none then
        some (.error ⟨["Failed to fetch sequence number!"]⟩)
      else if r.code ≠ signatureVerificationErrorCode then some (.ok ()) else none := by
  rw [process_eq]
  split <;> (try cases fetched) <;> simp_all [deliver] <;> split <;> simp_all

/-- Everything `'process` can end in: a forced fetch that failed, with its error; a response
delivered, with `Ok`; or a code-32 response that falls through to the retry sleep. -/
theorem process_cases :
    (b.fetchesOn r ∧ fetched = none ∧
      (@Broadcast.process Expiration b r fetched).2.1 = [.fetched none] ∧
      (@Broadcast.process Expiration b r fetched).2.2 =
        some (.error ⟨["Failed to fetch sequence number!"]⟩)) ∨
    ((b.fetchesOn r → fetched.isSome) ∧ r.code ≠ 32 ∧
      (@Broadcast.process Expiration b r fetched).2.1 =
        (if b.fetchesOn r then [.fetched fetched] else []) ++ [.delivered r] ∧
      (@Broadcast.process Expiration b r fetched).2.2 = some (.ok ())) ∨
    ((b.fetchesOn r → fetched.isSome) ∧ r.code = 32 ∧
      (@Broadcast.process Expiration b r fetched).2.1 =
        (if b.fetchesOn r then [.fetched fetched] else []) ∧
      (@Broadcast.process Expiration b r fetched).2.2 = none) := by
  rw [process_events, process_result]
  by_cases fetches : b.fetchesOn r <;> cases fetched <;> by_cases code : r.code = 32 <;>
    simp [fetches, code]

variable (package : TxPackage Expiration) (a : Attempt)

/-- The two events of a pass whose signings succeed: the simulation, and the broadcast. -/
def passPrelude : List (Event Expiration) :=
  [.simulated ⟨.tx package.txBody package.hardGasLimit, b.signer.sequenceNumber⟩ a.simulation,
    .broadcast ⟨broadcastSigning package.txBody package.hardGasLimit package.fallbackGas
      a.simulation, b.signer.sequenceNumber⟩ package.expiration a.broadcast]

/-- A pass whose signing fails returns an error, leaving the broadcaster as it was. -/
theorem broadcastTxPass_of_not_signed (unsigned : (a.simulationSigned && a.signed) = false) :
    b.broadcastTxPass package a =
      ⟨b, if a.simulationSigned then
          [.simulated ⟨.tx package.txBody package.hardGasLimit, b.signer.sequenceNumber⟩
            a.simulation] else [],
        .done (.error ⟨["Failed to simulate and sign transaction!",
          if a.simulationSigned then "Failed to sign transaction intended for broadcasting!"
          else "Failed to sign simulation transaction!"]⟩)⟩ := by
  obtain ⟨simulationSigned, simulation, signed, broadcast, fetched⟩ := a
  cases simulationSigned <;> cases signed <;> cases simulation <;> simp at unsigned <;> rfl

/-- A pass whose package expires returns `Ok`, leaving the broadcaster as it was. -/
theorem broadcastTxPass_of_expired (signed : (a.simulationSigned && a.signed) = true)
    (expired : a.broadcast = .expired) :
    b.broadcastTxPass package a = ⟨b, passPrelude b package a, .done (.ok ())⟩ := by
  cases a with
  | mk simulationSigned simulation signed broadcast fetched =>
    simp only [Bool.and_eq_true] at signed expired
    obtain ⟨rfl, rfl⟩ := signed
    subst expired
    cases simulation <;> rfl

/-- A pass whose broadcast fails at the transport retries, leaving the broadcaster as it
was. -/
theorem broadcastTxPass_of_failed (signed : (a.simulationSigned && a.signed) = true)
    (failed : a.broadcast = .failed) :
    b.broadcastTxPass package a =
      ⟨b, passPrelude b package a ++ [.slept b.retryDelayDuration], .retry⟩ := by
  cases a with
  | mk simulationSigned simulation signed broadcast fetched =>
    simp only [Bool.and_eq_true] at signed failed
    obtain ⟨rfl, rfl⟩ := signed
    subst failed
    cases simulation <;> rfl

/-- A pass that gets a response ends as `'process` says, sleeping before the next pass when
`'process` falls through. -/
theorem broadcastTxPass_of_response (signed : (a.simulationSigned && a.signed) = true)
    (response : a.broadcast = .response r) :
    b.broadcastTxPass package a =
      ⟨(@Broadcast.process Expiration b r a.fetched).1,
        passPrelude b package a ++ (b.process r a.fetched).2.1 ++
          (if (@Broadcast.process Expiration b r a.fetched).2.2.isSome then []
          else [.slept b.retryDelayDuration]),
        (@Broadcast.process Expiration b r a.fetched).2.2.elim .retry .done⟩ := by
  cases a with
  | mk simulationSigned simulation signed broadcast fetched =>
    simp only [Bool.and_eq_true] at signed response
    obtain ⟨rfl, rfl⟩ := signed
    subst response
    have retryDelay := @process_retryDelayDuration Expiration b r fetched
    rcases h : @Broadcast.process Expiration b r fetched with ⟨b', events, _ | result⟩ <;>
      rw [h] at retryDelay <;> cases simulation <;>
      simp_all [broadcastTxPass, simulateAndSignTx_eq, passPrelude, broadcastWithExpiration]

end Broadcast

end OraclePriceFeeder.Broadcaster
