import OraclePriceFeeder.Broadcaster.Loop

/-!
# What `broadcast_tx` delivers

`broadcast_tx` hands one package's response back to its task through the `feedback_sender`.
Every pass of its loop signs the package's body under the package's gas limits and
broadcasts under its expiration (`broadcastTx_ofPass`); passes that end in a transport
error, or in a code-32 response whose forced fetch (if any) succeeds, deliver nothing and
retry; a pass whose package expires returns `Ok`, leaving the broadcaster as it was.

`broadcastTx_shape` splits the events of a package into the passes that retried and the one
that ended the loop, and says what that last one can be; `broadcastTx_uses` says that the
passes use the world's answers in turn, one each, and that the loop stops short of returning
only once it used them all. From them, `broadcastTx_feedback`: the first response whose code
is not 32 is delivered, and `Ok` returned, unless that response forces
`fetch_sequence_number` and the fetch fails, in which case nothing is delivered and the
fetch's error returned (`failed_fetch_swallows_response`).

Over a whole run, `run_serves_packages`: the run is `Served`: the received packages in turn,
each followed by its own passes, which use the answers in turn, so that no package is
answered twice or with another's response; and `run` stops with an error only on a closed
channel or on a package's refused signing or failed forced fetch.
-/

namespace OraclePriceFeeder.Broadcaster

variable {Expiration : Type}

/-! ## What a package shows -/

/-- The response an event delivers to the `feedback_sender`. -/
@[simp] def Event.delivery : Event Expiration → Option TxResponse
  | .delivered r => some r
  | _ => none

/-- The responses `events` deliver, in order. -/
def deliveries (events : List (Event Expiration)) : List TxResponse :=
  events.filterMap Event.delivery

/-- The response a broadcast got. -/
@[simp] def Event.response : Event Expiration → Option TxResponse
  | .broadcast _ _ (.response r) => some r
  | _ => none

/-- The responses the broadcasts among `events` got, in order. -/
def responses (events : List (Event Expiration)) : List TxResponse :=
  events.filterMap Event.response

/-- A broadcast whose package expired. -/
@[simp] def Event.expired : Event Expiration → Bool
  | .broadcast _ _ .expired => true
  | _ => false

/-- Whether a broadcast among `events` expired. -/
def expiredIn (events : List (Event Expiration)) : Bool :=
  events.any Event.expired

/-- The outcome a broadcast got. -/
@[simp] def Event.broadcastResult : Event Expiration → Option BroadcastResult
  | .broadcast _ _ result => some result
  | _ => none

/-- The outcomes of the broadcasts among `events`, in order. -/
def broadcastResults (events : List (Event Expiration)) : List BroadcastResult :=
  events.filterMap Event.broadcastResult

/-- The events of passes that used the answers `used`, one each and in order: every pass
whose two signings succeeded broadcast, and got its answer's outcome, and no other did. -/
def Answered (used : List Attempt) (events : List (Event Expiration)) : Prop :=
  broadcastResults events =
    (used.filter fun a => a.simulationSigned && a.signed).map Attempt.broadcast

/-- The event is about `package`: a simulation signs its body under `hard_gas_limit`, and a
broadcast is of its body, signed with adjusted gas under `hard_gas_limit` or with
`fallback_gas`, raced against its expiration. -/
@[simp] def Event.signsFor (package : TxPackage Expiration) : Event Expiration → Prop
  | .simulated tx _ => tx.signing = .tx package.txBody package.hardGasLimit
  | .broadcast tx expiration _ => expiration = package.expiration ∧
      ∃ gas, tx.signing =
        broadcastSigning package.txBody package.hardGasLimit package.fallbackGas gas
  | _ => True

/-- An event a pass of `'broadcast_loop` on `package` can make: anything but a `recv()`, and
about `package`. -/
@[simp] def Event.ofPass (package : TxPackage Expiration) : Event Expiration → Prop
  | .received _ => False
  | e => e.signsFor package

/-- The errors of `broadcast_tx` when a signing fails. -/
def signingErrors : List Error :=
  [⟨["Failed to simulate and sign transaction!", "Failed to sign simulation transaction!"]⟩,
    ⟨["Failed to simulate and sign transaction!",
      "Failed to sign transaction intended for broadcasting!"]⟩]

/-- The error of `broadcast_tx` when a forced `fetch_sequence_number` fails. -/
def fetchError : Error :=
  ⟨["Failed to fetch sequence number!"]⟩

/-- The passes that went round the loop again: they delivered nothing, expired nowhere, any
response they got had code 32, and no fetch they forced failed. -/
def Retried (events : List (Event Expiration)) : Prop :=
  deliveries events = [] ∧ expiredIn events = false ∧ (∀ r ∈ responses events, r.code = 32) ∧
    .fetched none ∉ events

/-- The pass that left the loop with `result`: an expiration, with `Ok` and nothing
delivered; a response whose code is not 32, delivered, with `Ok` and no failed fetch; a
signing failure, with its error; or a forced fetch that failed after a response, with its
error and nothing delivered. -/
def Ended (events : List (Event Expiration)) : Except Error Unit → Prop
  | .ok () => .fetched none ∉ events ∧
    ((deliveries events = [] ∧ responses events = [] ∧ expiredIn events = true) ∨
      ∃ r, responses events = [r] ∧ r.code ≠ 32 ∧ deliveries events = [r] ∧
        expiredIn events = false)
  | .error e =>
    deliveries events = [] ∧ expiredIn events = false ∧
      ((e ∈ signingErrors ∧ responses events = []) ∨
        (e = fetchError ∧ .fetched none ∈ events ∧ ∃ r, responses events = [r]))

/-- A package's events, from a run's view: all about the package, with no `recv()` among
them, and at most one response delivered, one a broadcast got and whose code is not 32. -/
def Handled (package : TxPackage Expiration) (events : List (Event Expiration)) : Prop :=
  (∀ e ∈ events, e.ofPass package) ∧ (deliveries events).length ≤ 1 ∧
    ∀ r ∈ deliveries events, r ∈ responses events ∧ r.code ≠ 32

/-- The runs over what the calls of `recv()` returned and the world's answers, with the
error they returned (`none` while they run), package by package: each package received is
followed by its own events, whose passes use the answers in turn, and one that returned `Ok`,
after a delivery or an expiration, by the sleep and the packages received after it. A run
stops at a closed channel; in a package whose passes used every answer left, with nothing
delivered or expired; or in a package whose signing was refused or whose forced fetch failed,
with nothing delivered, under the context `run` gives that error. -/
inductive Served : List (Option (TxPackage Expiration)) → List Attempt →
    List (Event Expiration) → Option Error → Prop
  | nil {attempts : List Attempt} : Served [] attempts [] none
  | closed {received : List (Option (TxPackage Expiration))} {attempts : List Attempt} :
      Served (none :: received) attempts [] (some ⟨["Transaction receiving channel closed!"]⟩)
  | running {package : TxPackage Expiration} {received : List (Option (TxPackage Expiration))}
      {attempts : List Attempt} {events : List (Event Expiration)}
      (handled : Handled package events) (answered : Answered attempts events)
      (unfinished : deliveries events = [] ∧ expiredIn events = false) :
      Served (some package :: received) attempts (.received package :: events) none
  | failed {package : TxPackage Expiration} {received : List (Option (TxPackage Expiration))}
      {attempts used rest : List Attempt} {events : List (Event Expiration)} {inner : Error}
      (split : attempts = used ++ rest) (handled : Handled package events)
      (answered : Answered used events) (silent : deliveries events = [])
      (error : (inner ∈ signingErrors ∧ ∃ a ∈ used, (a.simulationSigned && a.signed) = false) ∨
        (inner = fetchError ∧ .fetched none ∈ events)) :
      Served (some package :: received) attempts (.received package :: events)
        (some (inner.context "Failed to broadcast transaction!"))
  | package {package : TxPackage Expiration} {received : List (Option (TxPackage Expiration))}
      {attempts used rest : List Attempt} {events later : List (Event Expiration)}
      {result : Option Error} (delay : Duration) (split : attempts = used ++ rest)
      (handled : Handled package events) (answered : Answered used events)
      (finished : deliveries events ≠ [] ∨ expiredIn events = true)
      (next : Served received rest later result) :
      Served (some package :: received) attempts
        (.received package :: events ++ .slept delay :: later) result

namespace FeedbackLemmas

@[simp] theorem deliveries_nil : deliveries ([] : List (Event Expiration)) = [] := rfl

@[simp] theorem deliveries_cons (e : Event Expiration) (events : List (Event Expiration)) :
    deliveries (e :: events) = e.delivery.toList ++ deliveries events := by
  simp only [deliveries, List.filterMap_cons]
  cases e.delivery <;> rfl

@[simp] theorem deliveries_append (xs ys : List (Event Expiration)) :
    deliveries (xs ++ ys) = deliveries xs ++ deliveries ys :=
  List.filterMap_append _ _ _

@[simp] theorem responses_nil : responses ([] : List (Event Expiration)) = [] := rfl

@[simp] theorem responses_cons (e : Event Expiration) (events : List (Event Expiration)) :
    responses (e :: events) = e.response.toList ++ responses events := by
  simp only [responses, List.filterMap_cons]
  cases e.response <;> rfl

@[simp] theorem responses_append (xs ys : List (Event Expiration)) :
    responses (xs ++ ys) = responses xs ++ responses ys :=
  List.filterMap_append _ _ _

@[simp] theorem expiredIn_nil : expiredIn ([] : List (Event Expiration)) = false := rfl

@[simp] theorem expiredIn_cons (e : Event Expiration) (events : List (Event Expiration)) :
    expiredIn (e :: events) = (e.expired || expiredIn events) := rfl

@[simp] theorem expiredIn_append (xs ys : List (Event Expiration)) :
    expiredIn (xs ++ ys) = (expiredIn xs || expiredIn ys) :=
  List.any_append

@[simp] theorem broadcastResults_nil : broadcastResults ([] : List (Event Expiration)) = [] :=
  rfl

@[simp] theorem broadcastResults_cons (e : Event Expiration) (events : List (Event Expiration)) :
    broadcastResults (e :: events) = e.broadcastResult.toList ++ broadcastResults events := by
  simp only [broadcastResults, List.filterMap_cons]
  cases e.broadcastResult <;> rfl

@[simp] theorem broadcastResults_append (xs ys : List (Event Expiration)) :
    broadcastResults (xs ++ ys) = broadcastResults xs ++ broadcastResults ys :=
  List.filterMap_append _ _ _

theorem retried_append {xs ys : List (Event Expiration)} (first : Retried xs)
    (second : Retried ys) : Retried (xs ++ ys) := by
  obtain ⟨delivered, expired, codes, fetched⟩ := first
  obtain ⟨delivered', expired', codes', fetched'⟩ := second
  refine ⟨by simp [delivered, delivered'], by simp [expired, expired'], ?_, by simp [*]⟩
  simp only [responses_append, List.mem_append]
  rintro r (inFirst | inSecond)
  exacts [codes r inFirst, codes' r inSecond]

variable (b : Broadcast) (package : TxPackage Expiration) (a : Attempt)

@[simp] theorem ofPass_simulated (tx : RawTx) (gas : Option Gas) :
    (Event.simulated tx gas : Event Expiration).ofPass package ↔
      tx.signing = .tx package.txBody package.hardGasLimit := Iff.rfl

@[simp] theorem ofPass_broadcast (tx : RawTx) (expiration : Expiration)
    (result : BroadcastResult) :
    (Event.broadcast tx expiration result).ofPass package ↔ expiration = package.expiration ∧
      ∃ gas, tx.signing =
        broadcastSigning package.txBody package.hardGasLimit package.fallbackGas gas := Iff.rfl

@[simp] theorem ofPass_fetched (value : Option UInt64) :
    (Event.fetched value : Event Expiration).ofPass package := trivial

@[simp] theorem ofPass_delivered (response : TxResponse) :
    (Event.delivered response : Event Expiration).ofPass package := trivial

@[simp] theorem ofPass_slept (duration : Duration) :
    (Event.slept duration : Event Expiration).ofPass package := trivial

theorem ofPass_signsFor {e : Event Expiration} (about : e.ofPass package) :
    e.signsFor package := by
  cases e <;> simp_all

theorem passPrelude_ofPass : ∀ e ∈ b.passPrelude package a, e.ofPass package := by
  simp [Broadcast.passPrelude]

theorem passPrelude_views :
    deliveries (b.passPrelude package a) = [] ∧
      responses (b.passPrelude package a) =
        (match a.broadcast with | .response r => [r] | _ => []) ∧
      expiredIn (b.passPrelude package a) = (a.broadcast == .expired) ∧
      broadcastResults (b.passPrelude package a) = [a.broadcast] ∧
      .fetched none ∉ b.passPrelude package a := by
  obtain ⟨_, _, _, broadcast, _⟩ := a
  cases broadcast <;> simp [Broadcast.passPrelude]

theorem broadcastTxPass_ofPass :
    ∀ e ∈ (b.broadcastTxPass package a).events, e.ofPass package := by
  have prelude := passPrelude_ofPass b package a
  by_cases signed : (a.simulationSigned && a.signed) = true
  · cases response : a.broadcast with
    | expired => rwa [Broadcast.broadcastTxPass_of_expired b package a signed response]
    | failed =>
      rw [Broadcast.broadcastTxPass_of_failed b package a signed response,
        List.forall_mem_append]
      exact ⟨prelude, by simp only [List.forall_mem_cons, List.not_mem_nil, false_implies,
        implies_true, ofPass_slept, and_self]⟩
    | response r =>
      rw [Broadcast.broadcastTxPass_of_response b r package a signed response,
        List.forall_mem_append, List.forall_mem_append, Broadcast.process_events]
      refine ⟨⟨prelude, ?_⟩, ?_⟩ <;> split_ifs <;>
        simp only [List.nil_append, List.append_nil, List.singleton_append, List.forall_mem_cons,
          List.not_mem_nil, false_implies, implies_true, ofPass_fetched, ofPass_delivered,
          ofPass_slept, and_self]
  · rw [Broadcast.broadcastTxPass_of_not_signed b package a (by simpa using signed)]
    split <;> simp

/-- How a pass ends: it retried, or it ended the loop in one of the ways `Ended` lists. -/
theorem broadcastTxPass_outcome :
    match (b.broadcastTxPass package a).exit with
    | .retry => Retried (b.broadcastTxPass package a).events
    | .done result => Ended (b.broadcastTxPass package a).events result := by
  obtain ⟨delivered, responded, expired, -, unfetched⟩ := passPrelude_views b package a
  by_cases signed : (a.simulationSigned && a.signed) = true
  · cases response : a.broadcast with
    | expired =>
      rw [Broadcast.broadcastTxPass_of_expired b package a signed response]
      simp_all [Ended]
    | failed =>
      rw [Broadcast.broadcastTxPass_of_failed b package a signed response]
      simp_all [Retried]
    | response r =>
      rw [Broadcast.broadcastTxPass_of_response b r package a signed response]
      rw [response] at responded expired
      rcases Broadcast.process_cases b r a.fetched with
        ⟨-, -, events, result⟩ | ⟨fetched, code, events, result⟩ |
          ⟨fetched, code, events, result⟩ <;>
        rw [events, result] <;>
        simp only [Option.isSome_some, Option.isSome_none, if_true, Bool.false_eq_true, if_false,
          Option.elim, List.append_nil] <;>
        by_cases fetches : b.fetchesOn r <;>
        simp_all [Retried, Ended, fetchError, Option.isSome_iff_ne_none,
          @eq_comm (Option UInt64) none]
  · rw [Broadcast.broadcastTxPass_of_not_signed b package a (by simpa using signed)]
    dsimp only
    split <;> simp [Ended, signingErrors]

/-- A pass broadcasts, with its answer's outcome, exactly when its two signings succeed. -/
theorem broadcastTxPass_answered :
    broadcastResults (b.broadcastTxPass package a).events =
      if a.simulationSigned && a.signed then [a.broadcast] else [] := by
  obtain ⟨-, -, -, broadcast, -⟩ := passPrelude_views b package a
  by_cases signed : (a.simulationSigned && a.signed) = true
  · rw [if_pos signed]
    cases response : a.broadcast with
    | expired => rw [Broadcast.broadcastTxPass_of_expired b package a signed response,
        broadcast, response]
    | failed => simp [Broadcast.broadcastTxPass_of_failed b package a signed response,
        broadcast, response]
    | response r =>
      rw [Broadcast.broadcastTxPass_of_response b r package a signed response,
        Broadcast.process_events]
      split_ifs <;> simp [broadcast, response]
  · rw [if_neg signed, Broadcast.broadcastTxPass_of_not_signed b package a (by simpa using signed)]
    split <;> rfl

/-- A pass whose signings did not both succeed leaves the loop. -/
theorem broadcastTxPass_signed_of_retry (retry : (b.broadcastTxPass package a).exit = .retry) :
    (a.simulationSigned && a.signed) = true := by
  by_contra unsigned
  rw [Broadcast.broadcastTxPass_of_not_signed b package a (by simpa using unsigned)] at retry
  cases retry

/-- A pass returns a signing error only when one of its signings was refused. -/
theorem broadcastTxPass_refused {e : Error}
    (exit : (b.broadcastTxPass package a).exit = .done (.error e)) (signing : e ∈ signingErrors) :
    (a.simulationSigned && a.signed) = false := by
  by_contra unsigned
  have signed : (a.simulationSigned && a.signed) = true := by simpa using unsigned
  cases response : a.broadcast with
  | expired => simp [Broadcast.broadcastTxPass_of_expired b package a signed response] at exit
  | failed => simp [Broadcast.broadcastTxPass_of_failed b package a signed response] at exit
  | response r =>
    rw [Broadcast.broadcastTxPass_of_response b r package a signed response,
      Broadcast.process_result] at exit
    split_ifs at exit <;> cases exit <;> simp_all [signingErrors]

theorem broadcastTx_ofPass (attempts : List Attempt) :
    ∀ e ∈ (b.broadcastTx package attempts).events, e.ofPass package := by
  induction attempts generalizing b with
  | nil => simp [Broadcast.broadcastTx]
  | cons a rest ih =>
    have pass := broadcastTxPass_ofPass b package a
    simp only [Broadcast.broadcastTx]
    split
    · exact pass
    · exact List.forall_mem_append.mpr ⟨pass, ih _⟩

/-- The events of a package are passes that retried, then, once `broadcast_tx` has
returned, the pass that ended it. -/
theorem broadcastTx_shape (attempts : List Attempt) :
    ∃ retried final, (b.broadcastTx package attempts).events = retried ++ final ∧
      Retried retried ∧
      match (b.broadcastTx package attempts).result with
      | none => final = []
      | some result => Ended final result := by
  induction attempts generalizing b with
  | nil => exact ⟨[], [], rfl, by simp [Retried], rfl⟩
  | cons a rest ih =>
    have outcome := broadcastTxPass_outcome b package a
    simp only [Broadcast.broadcastTx]
    split
    · next exit =>
      rw [exit] at outcome
      exact ⟨[], _, rfl, by simp [Retried], outcome⟩
    · next exit =>
      rw [exit] at outcome
      obtain ⟨retried, final, events, retriedRest, ended⟩ := ih (b.broadcastTxPass package a).broadcast
      exact ⟨_ ++ retried, final, by simp [events], retried_append outcome retriedRest, ended⟩

/-- `broadcast_tx` uses the answers in turn, one per pass, and leaves the rest over; a
signing error comes from an answer it used that refused a signing; and it stops short of
returning only once it used every answer. -/
theorem broadcastTx_uses (attempts : List Attempt) :
    (∃ used, attempts = used ++ (b.broadcastTx package attempts).rest ∧
      Answered used (b.broadcastTx package attempts).events ∧
      ∀ e ∈ signingErrors, (b.broadcastTx package attempts).result = some (.error e) →
        ∃ a ∈ used, (a.simulationSigned && a.signed) = false) ∧
    ((b.broadcastTx package attempts).result = none → (b.broadcastTx package attempts).rest = []) := by
  induction attempts generalizing b with
  | nil => exact ⟨⟨[], rfl, rfl, fun _ _ ended => by cases ended⟩, fun _ => rfl⟩
  | cons a rest ih =>
    have answered := broadcastTxPass_answered b package a
    cases exit : (b.broadcastTxPass package a).exit with
    | done result =>
      simp only [Broadcast.broadcastTx, exit]
      refine ⟨⟨[a], rfl, by rw [Answered, answered, List.filter_cons]; split <;> rfl,
        fun e signing ended => ⟨a, List.mem_singleton_self a, ?_⟩⟩, nofun⟩
      cases ended
      exact broadcastTxPass_refused b package a exit signing
    | retry =>
      have signed := broadcastTxPass_signed_of_retry b package a exit
      obtain ⟨⟨used, split, later, refused⟩, ran⟩ := ih (b.broadcastTxPass package a).broadcast
      simp only [Broadcast.broadcastTx, exit]
      refine ⟨⟨a :: used, congrArg (List.cons a) split, ?_, fun e signing ended => ?_⟩, ran⟩
      · rw [Answered, broadcastResults_append, answered, later, if_pos signed, List.filter_cons,
          if_pos signed]
        rfl
      · obtain ⟨a', found, unsigned⟩ := refused e signing ended
        exact ⟨a', List.mem_cons_of_mem a found, unsigned⟩

theorem find_not_retry_of_retried {retried : List (Event Expiration)}
    (codes : ∀ r ∈ responses retried, r.code = 32) :
    (responses retried).find? (fun r => r.code != 32) = none :=
  List.find?_eq_none.mpr (by simpa using codes)

/-- What a package's events and result say of each other: the first response whose code is
not 32 is delivered with `Ok` when no forced fetch failed, and otherwise nothing is delivered
and the fetch's error returned; an expiration delivers nothing and returns `Ok`; `Ok` comes
only after a delivery or an expiration, and short of `Ok` nothing is delivered or expired; an
error is a signing error or, after a failed fetch, the fetch's; at most one response is
delivered, and never a code-32 one. -/
theorem broadcastTx_laws (attempts : List Attempt) :
    let q := b.broadcastTx package attempts
    (∀ r, (responses q.events).find? (fun r => r.code != 32) = some r →
      (.fetched none ∉ q.events ∧ deliveries q.events = [r] ∧ q.result = some (.ok ())) ∨
      (.fetched none ∈ q.events ∧ deliveries q.events = [] ∧
        q.result = some (.error fetchError))) ∧
    (expiredIn q.events = true → deliveries q.events = [] ∧ q.result = some (.ok ())) ∧
    (q.result = some (.ok ()) → deliveries q.events ≠ [] ∨ expiredIn q.events = true) ∧
    (q.result ≠ some (.ok ()) → deliveries q.events = [] ∧ expiredIn q.events = false) ∧
    (∀ e, q.result = some (.error e) → deliveries q.events = [] ∧
      (e ∈ signingErrors ∨ (e = fetchError ∧ .fetched none ∈ q.events))) ∧
    (deliveries q.events).length ≤ 1 ∧
    ∀ r ∈ deliveries q.events, r ∈ responses q.events ∧ r.code ≠ 32 := by
  obtain ⟨retried, final, events, ⟨delivered, expired, codes, unfetched⟩, ended⟩ :=
    broadcastTx_shape b package attempts
  simp only [events, deliveries_append, delivered, List.nil_append, expiredIn_append, expired,
    Bool.false_or, responses_append, List.find?_append, find_not_retry_of_retried codes,
    Option.none_or, List.mem_append, unfetched, false_or]
  revert ended
  cases (b.broadcastTx package attempts).result with
  | none => rintro rfl; simp
  | some result =>
    cases result with
    | ok u =>
      rintro ⟨fine, ⟨none, noResponse, expiredFinal⟩ | ⟨r, single, code, one, notExpired⟩⟩
      · simp [fine, none, noResponse, expiredFinal]
      · simp [fine, single, code, one, notExpired]
    | error e =>
      rintro ⟨none, notExpired, (⟨signing, noResponse⟩ | ⟨fetch, failed, r, single⟩)⟩
      · simp [none, notExpired, signing, noResponse]
      · subst fetch
        simp [none, notExpired, single, failed]

end FeedbackLemmas

open FeedbackLemmas

/-! ## One package -/

/-- Over every run of `run`, whatever the packages and the world's answers, the run is
`Served`: its events are the received packages in turn, each followed by its own passes
alone, which use the answers in turn, one each, so that no package gets a response twice nor
another package's response, nor a code-32 one; a package is followed by the next only once
it returned `Ok`, after a delivery or an expiration; and `run` stops only on a closed channel,
with that error; with no error, in a package whose passes used every answer left; or with a
package's error, under the context `run` gives it, after a refused signing or a failed forced
fetch. -/
theorem run_serves_packages (b : Broadcast) (received : List (Option (TxPackage Expiration)))
    (attempts : List Attempt) :
    Served received attempts (b.run received attempts).events (b.run received attempts).result := by
  induction received generalizing b attempts with
  | nil => exact .nil
  | cons package received ih =>
    cases package with
    | none => exact .closed
    | some package =>
      obtain ⟨-, -, finished, unfinished, errors, once, fromResponses⟩ :=
        broadcastTx_laws b package attempts
      obtain ⟨⟨used, split, answered, refused⟩, ran⟩ := broadcastTx_uses b package attempts
      have handled : Handled package (b.broadcastTx package attempts).events :=
        ⟨broadcastTx_ofPass b package attempts, once, fromResponses⟩
      simp only [Broadcast.run]
      split
      · next running =>
        rw [ran running, List.append_nil] at split
        exact .running handled (split ▸ answered) (unfinished (by simp [running]))
      · next e error =>
        obtain ⟨silent, cause⟩ := errors e error
        refine .failed split handled answered silent ?_
        rcases cause with signing | fetch
        · exact .inl ⟨signing, refused e signing error⟩
        · exact .inr fetch
      · next ok => exact .package _ split handled answered (finished ok) (ih _ _)

end OraclePriceFeeder.Broadcaster
