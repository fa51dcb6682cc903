import Mathlib.Data.Nat.Defs

/-!
# Sending a committed transaction's outcome back, in `broadcast`

`sleep_and_broadcast_tx` (`broadcast/src/broadcast.rs`) waits until `between_tx_margin_time`
has passed since the last signing, commits the request's signed bytes with
`broadcast_commit`, and sends the outcome to the sender registered under the request's id:
the hash when the code is `0`, and otherwise a `CommitError` of type
`InvalidAccountSequence` for code `32` and `Unknown` for any other. When the outcome cannot
be handed to a live receiver, it spawns `poll_delivered_tx` on the hash instead. A failed
commit gives the request back, with the bytes `broadcast_commit` returned.

`TxRequest`, `CommitResultSender`, `impl_variant::Impl` and `poll_delivered_tx` are not under
src/. A request is its sender's id and its signed bytes (its other fields are copied through
unchanged and left out); a sender is whether its receiver is still there. What
`broadcast_commit` answers, the time since the last signing and `Instant::now()` are the
world's.
-/

namespace OraclePriceFeeder.Broadcast

/-- A `Duration`, in nanoseconds. -/
structure Duration where
  nanos : Nat
  deriving DecidableEq, Repr

/-- The fields of `commit::Response` that `send_back_tx_hash` reads; `code` is the value of
its `Code`. -/
structure Response where
  hash : String
  code : UInt32
  deriving DecidableEq, Repr

/-- `CommitErrorType`. -/
inductive CommitErrorType
  | invalidAccountSequence
  | unknown
  deriving DecidableEq, Repr

/-- `CommitError`: its type and the response. -/
structure CommitError where
  type : CommitErrorType
  txResponse : Response
  deriving DecidableEq, Repr

/-- The fields of `TxRequest` that `sleep_and_broadcast_tx` reads. -/
structure TxRequest where
  senderId : Nat
  signedTxBytes : List UInt8
  deriving DecidableEq, Repr

/-- A `CommitResultSender`: whether its receiver is still there, so that `send` succeeds. -/
structure CommitResultSender where
  receiverAlive : Bool
  deriving DecidableEq, Repr

/-- `SendBackTxHashResult`. -/
inductive SendBackTxHashResult
  | ok
  | channelClosed
  deriving DecidableEq, Repr

/-- `BroadcastAndSendBackTxHash`; `broadcastTimestamp` is `Instant::now()`, in nanoseconds. -/
structure BroadcastAndSendBackTxHash where
  broadcastTimestamp : Nat
  channelClosed : Option Nat
  deriving DecidableEq, Repr

/-- What the step does that the world sees, in order. -/
inductive Event
  /-- `sleep(duration)`. -/
  | slept (duration : Duration)
  /-- `broadcast_commit` was called on `bytes`. -/
  | committed (bytes : List UInt8)
  /-- The sender registered under `senderId` took `result`. -/
  | delivered (senderId : Nat) (result : Except CommitError String)
  /-- `poll_delivered_tx` was spawned on `hash`. -/
  | polled (hash : String)
  deriving Repr

/-- `sleep_between_txs`: sleep for what is left of the margin since the last signing, if
anything; `elapsed` is `last_signing_timestamp.elapsed()`. -/
def sleepBetweenTxs (betweenTxMarginTime elapsed : Duration) : List Event :=
  let timeLeftSinceLastSigning := betweenTxMarginTime.nanos - elapsed.nanos
  if timeLeftSinceLastSigning ≠ 0 then [.slept ⟨timeLeftSinceLastSigning⟩] else []

/-- What `send_back_tx_hash` sends: the hash for code `0`, and otherwise a `CommitError`. -/
def commitResult (txResponse : Response) : Except CommitError String :=
  if txResponse.code = 0 then .ok txResponse.hash
  else .error ⟨if txResponse.code = 32 then .invalidAccountSequence else .unknown, txResponse⟩

/-- `send_back_tx_hash`; `senders` is `tx_result_senders.get`. A send that succeeds returns
at once; otherwise `poll_delivered_tx` is spawned. -/
def sendBackTxHash (senders : Nat → Option CommitResultSender) (senderId : Nat)
    (txResponse : Response) : List Event × SendBackTxHashResult :=
  match senders senderId with
  | some sender =>
    if sender.receiverAlive then ([.delivered senderId (commitResult txResponse)], .ok)
    else ([.polled txResponse.hash], .channelClosed)
  | none => ([.polled txResponse.hash], .ok)

/-- `broadcast_and_send_back_tx_hash`; `commit` is what `broadcast_commit` returns, the bytes
back on an error, and `now` is `Instant::now()`. -/
def broadcastAndSendBackTxHash (senders : Nat → Option CommitResultSender) (senderId : Nat)
    (signedTxBytes : List UInt8) (commit : Except (List UInt8) Response) (now : Nat) :
    List Event × Except (List UInt8) BroadcastAndSendBackTxHash :=
  match commit with
  | .error bytes => ([.committed signedTxBytes], .error bytes)
  | .ok txResponse =>
    let sent := sendBackTxHash senders senderId txResponse
    (.committed signedTxBytes :: sent.1,
      .ok ⟨now, if sent.2 = .channelClosed then some senderId else none⟩)

/-- `sleep_and_broadcast_tx`: a failed commit gives the request back with the returned
bytes. -/
def sleepAndBroadcastTx (betweenTxMarginTime elapsed : Duration) (txRequest : TxRequest)
    (senders : Nat → Option CommitResultSender) (commit : Except (List UInt8) Response)
    (now : Nat) : List Event × Except TxRequest BroadcastAndSendBackTxHash :=
  let sent := broadcastAndSendBackTxHash senders txRequest.senderId txRequest.signedTxBytes
    commit now
  (sleepBetweenTxs betweenTxMarginTime elapsed ++ sent.1,
    sent.2.mapError fun signedTxBytes => { txRequest with signedTxBytes })

end OraclePriceFeeder.Broadcast
