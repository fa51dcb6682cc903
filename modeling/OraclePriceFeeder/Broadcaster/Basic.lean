import Mathlib.Data.UInt

/-!
# The broadcaster's data

The state of `Broadcast` (`libraries/broadcaster/src/lib.rs`), the package a task hands it,
and the answers of the world it talks to: the node that simulates and broadcasts, the
expiration policy that races the broadcast, and the channel it receives packages from.

`chain_ops::signer::Signer` is not under src/. The broadcaster uses four of its operations,
which are modelled from the spec (§4.2): signing reads the sequence number,
`increment_sequence_number` adds one to it, `fetch_sequence_number` overwrites it with the
node's value, and `sequence_number` reads it. Whether a signing or a fetch succeeds is the
world's answer, as is everything the node and the expiration policy return.

Durations only reach `sleep`, so they stay opaque; `source` only reaches the logs and is
left out of `TxPackage`.
-/

namespace OraclePriceFeeder.Broadcaster

/-- `chain_ops::signer::Gas`. -/
abbrev Gas := UInt64

/-- A `Duration` handed to `sleep`, in nanoseconds. -/
structure Duration where
  nanos : Nat
  deriving DecidableEq, Repr

/-- A transaction body: the contract messages it carries, opaque to the broadcaster. -/
structure TxBody where
  messages : List String
  deriving DecidableEq, Repr

/-- The fields of a `TxResponse` the broadcaster reads: its `code`; `txhash` tells
responses apart. -/
structure TxResponse where
  txhash : String
  code : UInt32
  deriving DecidableEq, Repr

/-- `SIGNATURE_VERIFICATION_ERROR_CODE`. -/
def signatureVerificationErrorCode : UInt32 := 32

@[simp] theorem signatureVerificationErrorCode_eq : signatureVerificationErrorCode = 32 := rfl

/-- The test in front of `increment_sequence_number`: `tx_code.is_ok()` (code `0`) or
`tx_code.value() == SIGNATURE_VERIFICATION_ERROR_CODE`. -/
def TxResponse.admitted (r : TxResponse) : Bool :=
  r.code == 0 || r.code == signatureVerificationErrorCode

/-- An `anyhow::Error`: the contexts put on it, the outermost first. -/
structure Error where
  contexts : List String
  deriving DecidableEq, Repr

/-- `.context(message)`. -/
def Error.context (e : Error) (message : String) : Error :=
  ⟨message :: e.contexts⟩

/-- A signing request: `tx(body, gas_limit)` or
`tx_with_gas_adjustment(body, gas, hard_gas_limit)`. -/
inductive Signing
  | tx (body : TxBody) (gasLimit : Gas)
  | txWithGasAdjustment (body : TxBody) (gas : Gas) (hardGasLimit : Gas)
  deriving DecidableEq, Repr

/-- Modelled from the spec: a signed transaction (`RawTx`), the request it was signed for,
stamped with the sequence number the signer held. -/
structure RawTx where
  signing : Signing
  sequenceNumber : UInt64
  deriving DecidableEq, Repr

/-- Modelled from the spec: the part of `chain_ops::signer::Signer` the broadcaster reads
and writes, the account's sequence number. -/
structure Signer where
  sequenceNumber : UInt64
  deriving DecidableEq, Repr

namespace Signer

/-- Modelled from the spec: signing stamps the current sequence number and leaves it as it
is; `ok` is whether the signing succeeds. -/
def sign (s : Signer) (request : Signing) (ok : Bool) : Except Error RawTx :=
  if ok then .ok ⟨request, s.sequenceNumber⟩ else .error ⟨[]⟩

/-- `Signer::tx`. -/
def tx (s : Signer) (body : TxBody) (gasLimit : Gas) (ok : Bool) : Except Error RawTx :=
  s.sign (.tx body gasLimit) ok

/-- `Signer::tx_with_gas_adjustment`. -/
def txWithGasAdjustment (s : Signer) (body : TxBody) (gas hardGasLimit : Gas) (ok : Bool) :
    Except Error RawTx :=
  s.sign (.txWithGasAdjustment body gas hardGasLimit) ok

/-- Modelled from the spec: `increment_sequence_number`, `+= 1` on the `u64`. -/
def incrementSequenceNumber (s : Signer) : Signer :=
  ⟨s.sequenceNumber + 1⟩

/-- Modelled from the spec: `fetch_sequence_number` overwrites the counter with the value
the node returns; when the query fails the signer keeps its counter. -/
def fetchSequenceNumber (_ : Signer) : Option UInt64 → Except Error Signer
  | some value => .ok ⟨value⟩
  | none => .error ⟨[]⟩

end Signer

/-- `TxPackage<Expiration>`. The `feedback_sender` is the `delivered` event of a run. -/
structure TxPackage (Expiration : Type) where
  txBody : TxBody
  hardGasLimit : Gas
  fallbackGas : Gas
  expiration : Expiration
  deriving DecidableEq, Repr

/-- What `expiration.with_expiration(self.client.sync(raw_tx))` resolves to. -/
inductive BroadcastResult
  /-- `Err(_)`: the package expired first. -/
  | expired
  /-- `Ok(Err(_))`: a transport-level error, with no code at all. -/
  | failed
  /-- `Ok(Ok(response))`. -/
  | response (r : TxResponse)
  deriving DecidableEq, Repr

/-- The world's answers to the calls of one pass of `'broadcast_loop`, in the order the
pass makes them. An answer the pass does not ask for is not used. -/
structure Attempt where
  /-- Signing the simulation transaction succeeds. -/
  simulationSigned : Bool
  /-- `self.client.simulate(..)`: the estimated gas, or `none` for an error. -/
  simulation : Option Gas
  /-- Signing the transaction to broadcast succeeds. -/
  signed : Bool
  broadcast : BroadcastResult
  /-- What `fetch_sequence_number` gets from the node, should the pass call it; `none`
  makes the call fail. -/
  fetched : Option UInt64
  deriving DecidableEq, Repr

/-- `Broadcast`: the signer it holds, its two delays and `consecutive_errors`. The client
and the receiver are the world, whose answers are `Attempt`s and received packages. -/
structure Broadcast where
  signer : Signer
  delayDuration : Duration
  retryDelayDuration : Duration
  consecutiveErrors : UInt8
  deriving DecidableEq, Repr

/-- `Broadcast::new`. -/
def Broadcast.new (signer : Signer) (delayDuration retryDelayDuration : Duration) :
    Broadcast :=
  ⟨signer, delayDuration, retryDelayDuration, 0⟩

/-- What a run does that the world sees, in order. -/
inductive Event (Expiration : Type)
  /-- `self.transaction_rx.recv()` returned a package. -/
  | received (package : TxPackage Expiration)
  /-- `self.client.simulate(tx)`, and the gas it returned. -/
  | simulated (tx : RawTx) (gas : Option Gas)
  /-- `tx` was broadcast under `expiration`, with this outcome. -/
  | broadcast (tx : RawTx) (expiration : Expiration) (result : BroadcastResult)
  /-- `fetch_sequence_number` was called and got `value` (`none`: it failed). -/
  | fetched (value : Option UInt64)
  /-- `feedback_sender.send(response)`. -/
  | delivered (response : TxResponse)
  /-- `sleep(duration)`. -/
  | slept (duration : Duration)
  deriving DecidableEq, Repr

end OraclePriceFeeder.Broadcaster
