import Mathlib.Data.List.Defs

/-!
# Building contract transactions in `chain-comms`

`ContractTx` (`chain-comms/src/build_tx/mod.rs`) collects messages for one contract.
`serialize` wraps each message in a `MsgExecuteContract` from the signer to the contract,
encodes it as a protobuf `Any`, and folds the encodings into one list, stopping at the first
that fails; `commit` signs a `Body` of those messages with the given fee, memo and timeout.

`signer::Signer` and `build_tx::error` are not under src/. The signer is its address and its
`sign`, whose answer is the world's, as is whether `ProtobufAny::from_msg` encodes a
message; the libraries' own errors reach no modelled code and are left out.
-/

namespace OraclePriceFeeder.ChainComms.BuildTx

/-- A protobuf `Coin` sent with a message. -/
structure Coin where
  denom : String
  amount : String
  deriving DecidableEq, Repr

/-- `Msg`: a serialized contract message and the funds sent with it. -/
structure Msg where
  message : List UInt8
  funds : List Coin
  deriving DecidableEq, Repr

/-- `ContractTx`: the contract the transaction executes and its messages, in order. -/
structure ContractTx where
  contract : String
  messages : List Msg
  deriving DecidableEq, Repr

/-- `ContractTx::new`. -/
def ContractTx.new (contract : String) : ContractTx :=
  ⟨contract, []⟩

/-- `ContractTx::is_empty`. -/
def ContractTx.isEmpty (tx : ContractTx) : Bool :=
  tx.messages.isEmpty

/-- `ContractTx::add_message`: `push` the message after the others. -/
def ContractTx.addMessage (tx : ContractTx) (message : List UInt8) (funds : List Coin) :
    ContractTx :=
  { tx with messages := tx.messages ++ [⟨message, funds⟩] }

/-- `MsgExecuteContract`. -/
structure MsgExecuteContract where
  sender : String
  contract : String
  msg : List UInt8
  funds : List Coin
  deriving DecidableEq, Repr

/-- `Body::new(messages, memo, timeout_height)`. -/
structure Body (Any : Type) where
  messages : List Any
  memo : String
  timeoutHeight : UInt32
  deriving DecidableEq, Repr

/-- The part of `signer::Signer` that `build_tx` uses: its address, and `sign`, `none` when
signing fails. -/
structure Signer (Any Fee RawTx : Type) where
  signerAddress : String
  sign : Body Any → Fee → Option RawTx

/-- `build_tx::error::Error`, by the call it comes from. -/
inductive Error
  /-- `ProtobufAny::from_msg` failed. -/
  | encode
  /-- `Signer::sign` failed. -/
  | signing
  deriving DecidableEq, Repr

variable {Any Fee RawTx : Type}

/-- The fold of `serialize`, `try_fold(buf, |mut acc, msg| { acc.push(msg?); Ok(acc) })`, over
the encodings (`none` for one that failed). -/
def tryFoldPush : List Any → List (Option Any) → Except Error (List Any)
  | acc, [] => .ok acc
  | _, none :: _ => .error .encode
  | acc, some any :: rest => tryFoldPush (acc ++ [any]) rest

/-- The `MsgExecuteContract` that `serialize` makes of `msg`. -/
def executeContract (signer : Signer Any Fee RawTx) (tx : ContractTx) (msg : Msg) :
    MsgExecuteContract :=
  ⟨signer.signerAddress, tx.contract, msg.message, msg.funds⟩

/-- `ContractTx::serialize`; `fromMsg` is `ProtobufAny::from_msg`. -/
def ContractTx.serialize (tx : ContractTx) (signer : Signer Any Fee RawTx)
    (fromMsg : MsgExecuteContract → Option Any) : Except Error (List Any) :=
  tryFoldPush [] (tx.messages.map fun msg => fromMsg (executeContract signer tx msg))

/-- `ContractTx::commit`: serialize, then sign a body with `memo.unwrap_or_default()` and
`timeout.unwrap_or_default()`. -/
def ContractTx.commit (tx : ContractTx) (signer : Signer Any Fee RawTx)
    (fromMsg : MsgExecuteContract → Option Any) (fee : Fee) (memo : Option String)
    (timeout : Option UInt32) : Except Error RawTx :=
  (tx.serialize signer fromMsg).bind fun messages =>
    match signer.sign ⟨messages, memo.getD "", timeout.getD 0⟩ fee with
    | some raw => .ok raw
    | none => .error .signing

end OraclePriceFeeder.ChainComms.BuildTx
