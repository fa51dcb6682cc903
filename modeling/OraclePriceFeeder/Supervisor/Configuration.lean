import OraclePriceFeeder.Broadcaster.Basic

/-!
# The service's configuration

`Service::read_from_env` (`libraries/supervisor/src/configuration.rs`) reads the service's
configuration from the environment and sets up what it needs, in order: the node's gRPC URI
and a connection to it; the signing key, derived from the mnemonic; the fee token's
denominator and the gas and fee configuration, for `Signer::new`; the admin contract's
address, checked on chain; and five durations, four in seconds and the broadcast retry delay
in milliseconds. Each read puts its own context on its error; the first step that fails ends
the setup.

`environment::ReadFromVar`, `node::Client`, `key`, `Signer::new` and the admin contract's
`check` are not under src/. What a variable reads as, as each type parses it, and the answers
of the connection, the key derivation, `Signer::new` and the check, are the world's. The node
client, the signer and the admin contract are kept as what they were made from; the signing
key is left out.
-/

namespace OraclePriceFeeder.Broadcaster

/-- `Duration::from_secs`. -/
def Duration.fromSecs (secs : UInt64) : Duration :=
  ⟨secs.toNat * 1000000000⟩

/-- `Duration::from_millis`. -/
def Duration.fromMillis (millis : UInt64) : Duration :=
  ⟨millis.toNat * 1000000⟩

end OraclePriceFeeder.Broadcaster

namespace OraclePriceFeeder.Supervisor

open Broadcaster (Duration Error)

/-- Modelled from the spec (§6): `GasAndFeeConfiguration`, the gas price and gas adjustment
ratios. -/
structure GasAndFeeConfiguration where
  gasPriceNumerator : Nat
  gasPriceDenominator : Nat
  gasAdjustmentNumerator : Nat
  gasAdjustmentDenominator : Nat
  deriving DecidableEq, Repr

/-- The environment as `ReadFromVar::read_from_var` reads it, for each type read: a variable's
value, or the error of a variable that is missing or does not parse. -/
structure Environment where
  string : String → Except Error String
  u64 : String → Except Error UInt64
  gasAndFeeConfiguration : String → Except Error GasAndFeeConfiguration

/-- The world's answers to the setup steps of `read_from_env`. -/
structure Startup where
  /-- `node::Client::connect(uri)`. -/
  connect : String → Except Error Unit
  /-- `key::derive_from_mnemonic(mnemonic, "")`. -/
  deriveFromMnemonic : String → Except Error Unit
  /-- `Signer::new(client, key, fee_token_denominator, gas_and_fee_configuration)`. -/
  signerNew : String → GasAndFeeConfiguration → Except Error Unit
  /-- `UncheckedContract::admin(.., Address::new(address)).check()`. -/
  adminCheck : String → Except Error Unit

/-- `Service`; `node_client`, `signer` and `admin_contract` are kept as the URI, the fee
token's denominator and gas and fee configuration, and the address they were made from. -/
structure Service where
  nodeGrpcUri : String
  feeTokenDenominator : String
  gasAndFeeConfiguration : GasAndFeeConfiguration
  adminContractAddress : String
  idleDuration : Duration
  timeoutDuration : Duration
  balanceReporterIdleDuration : Duration
  broadcastDelayDuration : Duration
  broadcastRetryDelayDuration : Duration
  deriving DecidableEq, Repr

/-! ## The reads -/

/-- A `read_*` of `Service`: `T::read_from_var(name).context(context)`. -/
def readVar {α : Type} (read : String → Except Error α) (name context : String) :
    Except Error α :=
  (read name).mapError (·.context context)

/-- `Service::read_node_grpc_uri`. -/
def readNodeGrpcUri (env : Environment) : Except Error String :=
  readVar env.string "NODE_GRPC_URI" "Failed to read node's gRPC URI!"

/-- `Service::read_signing_key_mnemonic`; `Zeroizing::new` keeps the value. -/
def readSigningKeyMnemonic (env : Environment) : Except Error String :=
  readVar env.string "SIGNING_KEY_MNEMONIC" "Failed to read signing key's mnemonic!"

/-- `Service::read_fee_token_denominator`. -/
def readFeeTokenDenominator (env : Environment) : Except Error String :=
  readVar env.string "FEE_TOKEN_DENOM" "Failed to read fee token's denominator!"

/-- `Service::read_gas_and_fee_configuration`. -/
def readGasAndFeeConfiguration (env : Environment) : Except Error GasAndFeeConfiguration :=
  readVar env.gasAndFeeConfiguration "GAS_FEE_CONF" "Failed to read gas and fee configuration!"

/-- `Service::read_admin_contract_address`. -/
def readAdminContractAddress (env : Environment) : Except Error String :=
  readVar env.string "ADMIN_CONTRACT_ADDRESS" "Failed to read admin contract's address"

/-- A duration read of `Service`: `u64::read_from_var(name).map(unit).context(context)`. -/
def readDuration (env : Environment) (name : String) (unit : UInt64 → Duration)
    (context : String) : Except Error Duration :=
  ((env.u64 name).map unit).mapError (·.context context)

/-- `Service::read_idle_duration`. -/
def readIdleDuration (env : Environment) : Except Error Duration :=
  readDuration env "IDLE_DURATION_SECONDS" .fromSecs "Failed to read idle period duration!"

/-- `Service::read_timeout_duration`. -/
def readTimeoutDuration (env : Environment) : Except Error Duration :=
  readDuration env "TIMEOUT_DURATION_SECONDS" .fromSecs "Failed to read timeout period duration!"

/-- `Service::read_balance_reporter_idle_duration`. -/
def readBalanceReporterIdleDuration (env : Environment) : Except Error Duration :=
  readDuration env "BALANCE_REPORTER_IDLE_DURATION_SECONDS" .fromSecs
    "Failed to read between balance reporter idle delay period duration!"

/-- `Service::read_broadcast_delay_duration`. -/
def readBroadcastDelayDuration (env : Environment) : Except Error Duration :=
  readDuration env "BROADCAST_DELAY_DURATION_SECONDS" .fromSecs
    "Failed to read between broadcast delay period duration!"

/-- `Service::read_broadcast_retry_delay_duration`, the one duration in milliseconds. -/
def readBroadcastRetryDelayDuration (env : Environment) : Except Error Duration :=
  readDuration env "BROADCAST_RETRY_DELAY_DURATION_MILLISECONDS" .fromMillis
    "Failed to read between broadcast retries delay period duration!"

/-- `Service::derive_signing_key`: the mnemonic's read returns early with `?`, so only the
derivation's error gets the derivation's context. -/
def deriveSigningKey (env : Environment) (startup : Startup) : Except Error Unit := do
  let mnemonic ← readSigningKeyMnemonic env
  (startup.deriveFromMnemonic mnemonic).mapError
    (·.context "Failed to derive signing key from mnemonic!")

/-- `Service::read_from_env`. -/
def Service.readFromEnv (env : Environment) (startup : Startup) : Except Error Service := do
  let nodeGrpcUri ← readNodeGrpcUri env
  (startup.connect nodeGrpcUri).mapError (·.context "Failed to connect to node's gRPC!")
  deriveSigningKey env startup
  let feeTokenDenominator ← readFeeTokenDenominator env
  let gasAndFeeConfiguration ← readGasAndFeeConfiguration env
  startup.signerNew feeTokenDenominator gasAndFeeConfiguration
  let adminContractAddress ← readAdminContractAddress env
  startup.adminCheck adminContractAddress
  let idleDuration ← readIdleDuration env
  let timeoutDuration ← readTimeoutDuration env
  let balanceReporterIdleDuration ← readBalanceReporterIdleDuration env
  let broadcastDelayDuration ← readBroadcastDelayDuration env
  let broadcastRetryDelayDuration ← readBroadcastRetryDelayDuration env
  pure ⟨nodeGrpcUri, feeTokenDenominator, gasAndFeeConfiguration, adminContractAddress,
    idleDuration, timeoutDuration, balanceReporterIdleDuration, broadcastDelayDuration,
    broadcastRetryDelayDuration⟩

end OraclePriceFeeder.Supervisor
