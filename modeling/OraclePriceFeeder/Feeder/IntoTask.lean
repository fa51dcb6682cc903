import OraclePriceFeeder.Feeder.TaskId
import OraclePriceFeeder.Supervisor.Configuration

/-!
# Creating a feeder task

`Id::into_task` (`market-data-feeder/src/task/id.rs`) turns a protocol into its feeder task.
It asks the admin contract for the protocol's network and DEX; takes the client of the DEX
network's node from the task creation context, connecting to the address in the network's
`dex_node_grpc_var` variable when the context has none; and builds the task for the DEX with
the service's durations and the context's gas limit.

The admin contract's `protocol` query, `node::Client::connect` and the two oracle
constructors are not under src/; their answers are the world's, one `Answers` per call. A
node client is kept as the address it connected to, and the context's `BTreeMap` of clients
as its lookup. The task's `transaction_tx` is the one queue sender every task gets and is
left out.

Results:
1. `intoTask_step`: one call keeps every client of the context, adds at most one, for a
   network it had none for and that it connected to, and hands the task the client the
   context then holds for the protocol's network.
2. `intoTasks_connects_once`: over any sequence of calls on one context, each network is
   connected to successfully at most once, never one the context already had a client for,
   and every task holds the client the context holds for its network at the end.
-/

namespace OraclePriceFeeder.Feeder

open Broadcaster (Duration Error)
open Supervisor (Environment Service)

/-- `Id`: the protocol's name. -/
structure Id where
  protocol : String
  deriving DecidableEq, Repr

/-- `ProtocolDex`, with the oracle contract's address of its `ProtocolContracts`. -/
inductive ProtocolDex
  | astroport (oracle routerAddress : String)
  | osmosis (oracle : String)
  deriving DecidableEq, Repr

/-- `contract::Protocol`. -/
structure Protocol where
  network : String
  dex : ProtocolDex
  deriving DecidableEq, Repr

/-- The DEX provider of a task: `Astroport::new(router_address)` or `Osmosis::new()`. -/
inductive Provider
  | astroport (routerAddress : String)
  | osmosis
  deriving DecidableEq, Repr

/-- `Task`, a `Task::Astroport` or `Task::Osmosis` of a `TaskWithProvider`, told apart by its
provider. The clients are the addresses they connected to, `executeTemplate` is the signer's
and the oracle's addresses, and `oracle` the oracle contract's address. -/
structure Task where
  protocol : String
  source : String
  nodeClient : String
  dexNodeClient : String
  durationBeforeStart : Duration
  executeTemplate : String × String
  idleDuration : Duration
  timeoutDuration : Duration
  hardGasLimit : UInt64
  oracle : String
  provider : Provider
  deriving DecidableEq, Repr

/-- `context::ApplicationDefined`, the task creation context: the DEX node clients by
network, and what every task takes from it. -/
structure ApplicationDefined where
  dexNodeClients : String → Option String
  durationBeforeStart : Duration
  gasLimit : UInt64
  updateCurrenciesInterval : Duration

/-- The world's answers to one `into_task`. -/
structure Answers where
  /-- `admin_contract().protocol(&self.protocol)`. -/
  protocol : Except Error Protocol
  /-- `node::Client::connect(address)`. -/
  connect : String → Except Error Unit
  /-- `oracle::Oracle::new(oracle)`, the oracle contract. -/
  contractOracle : Except Error Unit
  /-- `Oracle::new(oracle, update_currencies_interval)`, the feeder's oracle. -/
  feederOracle : Except Error Unit

/-- What `into_task` does that the world sees. -/
inductive Event
  /-- `node::Client::connect(address)` for `network`, and whether it succeeded. -/
  | connected (network address : String) (succeeded : Bool)
  deriving DecidableEq, Repr

/-- `dex_node_clients.insert(network, client)`. -/
def ApplicationDefined.insertClient (ctx : ApplicationDefined) (network client : String) :
    ApplicationDefined :=
  { ctx with dexNodeClients := fun n => if n = network then some client else ctx.dexNodeClients n }

/-- The `dex_node_client` block of `into_task`: the client an occupied entry holds, or, for a
vacant one, a connection to the address that `dex_node_grpc_var(network)` names, put in the
entry once it succeeds; `none` where `dex_node_grpc_var` panics. -/
def dexNodeClient (env : Environment) (connect : String → Except Error Unit)
    (ctx : ApplicationDefined) (network : String) :
    Option (List Event × ApplicationDefined × Except Error String) :=
  match ctx.dexNodeClients network with
  | some client => some ([], ctx, .ok client)
  | none =>
    (dexNodeGrpcVar network).map fun var =>
      match (var.mapError fun message => (⟨[message]⟩ : Error)).bind env.string with
      | .error e => ([], ctx, .error e)
      | .ok address =>
        match connect address with
        | .error e => ([.connected network address false], ctx, .error e)
        | .ok () => ([.connected network address true], ctx.insertClient network address,
            .ok address)

/-- The `TaskWithProvider` of either arm of `into_task`'s last `match`, once
`oracle::Oracle::new(oracle)` and, among the fields, `Oracle::new(oracle, ..)` succeed. -/
def taskWithProvider (id : Id) (service : Service) (signerAddress : String)
    (ctx : ApplicationDefined) (dexNodeClient : String) (answers : Answers) (dexName : String)
    (oracle : String) (provider : Provider) : Except Error Task := do
  answers.contractOracle
  answers.feederOracle
  pure ⟨id.protocol, dexName ++ "; Protocol=" ++ id.protocol, service.nodeGrpcUri,
    dexNodeClient, ctx.durationBeforeStart, (signerAddress, oracle), service.idleDuration,
    service.timeoutDuration, ctx.gasLimit, oracle, provider⟩

/-- The last `match` of `into_task`, on the protocol's DEX. -/
def taskFor (id : Id) (service : Service) (signerAddress : String) (ctx : ApplicationDefined)
    (dexNodeClient : String) (answers : Answers) : ProtocolDex → Except Error Task
  | .astroport oracle routerAddress =>
    taskWithProvider id service signerAddress ctx dexNodeClient answers "Astroport" oracle
      (.astroport routerAddress)
  | .osmosis oracle =>
    taskWithProvider id service signerAddress ctx dexNodeClient answers "Osmosis" oracle .osmosis

/-- `Id::into_task`; `signerAddress` is `service_configuration.signer().address()`. The
context is changed in place, so it is returned whatever the result; `none` where
`dex_node_grpc_var` panics. -/
def intoTask (id : Id) (service : Service) (signerAddress : String) (env : Environment)
    (ctx : ApplicationDefined) (answers : Answers) :
    Option (List Event × ApplicationDefined × Except Error Task) :=
  match answers.protocol with
  | .error e =>
    some ([], ctx, .error (e.context ("Failed to query protocol's information! Protocol=" ++
      id.protocol)))
  | .ok protocol =>
    (dexNodeClient env answers.connect ctx protocol.network).map fun (events, ctx, client) =>
      match client with
      | .error e => (events, ctx, .error e)
      | .ok client =>
        let ctx := ctx.insertClient protocol.network client
        (events, ctx, taskFor id service signerAddress ctx client answers protocol.dex)

/-- Calls of `into_task` one after the other on one context, each with its answers and
whatever the one before returned; `none` once one panics. -/
def intoTasks (service : Service) (signerAddress : String) (env : Environment) :
    ApplicationDefined → List (Id × Answers) →
      Option (List Event × ApplicationDefined × List (Except Error Task))
  | ctx, [] => some ([], ctx, [])
  | ctx, (id, answers) :: calls =>
    (intoTask id service signerAddress env ctx answers).bind fun (events, ctx, result) =>
      (intoTasks service signerAddress env ctx calls).map fun (later, ctx, results) =>
        (events ++ later, ctx, result :: results)

/-- The successful connections among `events`: each network with the address it connected
to. -/
def connections (events : List Event) : List (String × String) :=
  events.filterMap fun | .connected network address true => some (network, address) | _ => none

/-! ## What a call does to the context -/

/-- The context only gains clients: what it holds stays. -/
def Keeps (ctx ctx' : ApplicationDefined) : Prop :=
  ∀ n c, ctx.dexNodeClients n = some c → ctx'.dexNodeClients n = some c

theorem Keeps.refl (ctx : ApplicationDefined) : Keeps ctx ctx := fun _ _ => id

theorem Keeps.trans {ctx ctx' ctx'' : ApplicationDefined} (first : Keeps ctx ctx')
    (second : Keeps ctx' ctx'') : Keeps ctx ctx'' :=
  fun n c held => second n c (first n c held)

/-- What one call does to the context, as `intoTask_step` states it. -/
structure StepSpec (ctx : ApplicationDefined) (answers : Answers) (events : List Event)
    (ctx' : ApplicationDefined) (result : Except Error Task) : Prop where
  same : ctx'.durationBeforeStart = ctx.durationBeforeStart ∧ ctx'.gasLimit = ctx.gasLimit ∧
    ctx'.updateCurrenciesInterval = ctx.updateCurrenciesInterval
  keeps : Keeps ctx ctx'
  added : ∀ n c, ctx'.dexNodeClients n = some c →
    ctx.dexNodeClients n = some c ∨ (n, c) ∈ connections events
  connects : connections events = [] ∨ ∃ n a, connections events = [(n, a)] ∧
    ctx.dexNodeClients n = none ∧ ctx'.dexNodeClients n = some a
  client : ∀ protocol task, answers.protocol = .ok protocol → result = .ok task →
    ctx'.dexNodeClients protocol.network = some task.dexNodeClient

/-- What a run of `into_task` calls does, as `intoTasks_connects_once` states it: the context
keeps its clients; no network is connected to twice, nor one it had a client for, and each
connection's client stays; and every task holds the client of its protocol's network. -/
structure RunSpec (ctx : ApplicationDefined) (calls : List (Id × Answers)) (events : List Event)
    (ctx' : ApplicationDefined) (results : List (Except Error Task)) : Prop where
  keeps : Keeps ctx ctx'
  once : ((connections events).map Prod.fst).Nodup
  fresh : ∀ n a, (n, a) ∈ connections events →
    ctx.dexNodeClients n = none ∧ ctx'.dexNodeClients n = some a
  clients : ∀ call result protocol task, (call, result) ∈ calls.zip results →
    call.2.protocol = .ok protocol → result = .ok task →
      ctx'.dexNodeClients protocol.network = some task.dexNodeClient

namespace IntoTaskLemmas

@[simp] theorem insertClient_dexNodeClients (ctx : ApplicationDefined) (network client n : String) :
    (ctx.insertClient network client).dexNodeClients n =
      if n = network then some client else ctx.dexNodeClients n := rfl

@[simp] theorem connections_nil : connections [] = [] := rfl

@[simp] theorem connections_append (xs ys : List Event) :
    connections (xs ++ ys) = connections xs ++ connections ys :=
  List.filterMap_append _ _ _

@[simp] theorem connections_failed (network address : String) :
    connections [.connected network address false] = [] := rfl

@[simp] theorem connections_succeeded (network address : String) :
    connections [.connected network address true] = [(network, address)] := rfl

theorem keeps_insertClient_of_vacant (ctx : ApplicationDefined) {network : String}
    (vacant : ctx.dexNodeClients network = none) (client : String) :
    Keeps ctx (ctx.insertClient network client) := by
  intro n c held
  by_cases same : n = network
  · subst same; simp_all
  · simp [same, held]

theorem insertClient_of_held {ctx : ApplicationDefined} {network client : String}
    (held : ctx.dexNodeClients network = some client) (n : String) :
    (ctx.insertClient network client).dexNodeClients n = ctx.dexNodeClients n := by
  by_cases same : n = network
  · subst same; simp [held]
  · simp [same]

/-- What the client block can do: hand over the client of an occupied entry; fail before
connecting; fail to connect; or connect and fill the entry. -/
theorem dexNodeClient_cases (env : Environment) (connect : String → Except Error Unit)
    (ctx : ApplicationDefined) (network : String)
    {events : List Event} {ctx' : ApplicationDefined} {client : Except Error String}
    (ran : dexNodeClient env connect ctx network = some (events, ctx', client)) :
    (∃ c, ctx.dexNodeClients network = some c ∧ events = [] ∧ ctx' = ctx ∧ client = .ok c) ∨
    (ctx.dexNodeClients network = none ∧ events = [] ∧ ctx' = ctx ∧ ∃ e, client = .error e) ∨
    (ctx.dexNodeClients network = none ∧ ∃ address e,
      events = [.connected network address false] ∧ ctx' = ctx ∧ client = .error e) ∨
    (ctx.dexNodeClients network = none ∧ ∃ address,
      events = [.connected network address true] ∧
        ctx' = ctx.insertClient network address ∧ client = .ok address) := by
  unfold dexNodeClient at ran
  cases held : ctx.dexNodeClients network with
  | some c =>
    rw [held] at ran
    cases ran
    exact .inl ⟨c, rfl, rfl, rfl, rfl⟩
  | none =>
    rw [held] at ran
    obtain ⟨var, -, ran⟩ := Option.map_eq_some'.mp ran
    refine .inr ?_
    split at ran
    · next e _ =>
      cases ran
      exact .inl ⟨rfl, rfl, rfl, e, rfl⟩
    · next address _ =>
      split at ran
      · next e _ =>
        cases ran
        exact .inr (.inl ⟨rfl, address, e, rfl, rfl, rfl⟩)
      · cases ran
        exact .inr (.inr ⟨rfl, address, rfl, rfl, rfl⟩)

/-- What the client block does to the context: it keeps every client, adds at most the one
it connected to, for a network it had none for, and an `Ok` client is the one the context
then holds for the network. -/
theorem dexNodeClient_spec (env : Environment) (connect : String → Except Error Unit)
    (ctx : ApplicationDefined) (network : String)
    {events : List Event} {ctx' : ApplicationDefined} {client : Except Error String}
    (ran : dexNodeClient env connect ctx network = some (events, ctx', client)) :
    StepSpec ctx ⟨.error ⟨[]⟩, connect, .ok (), .ok ()⟩ events ctx' (.error ⟨[]⟩) ∧
      ∀ c, client = .ok c → ctx'.dexNodeClients network = some c := by
  rcases dexNodeClient_cases env connect ctx network ran with
    ⟨c, held, rfl, rfl, rfl⟩ | ⟨-, rfl, rfl, e, rfl⟩ | ⟨-, address, e, rfl, rfl, rfl⟩ |
      ⟨vacant, address, rfl, rfl, rfl⟩
  · exact ⟨⟨⟨rfl, rfl, rfl⟩, Keeps.refl _, fun _ _ held => .inl held, .inl rfl,
      fun _ _ found => by cases found⟩, fun _ found => by cases found; exact held⟩
  · exact ⟨⟨⟨rfl, rfl, rfl⟩, Keeps.refl _, fun _ _ held => .inl held, .inl rfl,
      fun _ _ found => by cases found⟩, fun _ found => by cases found⟩
  · exact ⟨⟨⟨rfl, rfl, rfl⟩, Keeps.refl _, fun _ _ held => .inl held, .inl rfl,
      fun _ _ found => by cases found⟩, fun _ found => by cases found⟩
  · refine ⟨⟨⟨rfl, rfl, rfl⟩, keeps_insertClient_of_vacant ctx vacant address,
      fun n c held => ?_, .inr ⟨_, _, rfl, vacant, by simp⟩, fun _ _ found => by cases found⟩,
      fun _ found => by cases found; simp⟩
    by_cases same : n = network
    · subst same; simp_all
    · simp_all

/-- How a call of `into_task` goes: the query fails; or the client block fails; or it hands
over a client, which the context then holds again, and the task is built with it. -/
theorem intoTask_cases (id : Id) (service : Service) (signerAddress : String)
    (env : Environment) (ctx : ApplicationDefined) (answers : Answers)
    {events : List Event} {ctx' : ApplicationDefined} {result : Except Error Task}
    (ran : intoTask id service signerAddress env ctx answers = some (events, ctx', result)) :
    (∃ e, answers.protocol = .error e ∧ events = [] ∧ ctx' = ctx ∧ ∃ e', result = .error e') ∨
    (∃ protocol e, answers.protocol = .ok protocol ∧
      dexNodeClient env answers.connect ctx protocol.network = some (events, ctx', .error e) ∧
        result = .error e) ∨
    (∃ protocol ctx₀ client, answers.protocol = .ok protocol ∧
      dexNodeClient env answers.connect ctx protocol.network = some (events, ctx₀, .ok client) ∧
        ctx' = ctx₀.insertClient protocol.network client ∧
        result = taskFor id service signerAddress ctx' client answers protocol.dex) := by
  unfold intoTask at ran
  cases queried : answers.protocol with
  | error e =>
    rw [queried] at ran
    cases ran
    exact .inl ⟨e, rfl, rfl, rfl, _, rfl⟩
  | ok protocol =>
    rw [queried] at ran
    obtain ⟨⟨events₀, ctx₀, client⟩, block, ran⟩ := Option.map_eq_some'.mp ran
    cases client with
    | error e =>
      simp only [Prod.mk.injEq] at ran
      obtain ⟨rfl, rfl, rfl⟩ := ran
      exact .inr (.inl ⟨protocol, e, rfl, block, rfl⟩)
    | ok client =>
      simp only [Prod.mk.injEq] at ran
      obtain ⟨rfl, rfl, rfl⟩ := ran
      exact .inr (.inr ⟨protocol, ctx₀, client, rfl, block, rfl, rfl⟩)

theorem taskWithProvider_eq_ok (id : Id) (service : Service) (signerAddress : String)
    (ctx : ApplicationDefined) (client : String) (answers : Answers) (dexName oracle : String)
    (provider : Provider) (task : Task) :
    taskWithProvider id service signerAddress ctx client answers dexName oracle provider =
        .ok task ↔
      answers.contractOracle = .ok () ∧ answers.feederOracle = .ok () ∧
        task = ⟨id.protocol, dexName ++ "; Protocol=" ++ id.protocol, service.nodeGrpcUri,
          client, ctx.durationBeforeStart, (signerAddress, oracle), service.idleDuration,
          service.timeoutDuration, ctx.gasLimit, oracle, provider⟩ := by
  unfold taskWithProvider
  cases answers.contractOracle <;> cases answers.feederOracle <;>
    simp [bind, Except.bind, pure, Except.pure, eq_comm]

/-- What a task takes from where: the protocol, the service's node and durations, the
context's time before start and gas limit, the client handed over, and a source naming the
DEX and the protocol. -/
theorem taskFor_fields (id : Id) (service : Service) (signerAddress : String)
    (ctx : ApplicationDefined) (client : String) (answers : Answers) (dex : ProtocolDex)
    {task : Task} (built : taskFor id service signerAddress ctx client answers dex = .ok task) :
    task.protocol = id.protocol ∧ task.nodeClient = service.nodeGrpcUri ∧
      task.dexNodeClient = client ∧ task.durationBeforeStart = ctx.durationBeforeStart ∧
      task.idleDuration = service.idleDuration ∧
      task.timeoutDuration = service.timeoutDuration ∧ task.hardGasLimit = ctx.gasLimit ∧
      (task.source = "Astroport; Protocol=" ++ id.protocol ∨
        task.source = "Osmosis; Protocol=" ++ id.protocol) := by
  cases dex <;> simp only [taskFor, taskWithProvider_eq_ok] at built <;> simp [built]

end IntoTaskLemmas

open IntoTaskLemmas

variable (service : Service) (signerAddress : String) (env : Environment)

/-! ## One call -/

/-- One call of `into_task`, whatever the world answers: it keeps every client the context
had and the rest of the context; it adds at most one client, for a network it had none for,
and only one it connected to; and the task it makes holds the client the context then holds
for the protocol's network. -/
theorem intoTask_step (id : Id) (ctx : ApplicationDefined) (answers : Answers)
    {events : List Event} {ctx' : ApplicationDefined} {result : Except Error Task}
    (ran : intoTask id service signerAddress env ctx answers = some (events, ctx', result)) :
    StepSpec ctx answers events ctx' result := by
  rcases intoTask_cases id service signerAddress env ctx answers ran with
    ⟨e, -, rfl, rfl, e', rfl⟩ | ⟨protocol, e, -, block, rfl⟩ |
      ⟨protocol, ctx₀, client, queried, block, rfl, rfl⟩
  · exact ⟨⟨rfl, rfl, rfl⟩, Keeps.refl _, fun _ _ held => .inl held, .inl rfl,
      fun _ _ _ done => by cases done⟩
  · obtain ⟨⟨same, keeps, added, connects, -⟩, -⟩ :=
      dexNodeClient_spec env answers.connect ctx protocol.network block
    exact ⟨same, keeps, added, connects, fun _ _ _ done => by cases done⟩
  · obtain ⟨⟨same, keeps, added, connects, -⟩, held⟩ :=
      dexNodeClient_spec env answers.connect ctx protocol.network block
    have again := insertClient_of_held (held client rfl)
    refine ⟨same, fun n c found => by rw [again]; exact keeps n c found,
      fun n c found => added n c (by rwa [again] at found), ?_, fun p task found built => ?_⟩
    · simpa only [again] using connects
    · rw [queried] at found
      cases found
      rw [(taskFor_fields _ _ _ _ _ _ _ built).2.2.1, again]
      exact held client rfl

/-! ## A run of calls -/

/-- Over any sequence of calls of `into_task` on one context, from any context and whatever
the world answers: the context keeps every client it had; no network is connected to
successfully twice, nor one the context had a client for, and the context holds at the end
the client each connection made; and every task holds the client the context holds at the
end for its protocol's network. -/
theorem intoTasks_connects_once (ctx : ApplicationDefined) (calls : List (Id × Answers))
    {events : List Event} {ctx' : ApplicationDefined} {results : List (Except Error Task)}
    (ran : intoTasks service signerAddress env ctx calls = some (events, ctx', results)) :
    RunSpec ctx calls events ctx' results := by
  induction calls generalizing ctx events ctx' results with
  | nil =>
    cases ran
    exact ⟨Keeps.refl _, by simp, by simp, by simp⟩
  | cons call calls ih =>
    obtain ⟨⟨events₁, ctx₁, result⟩, first, ran⟩ := Option.bind_eq_some.mp ran
    obtain ⟨⟨later, ctx₂, results₂⟩, run, ran⟩ := Option.map_eq_some'.mp ran
    simp only [Prod.mk.injEq] at ran
    obtain ⟨rfl, rfl, rfl⟩ := ran
    have step := intoTask_step service signerAddress env call.1 ctx call.2 first
    obtain ⟨keeps, once, fresh, clients⟩ := ih ctx₁ run
    refine ⟨step.keeps.trans keeps, ?_, fun n a found => ?_, fun call' r p task found => ?_⟩
    · rw [connections_append, List.map_append, List.nodup_append]
      rcases step.connects with none | ⟨n, a, single, -, held⟩
      · simp [none, once]
      · refine ⟨by simp [single], once, ?_⟩
        rw [single]
        intro m here there
        rw [List.map_singleton, List.mem_singleton] at here
        subst here
        obtain ⟨⟨_, b⟩, connected, rfl⟩ := List.mem_map.mp there
        simp [(fresh _ b connected).1] at held
    · rw [connections_append, List.mem_append] at found
      rcases found with found | found
      · rcases step.connects with none | ⟨m, b, single, vacant, held⟩
        · simp [none] at found
        · rw [single, List.mem_singleton, Prod.mk.injEq] at found
          obtain ⟨rfl, rfl⟩ := found
          exact ⟨vacant, keeps _ _ held⟩
      · obtain ⟨vacant, held⟩ := fresh n a found
        refine ⟨?_, held⟩
        cases had : ctx.dexNodeClients n with
        | none => rfl
        | some c => simp [step.keeps n c had] at vacant
    · rw [List.zip_cons_cons, List.mem_cons] at found
      rcases found with same | found
      · simp only [Prod.mk.injEq] at same
        obtain ⟨rfl, rfl⟩ := same
        exact fun queried built => keeps _ _ (step.client p task queried built)
      · exact clients call' r p task found

/-- Two protocols on one network the context has no client for: the first call connects, once,
to the address the network's variable names, and the second reuses that client. -/
theorem intoTasks_cached_network :
    let service : Service :=
      ⟨"node-grpc", "unls", ⟨1, 1, 1, 1⟩, "nolus1admin", ⟨0⟩, ⟨0⟩, ⟨0⟩, ⟨0⟩, ⟨0⟩⟩
    let env : Environment := ⟨fun _ => .ok "osmosis-grpc", fun _ => .error ⟨[]⟩,
      fun _ => .error ⟨[]⟩⟩
    let ctx : ApplicationDefined := ⟨fun _ => none, ⟨0⟩, 100, ⟨0⟩⟩
    let answers : Answers :=
      ⟨.ok ⟨"osmosis", .osmosis "nolus1oracle"⟩, fun _ => .ok (), .ok (), .ok ()⟩
    let calls : List (Id × Answers) := [(⟨"OSMOSIS"⟩, answers), (⟨"ATOM"⟩, answers)]
    ∃ events ctx' results,
      intoTasks service "nolus1signer" env ctx calls = some (events, ctx', results) ∧
        connections events = [("osmosis", "osmosis-grpc")] ∧
        RunSpec ctx calls events ctx' results := by
  intro service env ctx answers calls
  have var : dexNodeGrpcVar "osmosis" = some (.ok "OSMOSIS__NODE_GRPC") :=
    (dexNodeGrpcVar_of_ascii _ (by decide)).trans rfl
  obtain ⟨ctx', results, ran⟩ : ∃ ctx' results, intoTasks service "nolus1signer" env ctx calls =
      some ([.connected "osmosis" "osmosis-grpc" true], ctx', results) := by
    simp [calls, answers, intoTasks, intoTask, dexNodeClient, ctx, var, env,
      ApplicationDefined.insertClient, Except.mapError, Except.bind, taskFor, taskWithProvider]
  exact ⟨_, ctx', results, ran, rfl, intoTasks_connects_once service "nolus1signer" env ctx calls ran⟩

end OraclePriceFeeder.Feeder
