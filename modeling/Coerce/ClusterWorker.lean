import Coerce.ClientState

/-!
# Cluster worker builder

`start` registers the node at its listen address, discovers its peers through the seed address if
one was given, and starts the server; the seed's dial and the server's start are arguments. Its
effects are a log, kept up to a panic. A worker built by any builder calls does what `startSpec`
says for the last listen address and the last seed address (`start_build`).
-/
namespace Coerce.Worker

open Client (NodeId)

variable {S : Type}

/-- The part of `RemoteActorSystem` that `start` reads. -/
structure RemoteActorSystem where
  nodeId : NodeId
  deriving DecidableEq, Repr

/-- `ClusterWorkerBuilder`; the `ClusterSeed` is abstract (`S`). -/
structure ClusterWorkerBuilder (S : Type) where
  serverListenAddr : String
  seed : Option S
  seedAddr : Option String
  context : RemoteActorSystem
  deriving DecidableEq, Repr

def ClusterWorkerBuilder.new (context : RemoteActorSystem) : ClusterWorkerBuilder S :=
  ⟨"0.0.0.0:30101", none, none, context⟩

def ClusterWorkerBuilder.withSeed (b : ClusterWorkerBuilder S) (seed : S) : ClusterWorkerBuilder S :=
  { b with seed := some seed }

def ClusterWorkerBuilder.withSeedAddr (b : ClusterWorkerBuilder S) (seedAddr : String) :
    ClusterWorkerBuilder S :=
  { b with seedAddr := some seedAddr }

def ClusterWorkerBuilder.listenAddr (b : ClusterWorkerBuilder S) (listenAddr : String) :
    ClusterWorkerBuilder S :=
  { b with serverListenAddr := listenAddr }

/-- The effects of `start` on the system: `context.register_node(RemoteNode::new(node_id, addr))`,
`context.register_client(node_id, client)`, and a `server.start(addr, ctx)` that returned `Ok`. -/
inductive WorkerEffect
  | registerNode (nodeId : NodeId) (addr : String)
  | registerClient (nodeId : NodeId)
  | serverStarted (addr : String)
  deriving DecidableEq, Repr

/-- The `expect`s of `start`: `"failed to connect to seed server"` and `"failed to start server"`. -/
inductive WorkerPanic
  | seedConnect
  | serverStart
  deriving DecidableEq, Repr

/-- `start` and `discover_peers` log their effects and may panic; a panic keeps the effects
already performed. -/
abbrev Starting := ExceptT WorkerPanic (StateM (List WorkerEffect))

def perform (e : WorkerEffect) : Starting Unit := modify (· ++ [e])

/-- `discover_peers`. `seedDial` is what `RemoteClient::connect` to the seed returns: the seed's
node id, or `none` for an error. -/
def ClusterWorkerBuilder.discoverPeers (b : ClusterWorkerBuilder S) (seedDial : Option NodeId) :
    Starting (ClusterWorkerBuilder S) :=
  match b.seedAddr with
  | some seedAddr =>
    match seedDial with
    | some nodeId => do
      perform (.registerNode nodeId seedAddr)
      perform (.registerClient nodeId)
      pure { b with seedAddr := none }
    | none => throw .seedConnect
  | none => pure b

/-- `start`. `serverOk` is whether `server.start` returned `Ok`. -/
def ClusterWorkerBuilder.start (b : ClusterWorkerBuilder S) (seedDial : Option NodeId)
    (serverOk : Bool) : Starting Unit := do
  perform (.registerNode b.context.nodeId b.serverListenAddr)
  let b ← if b.seedAddr.isSome then b.discoverPeers seedDial else pure b
  if serverOk then perform (.serverStarted b.serverListenAddr) else throw .serverStart

/-- A call of the builder between `new` and `start`. -/
inductive BuilderCall (S : Type)
  | withSeed (seed : S)
  | withSeedAddr (seedAddr : String)
  | listenAddr (listenAddr : String)
  deriving DecidableEq, Repr

def BuilderCall.apply : BuilderCall S → ClusterWorkerBuilder S → ClusterWorkerBuilder S
  | .withSeed seed, b => b.withSeed seed
  | .withSeedAddr addr, b => b.withSeedAddr addr
  | .listenAddr addr, b => b.listenAddr addr

/-- `ClusterWorkerBuilder::new(context)` followed by `calls`. -/
def build (context : RemoteActorSystem) (calls : List (BuilderCall S)) : ClusterWorkerBuilder S :=
  calls.foldl (fun b call => call.apply b) (.new context)

def BuilderCall.listenAddr? : BuilderCall S → Option String
  | .listenAddr addr => some addr
  | _ => none

def BuilderCall.seedAddr? : BuilderCall S → Option String
  | .withSeedAddr addr => some addr
  | _ => none

/-- What starting a worker does, with the effects in the order performed: register this node at
the listen address; with a seed address, dial the seed and register it at that address with its
client; then start the server at the listen address. A failed dial or server start panics after
the effects before it. -/
def startSpec (nodeId : NodeId) (listenAddr : String) (seedAddr : Option String)
    (seedDial : Option NodeId) (serverOk : Bool) : Except WorkerPanic Unit × List WorkerEffect :=
  match seedAddr, seedDial, serverOk with
  | some _, none, _ => (.error .seedConnect, [.registerNode nodeId listenAddr])
  | none, _, false => (.error .serverStart, [.registerNode nodeId listenAddr])
  | none, _, true => (.ok (), [.registerNode nodeId listenAddr, .serverStarted listenAddr])
  | some seedAddr, some seedId, false =>
    (.error .serverStart,
      [.registerNode nodeId listenAddr, .registerNode seedId seedAddr, .registerClient seedId])
  | some seedAddr, some seedId, true =>
    (.ok (), [.registerNode nodeId listenAddr, .registerNode seedId seedAddr, .registerClient seedId,
      .serverStarted listenAddr])

theorem start_eq_startSpec (b : ClusterWorkerBuilder S) (seedDial : Option NodeId) (serverOk : Bool) :
    (b.start seedDial serverOk).run.run [] =
      startSpec b.context.nodeId b.serverListenAddr b.seedAddr seedDial serverOk := by
  obtain ⟨listenAddr, seed, seedAddr, context⟩ := b
  cases seedAddr <;> cases seedDial <;> cases serverOk <;> rfl

theorem foldl_apply_serverListenAddr (calls : List (BuilderCall S)) (b : ClusterWorkerBuilder S) :
    (calls.foldl (fun b call => call.apply b) b).serverListenAddr =
      ((calls.filterMap BuilderCall.listenAddr?).getLast?).getD b.serverListenAddr := by
  induction calls generalizing b with
  | nil => rfl
  | cons call calls ih =>
    rw [List.foldl_cons, ih]
    cases call with
    | listenAddr addr =>
      simp only [List.filterMap_cons, BuilderCall.listenAddr?, List.getLast?_cons, Option.getD_some]
      rfl
    | withSeed _ | withSeedAddr _ => simp only [List.filterMap_cons, BuilderCall.listenAddr?]; rfl

theorem foldl_apply_seedAddr (calls : List (BuilderCall S)) (b : ClusterWorkerBuilder S) :
    (calls.foldl (fun b call => call.apply b) b).seedAddr =
      ((calls.filterMap BuilderCall.seedAddr?).getLast?).or b.seedAddr := by
  induction calls generalizing b with
  | nil => rfl
  | cons call calls ih =>
    rw [List.foldl_cons, ih]
    cases call with
    | withSeedAddr addr =>
      simp only [List.filterMap_cons, BuilderCall.seedAddr?, List.getLast?_cons]
      cases (calls.filterMap BuilderCall.seedAddr?).getLast? <;> rfl
    | withSeed _ | listenAddr _ => simp only [List.filterMap_cons, BuilderCall.seedAddr?]; rfl

theorem foldl_apply_context (calls : List (BuilderCall S)) (b : ClusterWorkerBuilder S) :
    (calls.foldl (fun b call => call.apply b) b).context = b.context := by
  induction calls generalizing b with
  | nil => rfl
  | cons call calls ih => cases call <;> exact ih _

/-- Whatever calls build a worker, starting it performs the effects `startSpec` says, up to the
panic it says, for the last listen address (the default `0.0.0.0:30101` if none) and the last
seed address; the seeds given by `with_seed` have no effect. -/
theorem start_build (context : RemoteActorSystem) (calls : List (BuilderCall S))
    (seedDial : Option NodeId) (serverOk : Bool) :
    ((build context calls).start seedDial serverOk).run.run [] =
      startSpec context.nodeId (((calls.filterMap BuilderCall.listenAddr?).getLast?).getD "0.0.0.0:30101")
        (calls.filterMap BuilderCall.seedAddr?).getLast? seedDial serverOk := by
  rw [build, start_eq_startSpec, foldl_apply_serverListenAddr, foldl_apply_seedAddr,
    foldl_apply_context]
  simp [ClusterWorkerBuilder.new]

end Coerce.Worker
