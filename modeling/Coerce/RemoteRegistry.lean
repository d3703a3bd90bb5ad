import Coerce.Basic

/-!
# Remote registry: `handler.rs`

`Handler<RegisterNodes>` dials the unregistered nodes through `connect_all`, whose `HashMap` keeps
the last answer for each id, and adds the client of every id whose last dial succeeded
(`lastAnswer`). With `SetContext`, `RegisterClient` and `ClientWrite`, the registry actor refines
`ClientDirectory`, a partial function from node id to client (`run_refines_directory`).
-/
namespace Coerce.Registry

/-- `uuid::Uuid`. -/
abbrev Uuid := Nat

/-- The part of `RemoteNode` the handlers read: its address is dialled, and the dial's answer is an
argument. -/
structure RemoteNode where
  id : Uuid
  deriving DecidableEq, Repr

/-- The part of `RemoteRegistry` that `RegisterNodes` reads: the ids `self.nodes.is_registered`
accepts, and the context that `self.context.as_ref().unwrap()` needs. -/
structure RemoteRegistry (X : Type) where
  registeredNodes : List Uuid
  context : Option X
  deriving DecidableEq, Repr

/-- The one panic of the registry: `self.context.as_ref().unwrap()` with no context. -/
inductive RegistryPanic
  | contextUnwrap
  deriving DecidableEq, Repr

variable {X C : Type}

def RemoteRegistry.isRegistered (r : RemoteRegistry X) (id : Uuid) : Bool :=
  id ∈ r.registeredNodes

/-- The map `connect_all` returns: each dialled id with its last dial's client, if any. -/
abbrev Clients (C : Type) := AList fun _ : Uuid => Option C

/-- The `for node in nodes` loop of `connect_all`. `dials` answers the successive
`RemoteClient::connect` calls, with a failure once it runs out; `Ok(client)` inserts
`Some(client)` and `Err(_)` inserts `None`. -/
def connectAllFrom (clients : Clients C) : List RemoteNode → List (Option C) → Clients C
  | [], _ => clients
  | node :: nodes, dials => connectAllFrom (clients.insert node.id (dials.headD none)) nodes dials.tail

def connectAll (nodes : List RemoteNode) (dials : List (Option C)) : Clients C :=
  connectAllFrom ∅ nodes dials

/-- The `add_client` calls of `for (node_id, client) in clients`, in the map's iteration order. -/
def addedClients (clients : Clients C) : List (Uuid × C) :=
  clients.entries.filterMap fun e => e.2.map (e.1, ·)

/-- `Handler<RegisterNodes>`, with the `add_client` calls it makes. -/
def RemoteRegistry.handleRegisterNodes (r : RemoteRegistry X) (nodes : List RemoteNode)
    (dials : List (Option C)) : Except RegistryPanic (List (Uuid × C)) :=
  let unregisteredNodes := nodes.filter fun node => !r.isRegistered node.id
  match r.context with
  | none => .error .contextUnwrap
  | some _ => .ok (addedClients (connectAll unregisteredNodes dials))

/-- The answer of the last dial of a node with id `x`, if `nodes` has one. -/
def lastAnswer (x : Uuid) : List RemoteNode → List (Option C) → Option (Option C)
  | [], _ => none
  | node :: nodes, dials =>
    (lastAnswer x nodes dials.tail).orElse fun _ =>
      if node.id = x then some (dials.headD none) else none

/-- The dial loop leaves under each id the answer of its last dial. -/
theorem connectAllFrom_lookup (x : Uuid) (clients : Clients C) (nodes : List RemoteNode)
    (dials : List (Option C)) :
    (connectAllFrom clients nodes dials).lookup x =
      (lastAnswer x nodes dials).orElse fun _ => clients.lookup x := by
  induction nodes generalizing clients dials with
  | nil => simp [connectAllFrom, lastAnswer]
  | cons node nodes ih =>
    simp only [connectAllFrom, lastAnswer, ih]
    rcases lastAnswer x nodes dials.tail with _ | a
    · by_cases hx : node.id = x
      · simp [hx]
      · simp [hx, AList.lookup_insert_ne (Ne.symm hx)]
    · rfl

theorem mem_addedClients (clients : Clients C) (x : Uuid) (client : C) :
    (x, client) ∈ addedClients clients ↔ clients.lookup x = some (some client) := by
  rw [← Option.mem_def, AList.mem_lookup_iff, addedClients, List.mem_filterMap]
  constructor
  · rintro ⟨⟨y, _ | c⟩, he, h⟩ <;> simp at h
    obtain ⟨rfl, rfl⟩ := h
    exact he
  · exact fun he => ⟨_, he, rfl⟩

/-- The added ids are among the map's keys, in order. -/
theorem addedClients_sublist_keys (clients : List (Σ _ : Uuid, Option C)) :
    List.Sublist ((clients.filterMap fun e => e.2.map (e.1, ·)).map Prod.fst)
      (clients.map Sigma.fst) := by
  induction clients with
  | nil => exact .slnil
  | cons e es ih =>
    rcases e with ⟨y, _ | c⟩
    · exact ih.cons y
    · exact ih.cons₂ y

theorem addedClients_nodup (clients : Clients C) : ((addedClients clients).map Prod.fst).Nodup :=
  (addedClients_sublist_keys clients.entries).nodup clients.keys_nodup

/-- With a context, `add_client` is called once per unregistered id whose last dial succeeded,
with that dial's client, and for no other id. -/
theorem registerNodes_adds_last_dialled (r : RemoteRegistry X) (ctx : X)
    (hctx : r.context = some ctx) (nodes : List RemoteNode) (dials : List (Option C)) :
    ∃ added, r.handleRegisterNodes nodes dials = .ok added ∧ (added.map Prod.fst).Nodup ∧
      ∀ x client, (x, client) ∈ added ↔
        lastAnswer x (nodes.filter fun node => !r.isRegistered node.id) dials = some (some client) := by
  simp only [RemoteRegistry.handleRegisterNodes, hctx]
  refine ⟨_, rfl, addedClients_nodup _, fun x client => ?_⟩
  simp [mem_addedClients, connectAll, connectAllFrom_lookup]

theorem registerNodes_adds_last_dialled_one :
    (⟨[], some ()⟩ : RemoteRegistry Unit).context = some () ∧
      ∃ added, (⟨[], some ()⟩ : RemoteRegistry Unit).handleRegisterNodes
          [⟨1⟩, ⟨2⟩] [some 7, none] = .ok added ∧
        (added.map Prod.fst).Nodup ∧
        ∀ x client, (x, client) ∈ added ↔
          lastAnswer x ([⟨1⟩, ⟨2⟩].filter fun node =>
            !(⟨[], some ()⟩ : RemoteRegistry Unit).isRegistered node.id) [some 7, none] =
              some (some client) :=
  ⟨rfl, registerNodes_adds_last_dialled _ () rfl _ _⟩

/-- Two nodes with one id: the first dial succeeds, the second fails, and the failure's `None`
replaces the client in the map, so `add_client` is never called although a dial of the id
succeeded. -/
theorem registerNodes_drops_client_of_later_failure :
    (⟨[], some ()⟩ : RemoteRegistry Unit).handleRegisterNodes
        [⟨1⟩, ⟨1⟩] [some 7, none] = .ok [] ∧
      (connectAll [⟨1⟩] [some 7]).lookup 1 = some (some 7) ∧
      (connectAll [⟨1⟩, ⟨1⟩] [some 7, none]).lookup 1 =
        some none :=
  ⟨rfl, rfl, rfl⟩

/-- `RemoteRegistry` with its `clients` map, beside the fields `RegisterNodes` reads. Clients are
abstract (`C`). -/
structure RegistryState (X C : Type) extends RemoteRegistry X where
  clients : AList fun _ : Uuid => C

/-- `Handler<SetContext>`. -/
def RegistryState.handleSetContext (r : RegistryState X C) (context : X) : RegistryState X C :=
  { r with context := some context }

/-- Modelled from the spec: `add_client` is not under src/. The registry indexes the client under
its node id, replacing any client held for the id. -/
def RegistryState.addClient (r : RegistryState X C) (nodeId : Uuid) (client : C) :
    RegistryState X C :=
  { r with clients := r.clients.insert nodeId client }

/-- `Handler<RegisterClient<T>>`. -/
def RegistryState.handleRegisterClient (r : RegistryState X C) (nodeId : Uuid) (client : C) :
    RegistryState X C :=
  r.addClient nodeId client

/-- `Handler<RegisterNodes>`: the `add_client` calls of `handleRegisterNodes`, in order. -/
def RegistryState.registerNodes (r : RegistryState X C) (nodes : List RemoteNode)
    (dials : List (Option C)) : Except RegistryPanic (RegistryState X C) :=
  (fun added => added.foldl (fun r p => r.addClient p.1 p.2) r) <$>
    r.toRemoteRegistry.handleRegisterNodes nodes dials

/-- `Handler<ClientWrite>`: `client.send(message)` on the client held for the id, if any. -/
def RegistryState.handleClientWrite (r : RegistryState X C) (clientId : Uuid) (message : M) :
    List (C × M) :=
  match r.clients.lookup clientId with
  | some client => [(client, message)]
  | none => []

/-- The registry's messages; a `RegisterNodes` carries the answers of its dials in `connect_all`. -/
inductive RegistryEvent (X C M : Type)
  | setContext (context : X)
  | registerClient (nodeId : Uuid) (client : C)
  | registerNodes (nodes : List RemoteNode) (dials : List (Option C))
  | clientWrite (clientId : Uuid) (message : M)

def RegistryEvent.handle : RegistryEvent X C M → RegistryState X C →
    Except RegistryPanic (RegistryState X C × List (C × M))
  | .setContext context, r => pure (r.handleSetContext context, [])
  | .registerClient nodeId client, r => pure (r.handleRegisterClient nodeId client, [])
  | .registerNodes nodes dials, r => (·, []) <$> r.registerNodes nodes dials
  | .clientWrite clientId message, r => pure (r, r.handleClientWrite clientId message)

/-- The registry after the messages `es`, one at a time, with every `send`; it stops at the
first panic. -/
def RegistryState.run : List (RegistryEvent X C M) → RegistryState X C →
    Except RegistryPanic (RegistryState X C × List (C × M))
  | [], r => pure (r, [])
  | e :: es, r =>
    match e.handle r with
    | .error p => .error p
    | .ok (r₁, out₁) => (fun x => (x.1, out₁ ++ x.2)) <$> RegistryState.run es r₁

/-- What the registry is for: a directory from node id to client, filled by `RegisterClient` and by
every unregistered node whose last dial succeeded, and read by `ClientWrite`. -/
structure ClientDirectory (X C : Type) where
  registeredNodes : List Uuid
  context : Option X
  clientOf : Uuid → Option C

def RegistryState.directory (r : RegistryState X C) : ClientDirectory X C :=
  ⟨r.registeredNodes, r.context, fun x => r.clients.lookup x⟩

/-- Each unregistered node whose last dial succeeded gets that dial's client; every other id keeps
its client. -/
def ClientDirectory.registerNodes (d : ClientDirectory X C) (nodes : List RemoteNode)
    (dials : List (Option C)) : ClientDirectory X C :=
  { d with clientOf := fun x =>
    match lastAnswer x (nodes.filter fun node => node.id ∉ d.registeredNodes) dials with
    | some (some client) => some client
    | _ => d.clientOf x }

/-- A write reaches the client the directory holds for its id; registering nodes needs the
context. -/
def RegistryEvent.spec : RegistryEvent X C M → ClientDirectory X C →
    Except RegistryPanic (ClientDirectory X C × List (C × M))
  | .setContext context, d => pure ({ d with context := some context }, [])
  | .registerClient nodeId client, d =>
    pure ({ d with clientOf := Function.update d.clientOf nodeId (some client) }, [])
  | .registerNodes nodes dials, d =>
    match d.context with
    | none => throw .contextUnwrap
    | some _ => pure (d.registerNodes nodes dials, [])
  | .clientWrite clientId message, d => pure (d, ((d.clientOf clientId).map (·, message)).toList)

def ClientDirectory.run : List (RegistryEvent X C M) → ClientDirectory X C →
    Except RegistryPanic (ClientDirectory X C × List (C × M))
  | [], d => pure (d, [])
  | e :: es, d =>
    match e.spec d with
    | .error p => .error p
    | .ok (d₁, out₁) => (fun x => (x.1, out₁ ++ x.2)) <$> ClientDirectory.run es d₁

theorem mem_addedClients_connectAll (nodes : List RemoteNode) (dials : List (Option C)) (x : Uuid)
    (client : C) :
    (x, client) ∈ addedClients (connectAll nodes dials) ↔ lastAnswer x nodes dials = some (some client) := by
  simp [mem_addedClients, connectAll, connectAllFrom_lookup]

theorem lookup_foldl_addClient_of_not_mem (added : List (Uuid × C)) (r : RegistryState X C)
    {x : Uuid} (hx : x ∉ added.map Prod.fst) :
    (added.foldl (fun r p => r.addClient p.1 p.2) r).clients.lookup x = r.clients.lookup x := by
  induction added generalizing r with
  | nil => rfl
  | cons p added ih =>
    simp only [List.map_cons, List.mem_cons, not_or] at hx
    rw [List.foldl_cons, ih _ hx.2]
    exact AList.lookup_insert_ne hx.1

theorem lookup_foldl_addClient_of_mem (added : List (Uuid × C)) (r : RegistryState X C)
    (hnd : (added.map Prod.fst).Nodup) {x : Uuid} {client : C} (hx : (x, client) ∈ added) :
    (added.foldl (fun r p => r.addClient p.1 p.2) r).clients.lookup x = some client := by
  induction added generalizing r with
  | nil => cases hx
  | cons p added ih =>
    rw [List.map_cons, List.nodup_cons] at hnd
    rw [List.foldl_cons]
    rcases List.mem_cons.mp hx with rfl | hx
    · rw [lookup_foldl_addClient_of_not_mem _ _ hnd.1]
      exact AList.lookup_insert _
    · exact ih _ hnd.2 hx

theorem foldl_addClient_toRemoteRegistry (added : List (Uuid × C)) (r : RegistryState X C) :
    (added.foldl (fun r p => r.addClient p.1 p.2) r).toRemoteRegistry = r.toRemoteRegistry := by
  induction added generalizing r with
  | nil => rfl
  | cons p added ih => exact ih _

/-- `RegisterNodes` with a context moves the directory as the specification says. -/
theorem registerNodes_directory (r : RegistryState X C) (ctx : X) (hctx : r.context = some ctx)
    (nodes : List RemoteNode) (dials : List (Option C)) :
    ∃ r', r.registerNodes nodes dials = .ok r' ∧
      r'.directory = r.directory.registerNodes nodes dials := by
  have hfilter : (nodes.filter fun node => !r.isRegistered node.id) =
      nodes.filter fun node => node.id ∉ r.registeredNodes := by
    simp [RemoteRegistry.isRegistered]
  simp only [RegistryState.registerNodes, RemoteRegistry.handleRegisterNodes, hctx, hfilter]
  refine ⟨_, rfl, ?_⟩
  have hreg := foldl_addClient_toRemoteRegistry
    (addedClients (connectAll (nodes.filter fun node => node.id ∉ r.registeredNodes) dials)) r
  simp only [RegistryState.directory, ClientDirectory.registerNodes, ClientDirectory.mk.injEq]
  refine ⟨congrArg RemoteRegistry.registeredNodes hreg, congrArg RemoteRegistry.context hreg,
    funext fun x => ?_⟩
  rcases hx : lastAnswer x (nodes.filter fun node => node.id ∉ r.registeredNodes) dials with
    _ | _ | client
  case some.some =>
    exact lookup_foldl_addClient_of_mem _ _ (addedClients_nodup _)
      ((mem_addedClients_connectAll _ _ _ _).mpr hx)
  all_goals
    refine lookup_foldl_addClient_of_not_mem _ _ fun hm => ?_
    obtain ⟨⟨y, c⟩, hmem, rfl⟩ := List.mem_map.mp hm
    rw [(mem_addedClients_connectAll _ _ _ _).mp hmem] at hx
    cases hx

theorem handle_refines_directory (e : RegistryEvent X C M) (r : RegistryState X C) :
    (fun x => (x.1.directory, x.2)) <$> e.handle r = e.spec r.directory := by
  cases e with
  | setContext context => rfl
  | registerClient nodeId client =>
    show Except.ok _ = Except.ok _
    simp [RegistryState.directory, RegistryState.handleRegisterClient, RegistryState.addClient,
      lookup_insert_eq_update]
  | registerNodes nodes dials =>
    rcases hctx : r.context with _ | ctx
    · simp only [RegistryEvent.handle, RegistryEvent.spec, RegistryState.registerNodes,
        RemoteRegistry.handleRegisterNodes, RegistryState.directory, hctx]
      rfl
    · obtain ⟨r', hr, hd⟩ := registerNodes_directory r ctx hctx nodes dials
      simp only [RegistryEvent.handle, RegistryEvent.spec, hr, ← hd,
        show r.directory.context = some ctx from hctx]
      rfl
  | clientWrite clientId message =>
    show Except.ok _ = Except.ok _
    simp only [RegistryState.handleClientWrite, RegistryState.directory]
    split <;> simp_all

/-- The registry refines its directory over every run: it panics where the directory does, and
otherwise makes the same `send` calls and ends with maps that stand for the directory reached.
So a `ClientWrite` reaches the client most recently registered for its id, by `RegisterClient` or
by a `RegisterNodes` whose last dial of the id succeeded, and nothing when there is none. -/
theorem run_refines_directory (es : List (RegistryEvent X C M)) (r : RegistryState X C) :
    (fun x => (x.1.directory, x.2)) <$> r.run es = ClientDirectory.run es r.directory := by
  induction es generalizing r with
  | nil => rfl
  | cons e es ih =>
    rcases he : e.handle r with p | ⟨r₁, out₁⟩
    · have h : e.spec r.directory = .error p := by rw [← handle_refines_directory, he]; rfl
      simp only [RegistryState.run, ClientDirectory.run, he, h]
      rfl
    · have h : e.spec r.directory = .ok (r₁.directory, out₁) := by
        rw [← handle_refines_directory, he]; rfl
      simp only [RegistryState.run, ClientDirectory.run, he, h, ← ih]
      rcases r₁.run es with p | ⟨r', out⟩ <;> rfl

/-- A `RegisterNodes` comes before every `SetContext` of `es`. -/
def registersBeforeContext : List (RegistryEvent X C M) → Bool
  | [] => false
  | .setContext _ :: _ => false
  | .registerNodes _ _ :: _ => true
  | _ :: es => registersBeforeContext es

theorem run_cons_error {e : RegistryEvent X C M} {es : List (RegistryEvent X C M)}
    {r : RegistryState X C} {p : RegistryPanic} :
    r.run (e :: es) = .error p ↔
      e.handle r = .error p ∨ ∃ r₁ out₁, e.handle r = .ok (r₁, out₁) ∧ r₁.run es = .error p := by
  rcases h₁ : e.handle r with q | ⟨r₁, out₁⟩
  · simp [RegistryState.run, h₁]
  · rcases h₂ : r₁.run es with q | ⟨r₂, out₂⟩ <;> simp [RegistryState.run, h₁, h₂]

/-- The registry panics exactly when it has no context and a `RegisterNodes` comes before every
`SetContext`: the context is never cleared, and `RegisterNodes` is the only handler that needs
it. -/
theorem run_panics_iff_registers_before_context (es : List (RegistryEvent X C M))
    (r : RegistryState X C) :
    r.run es = .error .contextUnwrap ↔ r.context = none ∧ registersBeforeContext es := by
  induction es generalizing r with
  | nil => simp [RegistryState.run, registersBeforeContext]
  | cons e es ih =>
    rw [run_cons_error]
    cases e with
    | setContext context =>
      simp [RegistryEvent.handle, RegistryState.handleSetContext, ih, registersBeforeContext]
    | registerNodes nodes dials =>
      rcases hctx : r.context with _ | ctx
      · simp [RegistryEvent.handle, RegistryState.registerNodes, RemoteRegistry.handleRegisterNodes,
          hctx, registersBeforeContext]
      · have hfold := fun added : List (Uuid × C) =>
          congrArg RemoteRegistry.context (foldl_addClient_toRemoteRegistry added r)
        simp [RegistryEvent.handle, RegistryState.registerNodes, RemoteRegistry.handleRegisterNodes,
          hctx, ih, hfold]
    | registerClient _ _ | clientWrite _ _ =>
      simp [RegistryEvent.handle, RegistryState.handleRegisterClient, RegistryState.addClient, ih,
        registersBeforeContext]

end Coerce.Registry
