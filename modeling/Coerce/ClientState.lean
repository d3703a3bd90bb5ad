import Coerce.Basic

/-!
# Remote client: data model

The per-peer `RemoteClient` actor of `coerce/src/remote/net/client`: its state, `Idle`,
`Quarantined` or `Connected`, sits in an `Option` that `Handler<Disconnected>` takes and restores.
A handler returns the client and its effects, or the panic it hit; the sink of a connection is
the answers of its sends, which the caller supplies.
-/
namespace Coerce.Client

abbrev NodeId := UInt64

abbrev Timestamp := Int

abbrev Bytes := List UInt8

/-- A one-shot `Sender` the client holds, named by the waiter it answers. -/
abbrev Callback := Nat

structure RemoteNode where
  id : NodeId
  addr : String
  tag : String
  nodeStartedAt : Option Timestamp
  deriving DecidableEq, Repr

structure NodeIdentity where
  node : RemoteNode
  deriving DecidableEq, Repr

structure HandshakeAcknowledge where
  nodeId : NodeId
  nodeTag : String
  deriving DecidableEq, Repr

inductive HandshakeStatus
  | none
  | acknowledged (ack : HandshakeAcknowledge)
  deriving DecidableEq, Repr

structure ConnectionState where
  identity : NodeIdentity
  handshake : HandshakeStatus
  deriving DecidableEq, Repr

inductive ClientState
  | idle (connectionAttempts : UInt32)
  | quarantined (since : Timestamp) (connectionAttempts : UInt32)
  | connected (state : ConnectionState)
  deriving DecidableEq, Repr

inductive ClientType
  | client
  | worker
  deriving DecidableEq, Repr

inductive RemoteClientErr
  | encoding
  | streamErr
  deriving DecidableEq, Repr

/-- `proto::SessionHandshake` as `BeginHandshake` fills it in. -/
structure SessionHandshake where
  nodeId : NodeId
  nodeTag : String
  token : Bytes
  clientType : ClientType
  traceId : String
  nodes : List RemoteNode
  deriving DecidableEq, Repr

inductive Frame
  | data (bytes : Bytes)
  | handshake (handshake : SessionHandshake)
  deriving DecidableEq, Repr

/-- What a handler does outside the client: a frame the sink accepted (`write_bytes` returned
`Ok`), a callback answered, `ClientConnected { addr, remote_node_id, .. }` sent to the client
registry, the task spawned that sleeps `RECONNECT_DELAY` and sends `Connect`, and the reply of
`Handler<Write<M>>`. -/
inductive ClientEffect
  | sent (frame : Frame)
  | identified (callback : Callback) (identity : Option NodeIdentity)
  | handshakeAcknowledged (callback : Callback)
  | clientConnected (addr : String) (remoteNodeId : NodeId)
  | reconnectScheduled
  | writeResult (result : Except RemoteClientErr Unit)
  deriving DecidableEq, Repr

/-- The panics of the handlers: `unwrap` on a taken state, the `expect` of the handshake write,
the `unwrap` of the handshake's encoding, and two overflow checks of a debug build. -/
inductive ClientPanic
  | stateUnwrap
  | writeHandshake
  | encodeHandshake
  | attemptsOverflow
  | bytesTotalUnderflow
  deriving DecidableEq, Repr

/-- The fields of `RemoteClient` its handlers read and write. The byte counter is a `Nat`: the
buffered bytes are taken to fit in `usize`. -/
structure RemoteClient where
  addr : String
  clientType : ClientType
  state : Option ClientState
  writeBuffer : List Bytes
  writeBufferBytesTotal : Nat
  onIdentifiedCallbacks : List Callback
  onHandshakeAckCallbacks : List Callback
  deriving DecidableEq, Repr

abbrev Handled := Except ClientPanic (RemoteClient × List ClientEffect)

/-- Modelled from the spec: `RemoteClient::new` is not under src/. A client starts `Idle` with
no attempts, an empty write buffer and no waiters. -/
def RemoteClient.new (addr : String) (clientType : ClientType) : RemoteClient :=
  ⟨addr, clientType, some (.idle 0), [], 0, [], []⟩

def ClientState.isConnected : ClientState → Bool
  | .connected _ => true
  | _ => false

def RemoteClient.isConnected (c : RemoteClient) : Bool := (c.state.map ClientState.isConnected).getD false

@[simp] theorem isConnected_connected (cs : ConnectionState) :
    (ClientState.connected cs).isConnected = true := rfl

@[simp] theorem isConnected_idle (n : UInt32) : (ClientState.idle n).isConnected = false := rfl

@[simp] theorem isConnected_quarantined (since : Timestamp) (n : UInt32) :
    (ClientState.quarantined since n).isConnected = false := rfl

@[simp] theorem isConnected_mk (addr : String) (clientType : ClientType) (state : Option ClientState)
    (writeBuffer : List Bytes) (total : Nat) (identified handshake : List Callback) :
    (RemoteClient.mk addr clientType state writeBuffer total identified handshake).isConnected =
      (state.map ClientState.isConnected).getD false := rfl

@[simp] theorem getD_map_isConnected (c : RemoteClient) :
    (c.state.map ClientState.isConnected).getD false = c.isConnected := rfl

theorem RemoteClient.isConnected_eq_false {c : RemoteClient}
    (h : ∀ cs, c.state = some (.connected cs) → False) : c.isConnected = false := by
  rcases hs : c.state with _ | (n | ⟨t, n⟩ | cs) <;> simp_all [RemoteClient.isConnected]

/-- `connection_attempts + 1` on a `u32`, with the overflow check of a debug build. -/
def nextAttempt (n : UInt32) : Except ClientPanic UInt32 :=
  if n.toNat < 4294967295 then pure (n + 1) else throw .attemptsOverflow

/-- The `match` on the taken state in `Handler<Disconnected>`; a live connection is dropped. -/
def ClientState.afterDisconnect : ClientState → Except ClientPanic ClientState
  | .idle n => .idle <$> nextAttempt n
  | .quarantined since n => .quarantined since <$> nextAttempt n
  | .connected _ => pure (.idle 1)

/-- `Handler<Disconnected>`: `self.state.take().unwrap()`, the new state stored back, and a
delayed `Connect` spawned. -/
def RemoteClient.handleDisconnected (c : RemoteClient) : Handled :=
  match c.state with
  | none => throw .stateUnwrap
  | some s => (fun s' => ({ c with state := some s' }, [.reconnectScheduled])) <$> s.afterDisconnect

theorem nextAttempt_of_lt {n : UInt32} (h : n.toNat < 4294967295) : nextAttempt n = pure (n + 1) :=
  if_pos h

theorem toNat_succ_of_lt {n : UInt32} (h : n.toNat < 4294967295) : (n + 1).toNat = n.toNat + 1 := by
  simp only [UInt32.toNat, UInt32.add_def, BitVec.toNat_add] at h ⊢
  show (n.toBitVec.toNat + 1) % 2 ^ 32 = _
  omega

theorem handleDisconnected_of_state {c : RemoteClient} {s : ClientState} (h : c.state = some s) :
    c.handleDisconnected =
      (fun s' => ({ c with state := some s' }, [.reconnectScheduled])) <$> s.afterDisconnect := by
  simp [RemoteClient.handleDisconnected, h]

theorem afterDisconnect_ok {s s' : ClientState} (h : s.afterDisconnect = .ok s') :
    s'.isConnected = false := by
  rcases s with n | ⟨t, n⟩ | cs <;> simp only [ClientState.afterDisconnect, nextAttempt] at h <;>
    (try split_ifs at h) <;> simp at h <;> subst h <;> rfl

/-- Every outcome of `Handler<Disconnected>`: only the state changes, and it stays `Some`. -/
theorem handleDisconnected_ok {c c' : RemoteClient} {out : List ClientEffect}
    (h : c.handleDisconnected = .ok (c', out)) :
    ∃ s, c' = { c with state := some s } ∧ out = [.reconnectScheduled] ∧ s.isConnected = false := by
  rcases hs : c.state with _ | s
  · simp [RemoteClient.handleDisconnected, hs] at h
  rw [handleDisconnected_of_state hs] at h
  obtain ⟨s', hd, h⟩ := map_eq_ok h
  obtain ⟨rfl, rfl⟩ := Prod.mk.inj h
  exact ⟨s', rfl, rfl, afterDisconnect_ok hd⟩

theorem handleDisconnected_error {c : RemoteClient} {p : ClientPanic}
    (h : c.handleDisconnected = .error p) :
    (p = .stateUnwrap ∧ c.state = none) ∨ p = .attemptsOverflow := by
  rcases hs : c.state with _ | (n | ⟨t, n⟩ | cs) <;>
    simp [RemoteClient.handleDisconnected, hs, ClientState.afterDisconnect, nextAttempt] at h
  · simp [h]
  all_goals split_ifs at h <;> simp at h; simp [h]

end Coerce.Client
