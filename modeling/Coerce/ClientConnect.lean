import Coerce.ClientSend

/-!
# Remote client: `connect.rs` and runs

`Handler<Connect>` answers every identity waiter and either stores the new connection and flushes
the buffer or handles `Disconnected`; `BeginHandshake` encodes and writes the handshake frame and
keeps its completion callback for `HandshakeAcknowledge`. `Handles` lists the ways a handler
returns and `handle_error` the ways it panics; a run stops at the first panic.
-/
namespace Coerce.Client

/-- What the network does during one `RemoteClient::connect`: `TcpStream::connect` returns an
error, the receive loop drops `identity_tx` before the peer's identity arrives, or the peer
identifies itself. -/
inductive DialOutcome
  | refused
  | noIdentity
  | identified (identity : NodeIdentity)
  deriving DecidableEq, Repr

/-- `RemoteClient::connect`: a fresh connection starts with no handshake. -/
def connect : DialOutcome → Option ConnectionState
  | .identified identity => some ⟨identity, .none⟩
  | _ => none

theorem connect_eq_some {dial : DialOutcome} {cs : ConnectionState} (h : connect dial = some cs) :
    ∃ identity, dial = .identified identity ∧ cs = ⟨identity, .none⟩ := by
  cases dial <;> simp_all [connect, eq_comm]

/-- `Handler<Connect>`. The identity waiters are popped from the back of their `Vec`. -/
def RemoteClient.handleConnect (dial : DialOutcome) (oks : List Bool) (c : RemoteClient) : Handled :=
  match connect dial with
  | some cs =>
    let answered := c.onIdentifiedCallbacks.reverse.map (.identified · (some cs.identity))
    (fun r => (r.1, answered ++ .clientConnected c.addr cs.identity.node.id :: r.2)) <$>
      RemoteClient.flushBufferedWrites oks
        { c with onIdentifiedCallbacks := [], state := some (.connected cs) }
  | none =>
    let answered := c.onIdentifiedCallbacks.reverse.map (.identified · none)
    (fun r => (r.1, answered ++ r.2)) <$>
      RemoteClient.handleDisconnected { c with onIdentifiedCallbacks := [] }

structure BeginHandshake where
  seedNodes : List RemoteNode
  onHandshakeComplete : Callback
  deriving DecidableEq, Repr

/-- What `BeginHandshake` reads from the remote system of its context. -/
structure ClientContext where
  nodeId : NodeId
  nodeTag : String
  deriving DecidableEq, Repr

/-- `Handler<BeginHandshake>`: only a connected client writes the handshake. `encoded` is whether
the frame's `write_to_bytes()` returned `Some`, which its `.unwrap()` needs; a failed write hits
`.expect("write handshake")`. -/
def RemoteClient.handleBeginHandshake (ctx : ClientContext) (message : BeginHandshake)
    (encoded ok : Bool) (c : RemoteClient) : Handled :=
  match c.state with
  | some (.connected _) =>
    let handshake : SessionHandshake :=
      ⟨ctx.nodeId, ctx.nodeTag, [], c.clientType, "", message.seedNodes⟩
    if encoded then
      match writeBytes (.handshake handshake) ok with
      | .ok e =>
        pure ({ c with onHandshakeAckCallbacks :=
          c.onHandshakeAckCallbacks ++ [message.onHandshakeComplete] }, [e])
      | .error _ => throw .writeHandshake
    else throw .encodeHandshake
  | _ => pure (c, [])

/-- `Handler<HandshakeAcknowledge>`: outside `Connected` the ack is logged and dropped. -/
def RemoteClient.handleHandshakeAcknowledge (message : HandshakeAcknowledge) (c : RemoteClient) :
    Handled :=
  match c.state with
  | some (.connected cs) =>
    pure ({ c with state := some (.connected { cs with handshake := .acknowledged message })
                   onHandshakeAckCallbacks := [] },
      c.onHandshakeAckCallbacks.reverse.map .handshakeAcknowledged)
  | _ => pure (c, [])

/-- Modelled from the spec: the handler that registers an identity waiter is not under src/.
It pushes the waiter's one-shot sender onto `on_identified_callbacks`. -/
def RemoteClient.awaitIdentity (callback : Callback) (c : RemoteClient) : Handled :=
  pure ({ c with onIdentifiedCallbacks := c.onIdentifiedCallbacks ++ [callback] }, [])

/-- A message the client handles, with the network's answers: the dial and the sink's answers
to the flush for `Connect`, the sink's answer to the one send of `Write` and `BeginHandshake`. -/
inductive ClientEvent
  | connect (dial : DialOutcome) (oks : List Bool)
  | disconnected
  | write (bytes? : Option Bytes) (ok : Bool)
  | beginHandshake (message : BeginHandshake) (encoded ok : Bool)
  | handshakeAcknowledge (message : HandshakeAcknowledge)
  | awaitIdentity (callback : Callback)
  deriving DecidableEq, Repr

def ClientEvent.handle (ctx : ClientContext) : ClientEvent → RemoteClient → Handled
  | .connect dial oks, c => c.handleConnect dial oks
  | .disconnected, c => c.handleDisconnected
  | .write bytes? ok, c => c.write bytes? ok
  | .beginHandshake message encoded ok, c => c.handleBeginHandshake ctx message encoded ok
  | .handshakeAcknowledge message, c => c.handleHandshakeAcknowledge message
  | .awaitIdentity callback, c => c.awaitIdentity callback

/-- The ways a handler returns normally, each with the client and the effects it leaves. On a
connection the flush sends `sent` off the front of the buffer, leaving `rest` and the counter
`total`. -/
inductive Handles (ctx : ClientContext) : ClientEvent → RemoteClient → RemoteClient →
    List ClientEffect → Prop
  | connected {dial oks c cs sent rest total} : connect dial = some cs →
      c.writeBuffer = sent ++ rest → total + bytesOf sent = c.writeBufferBytesTotal →
      Handles ctx (.connect dial oks) c
        { c with state := some (.connected cs), onIdentifiedCallbacks := [], writeBuffer := rest,
                 writeBufferBytesTotal := total }
        (c.onIdentifiedCallbacks.reverse.map (.identified · (some cs.identity)) ++
          .clientConnected c.addr cs.identity.node.id :: sent.map (.sent ∘ .data))
  | connectFailed {dial oks c s} : connect dial = none → s.isConnected = false →
      Handles ctx (.connect dial oks) c { c with state := some s, onIdentifiedCallbacks := [] }
        (c.onIdentifiedCallbacks.reverse.map (.identified · none) ++ [.reconnectScheduled])
  | disconnected {c s} : s.isConnected = false →
      Handles ctx .disconnected c { c with state := some s } [.reconnectScheduled]
  | encodingFailed {ok c} : Handles ctx (.write none ok) c c [.writeResult (.error .encoding)]
  | buffered {b ok c} : c.state.isSome → c.isConnected = false →
      Handles ctx (.write (some b) ok) c (c.bufferMessage b) [.writeResult (.ok ())]
  | sent {b c} : c.isConnected = true →
      Handles ctx (.write (some b) true) c c [.sent (.data b), .writeResult (.ok ())]
  | sendFailed {b c s} : c.isConnected = true → s.isConnected = false →
      Handles ctx (.write (some b) false) c { c.bufferMessage b with state := some s }
        [.reconnectScheduled, .writeResult (.ok ())]
  | handshakeWritten {message c} : c.isConnected = true →
      Handles ctx (.beginHandshake message true true) c
        { c with onHandshakeAckCallbacks := c.onHandshakeAckCallbacks ++ [message.onHandshakeComplete] }
        [.sent (.handshake ⟨ctx.nodeId, ctx.nodeTag, [], c.clientType, "", message.seedNodes⟩)]
  | handshakeSkipped {message encoded ok c} : c.isConnected = false →
      Handles ctx (.beginHandshake message encoded ok) c c []
  | acknowledged {message c cs} : c.state = some (.connected cs) →
      Handles ctx (.handshakeAcknowledge message) c
        { c with state := some (.connected { cs with handshake := .acknowledged message }),
                 onHandshakeAckCallbacks := [] }
        (c.onHandshakeAckCallbacks.reverse.map .handshakeAcknowledged)
  | ackDropped {message c} : c.isConnected = false → Handles ctx (.handshakeAcknowledge message) c c []
  | awaited {callback c} : Handles ctx (.awaitIdentity callback) c
      { c with onIdentifiedCallbacks := c.onIdentifiedCallbacks ++ [callback] } []

/-- What a handler that returns did: the one case analysis of the handlers that the invariants of
the client are derived from. -/
theorem handle_ok {ctx : ClientContext} {e : ClientEvent} {c c' : RemoteClient}
    {out : List ClientEffect} (h : e.handle ctx c = .ok (c', out)) : Handles ctx e c c' out := by
  have connected : ∀ {cs}, c.state = some (.connected cs) → c.isConnected = true := fun hs => by
    simp [RemoteClient.isConnected, hs]
  cases e with
  | connect dial oks =>
    simp only [ClientEvent.handle, RemoteClient.handleConnect] at h
    split at h
    · rename_i cs hcs
      obtain ⟨⟨c₁, o₁⟩, hf, h⟩ := map_eq_ok h
      obtain ⟨rfl, rfl⟩ := Prod.mk.inj h
      obtain ⟨sent, hb, rfl, ht, hc₁⟩ := flushBufferedWrites_ok hf
      exact hc₁ ▸ .connected hcs hb ht
    · rename_i hcs
      obtain ⟨⟨c₁, o₁⟩, hd, h⟩ := map_eq_ok h
      obtain ⟨rfl, rfl⟩ := Prod.mk.inj h
      obtain ⟨s, rfl, rfl, hs⟩ := handleDisconnected_ok hd
      exact .connectFailed hcs hs
  | disconnected =>
    obtain ⟨s, rfl, rfl, hs⟩ := handleDisconnected_ok h
    exact .disconnected hs
  | write bytes? ok =>
    simp only [ClientEvent.handle, RemoteClient.write] at h
    rcases bytes? with _ | b
    · simp at h
      obtain ⟨rfl, rfl⟩ := h
      exact .encodingFailed
    rcases hs : c.state with _ | (n | ⟨t, n⟩ | cs) <;> simp [hs] at h
    · obtain ⟨rfl, rfl⟩ := h
      exact .buffered (by simp [hs]) (by simp [RemoteClient.isConnected, hs])
    · obtain ⟨rfl, rfl⟩ := h
      exact .buffered (by simp [hs]) (by simp [RemoteClient.isConnected, hs])
    cases ok <;> simp [writeBytes] at h
    · obtain ⟨⟨c₁, o₁⟩, hd, h⟩ := map_eq_ok h
      obtain ⟨rfl, rfl⟩ := Prod.mk.inj h
      obtain ⟨s, rfl, rfl, hs'⟩ := handleDisconnected_ok hd
      exact .sendFailed (connected hs) hs'
    · obtain ⟨rfl, rfl⟩ := h
      exact .sent (connected hs)
  | beginHandshake message encoded ok =>
    simp only [ClientEvent.handle, RemoteClient.handleBeginHandshake] at h
    split at h
    · rename_i cs hs
      cases encoded <;> cases ok <;> simp [writeBytes] at h
      obtain ⟨rfl, rfl⟩ := h
      exact .handshakeWritten (connected hs)
    · rename_i hs
      simp at h
      obtain ⟨rfl, rfl⟩ := h
      exact .handshakeSkipped (RemoteClient.isConnected_eq_false hs)
  | handshakeAcknowledge message =>
    simp only [ClientEvent.handle, RemoteClient.handleHandshakeAcknowledge] at h
    split at h
    · rename_i cs hs
      obtain ⟨rfl, rfl⟩ := Prod.mk.inj (Except.ok.inj h)
      exact .acknowledged hs
    · rename_i hs
      simp at h
      obtain ⟨rfl, rfl⟩ := h
      exact .ackDropped (RemoteClient.isConnected_eq_false hs)
  | awaitIdentity callback =>
    simp [ClientEvent.handle, RemoteClient.awaitIdentity] at h
    obtain ⟨rfl, rfl⟩ := h
    exact .awaited

/-- Where every panic of a handler comes from: an `unwrap` on a `None` state, the `expect` of a
failed handshake write, the `unwrap` of a failed handshake encoding, the attempt counter, or a
byte counter short of the buffered bytes. -/
theorem handle_error {ctx : ClientContext} {e : ClientEvent} {c : RemoteClient} {p : ClientPanic}
    (h : e.handle ctx c = .error p) :
    (p = .stateUnwrap ∧ c.state = none) ∨
      (p = .writeHandshake ∧ ∃ message, e = .beginHandshake message true false) ∨
      (p = .encodeHandshake ∧ ∃ message ok, e = .beginHandshake message false ok) ∨
      p = .attemptsOverflow ∨
      (p = .bytesTotalUnderflow ∧ c.writeBufferBytesTotal < bytesOf c.writeBuffer) := by
  have hd : ∀ c₁ : RemoteClient, c₁.handleDisconnected = .error p → c₁.state = c.state →
      (p = .stateUnwrap ∧ c.state = none) ∨ p = .attemptsOverflow :=
    fun c₁ h₁ hs => hs ▸ handleDisconnected_error h₁
  cases e with
  | connect dial oks =>
    simp only [ClientEvent.handle, RemoteClient.handleConnect] at h
    split at h
    · exact .inr (.inr (.inr (.inr (flushBufferedWrites_error (map_eq_error h) :))))
    · rcases hd _ (map_eq_error h) rfl with h | h <;> simp [h]
  | disconnected => rcases hd c h rfl with h | h <;> simp [h]
  | write bytes? ok =>
    simp only [ClientEvent.handle, RemoteClient.write] at h
    rcases bytes? with _ | b
    · simp at h
    rcases hs : c.state with _ | (n | ⟨t, n⟩ | cs) <;> simp [hs] at h
    · simp [← h]
    cases ok <;> simp [writeBytes] at h
    rcases hd _ (map_eq_error h) (by simp) with ⟨-, h⟩ | h
    · simp [hs] at h
    · simp [h]
  | beginHandshake message encoded ok =>
    simp only [ClientEvent.handle, RemoteClient.handleBeginHandshake] at h
    split at h <;> (try cases encoded) <;> (try cases ok) <;> simp [writeBytes] at h <;> simp [← h]
  | handshakeAcknowledge message =>
    simp only [ClientEvent.handle, RemoteClient.handleHandshakeAcknowledge] at h
    split at h <;> simp at h
  | awaitIdentity callback => simp [ClientEvent.handle, RemoteClient.awaitIdentity] at h

/-- The client handling `es` in order, with the effects of all handlers in order. -/
def run (ctx : ClientContext) : List ClientEvent → RemoteClient → Handled
  | [], c => pure (c, [])
  | e :: es, c =>
    match e.handle ctx c with
    | .error p => .error p
    | .ok (c₁, out₁) => (fun r => (r.1, out₁ ++ r.2)) <$> run ctx es c₁

section Runs
variable {ctx : ClientContext}

@[simp] theorem run_nil (c : RemoteClient) : run ctx [] c = .ok (c, []) := rfl

theorem run_cons_of_ok {e : ClientEvent} {es : List ClientEvent} {c c₁ : RemoteClient}
    {out₁ : List ClientEffect} (h : e.handle ctx c = .ok (c₁, out₁)) :
    run ctx (e :: es) c = (fun r => (r.1, out₁ ++ r.2)) <$> run ctx es c₁ := by
  simp [run, h]

theorem run_cons_ok {e : ClientEvent} {es : List ClientEvent} {c c' : RemoteClient}
    {out : List ClientEffect} :
    run ctx (e :: es) c = .ok (c', out) ↔
      ∃ c₁ out₁ out₂, e.handle ctx c = .ok (c₁, out₁) ∧ run ctx es c₁ = .ok (c', out₂) ∧
        out = out₁ ++ out₂ := by
  rcases h₁ : e.handle ctx c with p | ⟨c₁, out₁⟩
  · simp [run, h₁]
  rcases h₂ : run ctx es c₁ with p | ⟨c₂, out₂⟩
  · simp [run, h₁, h₂]
  simp only [run, h₁, h₂, map_ok, Except.ok.injEq, Prod.mk.injEq]
  constructor
  · rintro ⟨rfl, rfl⟩
    exact ⟨_, _, _, ⟨rfl, rfl⟩, h₂, rfl⟩
  · rintro ⟨_, _, _, ⟨rfl, rfl⟩, h, rfl⟩
    simp_all

theorem run_cons_error {e : ClientEvent} {es : List ClientEvent} {c : RemoteClient}
    {p : ClientPanic} :
    run ctx (e :: es) c = .error p ↔
      e.handle ctx c = .error p ∨
        ∃ c₁ out₁, e.handle ctx c = .ok (c₁, out₁) ∧ run ctx es c₁ = .error p := by
  rcases h₁ : e.handle ctx c with q | ⟨c₁, out₁⟩
  · simp [run, h₁]
  · rcases h₂ : run ctx es c₁ with q | ⟨c₂, out₂⟩ <;> simp [run, h₁, h₂]

/-- A property every handler keeps holds after every run. -/
theorem run_invariant (P : RemoteClient → Prop)
    (step : ∀ (e : ClientEvent) c c₁ out, P c → e.handle ctx c = .ok (c₁, out) → P c₁)
    {es : List ClientEvent} {c c' : RemoteClient} {out : List ClientEffect}
    (hc : P c) (h : run ctx es c = .ok (c', out)) : P c' := by
  induction es generalizing c out with
  | nil => simp at h; rw [← h.1]; exact hc
  | cons e es ih =>
    obtain ⟨c₁, out₁, out₂, h₁, h₂, -⟩ := run_cons_ok.mp h
    exact ih (step e c c₁ out₁ hc h₁) h₂

/-- A run panics only as one of its handlers panics from a state it reaches: a property of the
panics every handler raises from a state with property `P`, where every handler keeps `P`, holds
of every panic of a run. -/
theorem run_error_cases (P : RemoteClient → Prop) (Q : ClientPanic → Prop)
    (step : ∀ (e : ClientEvent) c c₁ out, P c → e.handle ctx c = .ok (c₁, out) → P c₁)
    (panics : ∀ (e : ClientEvent) c p, P c → e.handle ctx c = .error p → Q p)
    {es : List ClientEvent} {c : RemoteClient} {p : ClientPanic} (hc : P c)
    (h : run ctx es c = .error p) : Q p := by
  induction es generalizing c with
  | nil => simp at h
  | cons e es ih =>
    rcases run_cons_error.mp h with h₁ | ⟨c₁, out₁, h₁, h₂⟩
    · exact panics e c p hc h₁
    · exact ih (step e c c₁ out₁ hc h₁) h₂

/-- A panic no handler raises from a state with property `P`, where every handler keeps `P`, is
raised by no run. -/
theorem run_ne_error (P : RemoteClient → Prop) (p : ClientPanic)
    (step : ∀ (e : ClientEvent) c c₁ out, P c → e.handle ctx c = .ok (c₁, out) → P c₁)
    (safe : ∀ (e : ClientEvent) c, P c → e.handle ctx c ≠ .error p)
    {es : List ClientEvent} {c : RemoteClient} (hc : P c) : run ctx es c ≠ .error p :=
  fun h => run_error_cases P (· ≠ p) step (fun e c _ hc h' hq => safe e c hc (hq ▸ h')) hc h rfl

end Runs

end Coerce.Client
