import Coerce.ClientConnect

/-!
# Remote client: the write buffer over whole runs

Every handler moves the write buffer in one of four ways (`BufferStep`), so the byte counter
stays exact and every accepted payload is sent or buffered exactly once. Their order is kept
only while no flush fails: after a failed flush the next direct write overtakes the buffer.
-/
namespace Coerce.Client

/-- The payload a handled message hands to the client: a `Write` whose payload encoded. -/
def ClientEvent.accepted : ClientEvent → List Bytes
  | .write (some b) _ => [b]
  | _ => []

def ClientEffect.data? : ClientEffect → Option Bytes
  | .sent (.data b) => some b
  | _ => none

/-- The data frames the sink accepted, in order. -/
def dataSent (out : List ClientEffect) : List Bytes := out.filterMap ClientEffect.data?

@[simp] theorem dataSent_nil : dataSent [] = [] := rfl

@[simp] theorem dataSent_append (o₁ o₂ : List ClientEffect) :
    dataSent (o₁ ++ o₂) = dataSent o₁ ++ dataSent o₂ := List.filterMap_append ..

@[simp] theorem dataSent_cons (e : ClientEffect) (o : List ClientEffect) :
    dataSent (e :: o) = (e.data?.toList) ++ dataSent o := by
  cases h : e.data? <;> simp [dataSent, List.filterMap_cons, h]

@[simp] theorem dataSent_reverse (o : List ClientEffect) :
    dataSent o.reverse = (dataSent o).reverse := List.filterMap_reverse ..

@[simp] theorem dataSent_identified (cbs : List Callback) (v : Option NodeIdentity) :
    dataSent (cbs.map (.identified · v)) = [] := by
  simp [dataSent, List.filterMap_map, Function.comp_def, ClientEffect.data?]

@[simp] theorem dataSent_acknowledged (cbs : List Callback) :
    dataSent (cbs.map .handshakeAcknowledged) = [] := by
  simp [dataSent, List.filterMap_map, Function.comp_def, ClientEffect.data?]

@[simp] theorem dataSent_flushed (sent : List Bytes) :
    dataSent (sent.map (.sent ∘ .data)) = sent := by
  simp [dataSent, List.filterMap_map, Function.comp_def, ClientEffect.data?]

/-- The four ways a handler moves the write buffer, with the payload it accepted and the data
it put on the sink. -/
inductive BufferStep (c c' : RemoteClient) : List Bytes → List Bytes → Prop
  | stay : c'.writeBuffer = c.writeBuffer →
      c'.writeBufferBytesTotal = c.writeBufferBytesTotal → BufferStep c c' [] []
  | push (b : Bytes) : c'.writeBuffer = c.writeBuffer ++ [b] →
      c'.writeBufferBytesTotal = c.writeBufferBytesTotal + b.length → BufferStep c c' [b] []
  | direct (b : Bytes) : c'.writeBuffer = c.writeBuffer →
      c'.writeBufferBytesTotal = c.writeBufferBytesTotal → BufferStep c c' [b] [b]
  | flush (sent : List Bytes) : c.writeBuffer = sent ++ c'.writeBuffer →
      c'.writeBufferBytesTotal + bytesOf sent = c.writeBufferBytesTotal → BufferStep c c' [] sent

/-- One spec lemma for the buffer: what every handler does to it. -/
theorem handle_buffer_step {ctx : ClientContext} {e : ClientEvent} {c c' : RemoteClient}
    {out : List ClientEffect} (h : e.handle ctx c = .ok (c', out)) :
    BufferStep c c' e.accepted (dataSent out) := by
  cases handle_ok h <;>
    simp only [ClientEvent.accepted, dataSent_append, dataSent_cons, dataSent_nil, dataSent_reverse,
      dataSent_identified, dataSent_acknowledged, dataSent_flushed, ClientEffect.data?,
      Option.toList_some, Option.toList_none, List.reverse_nil, List.nil_append, List.append_nil,
      List.singleton_append]
  case connected _ _ _ sent _ _ _ hb ht => exact .flush sent hb ht
  case buffered b _ _ _ => exact .push b rfl rfl
  case sent b _ => exact .direct b rfl rfl
  case sendFailed b _ _ _ => exact .push b rfl rfl
  all_goals exact .stay rfl rfl

/-- `write_buffer_bytes_total` counts exactly the bytes in `write_buffer`. -/
def BytesTotalInv (c : RemoteClient) : Prop := c.writeBufferBytesTotal = bytesOf c.writeBuffer

theorem BufferStep.bytesTotalInv {c c' : RemoteClient} {acc sent : List Bytes}
    (h : BufferStep c c' acc sent) (hc : BytesTotalInv c) : BytesTotalInv c' := by
  unfold BytesTotalInv at *
  cases h with
  | stay hb ht => rw [hb, ht, hc]
  | push b hb ht => rw [hb, ht, hc]; simp
  | direct b hb ht => rw [hb, ht, hc]
  | flush sent hb ht => rw [hb] at hc; simp at hc; omega

theorem handle_ne_bytesTotalUnderflow {ctx : ClientContext} (e : ClientEvent) (c : RemoteClient)
    (hc : BytesTotalInv c) : e.handle ctx c ≠ .error .bytesTotalUnderflow := by
  intro h
  rcases handle_error h with ⟨h, -⟩ | ⟨h, -⟩ | ⟨h, -⟩ | h | ⟨-, hlt⟩
  any_goals cases h
  exact absurd hc (Nat.ne_of_lt hlt)

/-- From a client whose counter is exact, in every run the counter stays exact at every handler
boundary, and the subtraction in `flush_buffered_writes` never underflows. -/
theorem write_buffer_bytes_total_exact {ctx : ClientContext} {es : List ClientEvent}
    {c : RemoteClient} (hc : BytesTotalInv c) :
    run ctx es c ≠ .error .bytesTotalUnderflow ∧
      ∀ c' out, run ctx es c = .ok (c', out) → BytesTotalInv c' :=
  ⟨run_ne_error BytesTotalInv _ (fun _ _ _ _ hc h => (handle_buffer_step h).bytesTotalInv hc)
      handle_ne_bytesTotalUnderflow hc,
    fun _ _ h => run_invariant BytesTotalInv
      (fun _ _ _ _ hc h => (handle_buffer_step h).bytesTotalInv hc) hc h⟩

/-- A payload buffered while idle, a refused connection, and a payload that fails to encode. -/
def refusedRun : List ClientEvent := [.write (some [7, 7]) true, .connect .refused [], .write none true]

theorem write_buffer_bytes_total_exact_new :
    BytesTotalInv (RemoteClient.new "10.0.0.2:30101" .client) ∧
      (run ⟨1, "node-1"⟩ refusedRun (RemoteClient.new "10.0.0.2:30101" .client) ≠
          .error .bytesTotalUnderflow ∧
        ∀ c' out, run ⟨1, "node-1"⟩ refusedRun (RemoteClient.new "10.0.0.2:30101" .client) =
          .ok (c', out) → BytesTotalInv c') :=
  ⟨rfl, write_buffer_bytes_total_exact rfl⟩

theorem BufferStep.perm {c c' : RemoteClient} {acc sent : List Bytes}
    (h : BufferStep c c' acc sent) : (sent ++ c'.writeBuffer).Perm (c.writeBuffer ++ acc) := by
  cases h with
  | stay hb _ => simp [hb]
  | push b hb _ => simp [hb]
  | direct b hb _ => rw [hb]; exact List.perm_append_comm
  | flush sent hb _ => simp [hb]

open List in
/-- No accepted payload is lost or duplicated: over every run, the data the sink accepted
followed by the buffer is a rearrangement of the buffer at the start followed by every
payload a `Write` accepted. -/
theorem accepted_payloads_perm {ctx : ClientContext} {es : List ClientEvent}
    {c c' : RemoteClient} {out : List ClientEffect} (h : run ctx es c = .ok (c', out)) :
    (dataSent out ++ c'.writeBuffer).Perm (c.writeBuffer ++ es.flatMap ClientEvent.accepted) := by
  induction es generalizing c out with
  | nil => simp at h; obtain ⟨rfl, rfl⟩ := h; simp
  | cons e es ih =>
    obtain ⟨c₁, out₁, out₂, h₁, h₂, rfl⟩ := run_cons_ok.mp h
    have hstep := (handle_buffer_step h₁).perm
    calc dataSent (out₁ ++ out₂) ++ c'.writeBuffer
        = dataSent out₁ ++ (dataSent out₂ ++ c'.writeBuffer) := by simp
      _ ~ dataSent out₁ ++ (c₁.writeBuffer ++ es.flatMap ClientEvent.accepted) := (ih h₂).append_left _
      _ = (dataSent out₁ ++ c₁.writeBuffer) ++ es.flatMap ClientEvent.accepted := by simp
      _ ~ (c.writeBuffer ++ e.accepted) ++ es.flatMap ClientEvent.accepted := hstep.append_right _
      _ = c.writeBuffer ++ (e :: es).flatMap ClientEvent.accepted := by simp

/-- A payload buffered while idle, a connection whose flush fails, and a second payload. -/
def requeuedRun : List ClientEvent :=
  [.write (some [1]) true, .connect (.identified ⟨⟨2, "10.0.0.2:30101", "", none⟩⟩) [false],
    .write (some [2]) true]

theorem accepted_payloads_perm_requeued :
    ∃ c' out, run ⟨1, "node-1"⟩ requeuedRun (RemoteClient.new "10.0.0.2:30101" .client) =
        .ok (c', out) ∧
      (dataSent out ++ c'.writeBuffer).Perm ((RemoteClient.new "10.0.0.2:30101" .client).writeBuffer ++
        requeuedRun.flatMap ClientEvent.accepted) :=
  ⟨_, _, rfl, @accepted_payloads_perm ⟨1, "node-1"⟩ _ _ _ _ rfl⟩

/-- The order of accepted payloads is not kept. A payload buffered while idle stays buffered when
the flush on connecting fails; the client stays connected, and the next write goes straight to
the sink ahead of it. -/
theorem direct_write_overtakes_requeued_payload :
    ∃ c' out, run ⟨1, "node-1"⟩
        [.write (some [1]) true, .connect (.identified ⟨⟨2, "10.0.0.2:30101", "", none⟩⟩) [false],
          .write (some [2]) true]
        (RemoteClient.new "10.0.0.2:30101" .client) = .ok (c', out) ∧
      dataSent out = [[2]] ∧ c'.writeBuffer = [[1]] ∧
      dataSent out ++ c'.writeBuffer ≠ [[1], [2]] :=
  ⟨_, _, rfl, rfl, rfl, by decide⟩

/-- A connected client has nothing buffered. -/
def BufferDrained (c : RemoteClient) : Prop := c.isConnected = true → c.writeBuffer = []

/-- The sink accepts every send of the flush of a `Connect`. -/
def ClientEvent.flushSucceeds : ClientEvent → Bool
  | .connect _ oks => oks.all id
  | _ => true

theorem handleConnect_drains {dial : DialOutcome} {oks : List Bool} {c c' : RemoteClient}
    {out : List ClientEffect} (hoks : oks.all id) (h : c.handleConnect dial oks = .ok (c', out)) :
    BufferDrained c' := by
  intro hc'
  simp only [RemoteClient.handleConnect] at h
  split at h
  · obtain ⟨⟨c₁, o₁⟩, hf, h⟩ := map_eq_ok h
    obtain ⟨rfl, -⟩ := Prod.mk.inj h
    simp only [RemoteClient.flushBufferedWrites] at hf
    obtain ⟨⟨o, rest, t⟩, hl, h⟩ := map_eq_ok hf
    obtain ⟨rfl, -⟩ := Prod.mk.inj h
    exact flushLoop_drains hoks hl
  · obtain ⟨⟨c₁, o₁⟩, hd, h⟩ := map_eq_ok h
    obtain ⟨rfl, -⟩ := Prod.mk.inj h
    obtain ⟨s, rfl, -, hs⟩ := handleDisconnected_ok hd
    simp [hs] at hc'

/-- While no flush send fails, a connected client keeps its buffer empty, and every handler sends
or buffers what it accepts behind the data already sent and buffered. -/
theorem handle_in_order {ctx : ClientContext} {e : ClientEvent} {c c' : RemoteClient}
    {out : List ClientEffect} (h : e.handle ctx c = .ok (c', out)) (he : e.flushSucceeds)
    (hc : BufferDrained c) :
    BufferDrained c' ∧ dataSent out ++ c'.writeBuffer = c.writeBuffer ++ e.accepted := by
  cases handle_ok h
  case connected hb _ =>
    exact ⟨handleConnect_drains he h, by simp [hb, ClientEffect.data?, ClientEvent.accepted]⟩
  case sent hs => exact ⟨hc, by simp [hc hs, ClientEffect.data?, ClientEvent.accepted]⟩
  case acknowledged hs =>
    exact ⟨fun _ => hc (by simp [RemoteClient.isConnected, hs]), by simp [ClientEvent.accepted]⟩
  all_goals clear h; simp_all [BufferDrained, ClientEvent.accepted, ClientEffect.data?]

/-- Payloads keep their order unless a flush fails: over every run in which the sink accepts every
send of every `Connect`'s flush, from a client with nothing buffered while connected, the data
the sink accepted followed by the buffer is the buffer at the start followed by every accepted
payload, in arrival order. -/
theorem accepted_payloads_in_order {ctx : ClientContext} {es : List ClientEvent}
    {c c' : RemoteClient} {out : List ClientEffect} (hc : BufferDrained c)
    (hes : ∀ e ∈ es, e.flushSucceeds) (h : run ctx es c = .ok (c', out)) :
    dataSent out ++ c'.writeBuffer = c.writeBuffer ++ es.flatMap ClientEvent.accepted := by
  induction es generalizing c out with
  | nil => simp at h; obtain ⟨rfl, rfl⟩ := h; simp
  | cons e es ih =>
    obtain ⟨c₁, out₁, out₂, h₁, h₂, rfl⟩ := run_cons_ok.mp h
    obtain ⟨hc₁, hstep⟩ := handle_in_order h₁ (hes e (.head _)) hc
    calc dataSent (out₁ ++ out₂) ++ c'.writeBuffer
        = dataSent out₁ ++ (dataSent out₂ ++ c'.writeBuffer) := by simp
      _ = dataSent out₁ ++ c₁.writeBuffer ++ es.flatMap ClientEvent.accepted := by
          rw [ih hc₁ (fun e he => hes e (.tail _ he)) h₂, List.append_assoc]
      _ = c.writeBuffer ++ (e :: es).flatMap ClientEvent.accepted := by simp [hstep]

/-- A payload buffered while idle, a drop, a connection whose flush succeeds, a direct write that
fails and one that is sent. -/
def reconnectRun : List ClientEvent :=
  [.write (some [1]) true, .disconnected, .connect (.identified ⟨⟨2, "10.0.0.2:30101", "", none⟩⟩) [],
    .write (some [2]) false, .write (some [3]) true]

theorem accepted_payloads_in_order_reconnect :
    BufferDrained (RemoteClient.new "10.0.0.2:30101" .client) ∧
      (∀ e ∈ reconnectRun, e.flushSucceeds) ∧
      ∃ c' out, run ⟨1, "node-1"⟩ reconnectRun (RemoteClient.new "10.0.0.2:30101" .client) =
          .ok (c', out) ∧
        dataSent out ++ c'.writeBuffer =
          (RemoteClient.new "10.0.0.2:30101" .client).writeBuffer ++
            reconnectRun.flatMap ClientEvent.accepted :=
  have hc : BufferDrained (RemoteClient.new "10.0.0.2:30101" .client) := fun h => Bool.noConfusion h
  have hes : ∀ e ∈ reconnectRun, e.flushSucceeds := by decide
  ⟨hc, hes, _, _, rfl, @accepted_payloads_in_order ⟨1, "node-1"⟩ _ _ _ _ hc hes rfl⟩

end Coerce.Client
