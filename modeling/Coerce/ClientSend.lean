import Coerce.ClientState

/-!
# Remote client: `send.rs`

Writes go to the sink when the client is connected and to the write buffer otherwise; a
stream error on a direct write buffers the payload and runs `Handler<Disconnected>`. The
buffer is drained only by `flush_buffered_writes`, front first, stopping at the first failed
send with that entry pushed back to the front. The counter subtraction is checked as a debug
build checks it.
-/
namespace Coerce.Client

/-- `write_bytes`: one send of `frame` on the connection's sink, which answers `ok`. -/
def writeBytes (frame : Frame) (ok : Bool) : Except RemoteClientErr ClientEffect :=
  if ok then .ok (.sent frame) else .error .streamErr

/-- `RemoteClient::buffer_message`. -/
def RemoteClient.bufferMessage (c : RemoteClient) (messageBytes : Bytes) : RemoteClient :=
  { c with writeBufferBytesTotal := c.writeBufferBytesTotal + messageBytes.length
           writeBuffer := c.writeBuffer ++ [messageBytes] }

/-- The `while let Some(buffered_message) = self.write_buffer.pop_front()` loop of
`flush_buffered_writes`, over the buffer and its byte counter. `oks` answers the successive
sends (`Ok` once it runs out). -/
def flushLoop : List Bool → List Bytes → Nat →
    Except ClientPanic (List ClientEffect × List Bytes × Nat)
  | _, [], total => pure ([], [], total)
  | oks, b :: rest, total =>
    match writeBytes (.data b) (oks.headD true) with
    | .ok e =>
      if b.length ≤ total then
        (fun r => (e :: r.1, r.2)) <$> flushLoop oks.tail rest (total - b.length)
      else throw .bytesTotalUnderflow
    | .error _ => pure ([], b :: rest, total)

/-- `RemoteClient::flush_buffered_writes`: a no-op unless the client is connected. -/
def RemoteClient.flushBufferedWrites (oks : List Bool) (c : RemoteClient) : Handled :=
  match c.state with
  | some (.connected _) =>
    (fun r => ({ c with writeBuffer := r.2.1, writeBufferBytesTotal := r.2.2 }, r.1)) <$>
      flushLoop oks c.writeBuffer c.writeBufferBytesTotal
  | _ => pure (c, [])

/-- `RemoteClient::write`, given `message.write_to_bytes()` and the sink's answer to a direct
send. The reply is the last effect. -/
def RemoteClient.write (bytes? : Option Bytes) (ok : Bool) (c : RemoteClient) : Handled :=
  match bytes? with
  | none => pure (c, [.writeResult (.error .encoding)])
  | some bytes =>
    match c.state with
    | none => throw .stateUnwrap
    | some (.idle _) | some (.quarantined _ _) =>
      pure (c.bufferMessage bytes, [.writeResult (.ok ())])
    | some (.connected _) =>
      match writeBytes (.data bytes) ok with
      | .ok e => pure (c, [e, .writeResult (.ok ())])
      | .error .streamErr =>
        (fun r => (r.1, r.2 ++ [.writeResult (.ok ())])) <$> (c.bufferMessage bytes).handleDisconnected
      | .error _ => pure (c, [.writeResult (.ok ())])

@[simp] theorem bufferMessage_state (c : RemoteClient) (b : Bytes) :
    (c.bufferMessage b).state = c.state := rfl

@[simp] theorem bufferMessage_isConnected (c : RemoteClient) (b : Bytes) :
    (c.bufferMessage b).isConnected = c.isConnected := rfl

@[simp] theorem bufferMessage_writeBuffer (c : RemoteClient) (b : Bytes) :
    (c.bufferMessage b).writeBuffer = c.writeBuffer ++ [b] := rfl

@[simp] theorem bufferMessage_writeBufferBytesTotal (c : RemoteClient) (b : Bytes) :
    (c.bufferMessage b).writeBufferBytesTotal = c.writeBufferBytesTotal + b.length := rfl

@[simp] theorem bufferMessage_onIdentifiedCallbacks (c : RemoteClient) (b : Bytes) :
    (c.bufferMessage b).onIdentifiedCallbacks = c.onIdentifiedCallbacks := rfl

@[simp] theorem bufferMessage_onHandshakeAckCallbacks (c : RemoteClient) (b : Bytes) :
    (c.bufferMessage b).onHandshakeAckCallbacks = c.onHandshakeAckCallbacks := rfl

/-- Total bytes of a list of buffered entries. -/
def bytesOf (buffer : List Bytes) : Nat := (buffer.map List.length).sum

@[simp] theorem bytesOf_nil : bytesOf [] = 0 := rfl

@[simp] theorem bytesOf_cons (b : Bytes) (bs : List Bytes) :
    bytesOf (b :: bs) = b.length + bytesOf bs := by simp [bytesOf]

@[simp] theorem bytesOf_append (bs cs : List Bytes) : bytesOf (bs ++ cs) = bytesOf bs + bytesOf cs := by
  simp [bytesOf]

/-- A completed flush sends a prefix of the buffer, front first, keeps the rest, and takes
exactly the sent bytes off the counter. -/
theorem flushLoop_ok {oks : List Bool} {buf rest : List Bytes} {total total' : Nat}
    {out : List ClientEffect} (h : flushLoop oks buf total = .ok (out, rest, total')) :
    ∃ sent, buf = sent ++ rest ∧ out = sent.map (.sent ∘ .data) ∧ total' + bytesOf sent = total := by
  induction buf generalizing oks total out with
  | nil =>
    simp [flushLoop] at h
    obtain ⟨rfl, rfl, rfl⟩ := h
    exact ⟨[], rfl, rfl, rfl⟩
  | cons b bs ih =>
    cases hok : oks.headD true <;> simp only [flushLoop, writeBytes, hok, eq_self_iff_true, if_true, Bool.false_eq_true, if_false] at h
    · simp at h
      obtain ⟨rfl, rfl, rfl⟩ := h
      exact ⟨[], rfl, rfl, rfl⟩
    split_ifs at h with hle
    obtain ⟨⟨out', rest', t'⟩, hr, h⟩ := map_eq_ok h
    simp only [Prod.mk.injEq] at h
    obtain ⟨rfl, rfl, rfl⟩ := h
    obtain ⟨sent, rfl, rfl, ht⟩ := ih hr
    exact ⟨b :: sent, rfl, rfl, by simp; omega⟩

/-- The only panic of a flush is the counter underflow, and only a counter short of the buffered
bytes underflows. -/
theorem flushLoop_error {oks : List Bool} {buf : List Bytes} {total : Nat} {p : ClientPanic}
    (h : flushLoop oks buf total = .error p) : p = .bytesTotalUnderflow ∧ total < bytesOf buf := by
  induction buf generalizing oks total with
  | nil => simp [flushLoop] at h
  | cons b bs ih =>
    cases hok : oks.headD true <;> simp only [flushLoop, writeBytes, hok, eq_self_iff_true,
      if_true, Bool.false_eq_true, if_false] at h
    · simp at h
    split_ifs at h with hle
    · obtain ⟨rfl, hlt⟩ := ih (map_eq_error h)
      exact ⟨rfl, by simp; omega⟩
    · simp at h
      exact ⟨h.symm, by simp; omega⟩

/-- A flush whose sends all succeed drains the buffer. -/
theorem flushLoop_drains {oks : List Bool} {buf rest : List Bytes} {total total' : Nat}
    {out : List ClientEffect} (hoks : oks.all id)
    (h : flushLoop oks buf total = .ok (out, rest, total')) : rest = [] := by
  induction buf generalizing oks total out with
  | nil => simp [flushLoop] at h; exact h.2.1
  | cons b bs ih =>
    have hhead : oks.headD true = true := by cases oks <;> simp_all
    simp only [flushLoop, writeBytes, hhead, if_true] at h
    split_ifs at h
    obtain ⟨⟨out', rest', t'⟩, hr, h⟩ := map_eq_ok h
    simp only [Prod.mk.injEq] at h
    obtain ⟨-, rfl, rfl⟩ := h
    exact ih (by cases oks <;> simp_all) hr

theorem flushBufferedWrites_error {oks : List Bool} {c : RemoteClient} {p : ClientPanic}
    (h : c.flushBufferedWrites oks = .error p) :
    p = .bytesTotalUnderflow ∧ c.writeBufferBytesTotal < bytesOf c.writeBuffer := by
  unfold RemoteClient.flushBufferedWrites at h
  split at h
  · exact flushLoop_error (map_eq_error h)
  · simp at h

theorem flushBufferedWrites_ok {oks : List Bool} {c c' : RemoteClient} {out : List ClientEffect}
    (h : c.flushBufferedWrites oks = .ok (c', out)) :
    ∃ sent, c.writeBuffer = sent ++ c'.writeBuffer ∧ out = sent.map (.sent ∘ .data) ∧
      c'.writeBufferBytesTotal + bytesOf sent = c.writeBufferBytesTotal ∧
      c' = { c with writeBuffer := c'.writeBuffer, writeBufferBytesTotal := c'.writeBufferBytesTotal } := by
  unfold RemoteClient.flushBufferedWrites at h
  split at h
  · obtain ⟨⟨o, rest, t⟩, hr, h⟩ := map_eq_ok h
    obtain ⟨rfl, rfl⟩ := Prod.mk.inj h
    obtain ⟨sent, hb, ho, ht⟩ := flushLoop_ok hr
    exact ⟨sent, hb, ho, ht, rfl⟩
  · simp at h
    obtain ⟨rfl, rfl⟩ := h
    exact ⟨[], rfl, rfl, rfl, rfl⟩

end Coerce.Client
