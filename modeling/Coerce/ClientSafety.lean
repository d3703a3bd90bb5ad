import Coerce.ClientBuffer

/-!
# Remote client: the state cell and reconnection

The state is `Some` at every handler boundary, so a run panics only in the handshake or on the
attempt counter, which failed reconnections, never capped, drive past `u32::MAX`. A failed
`Connect` drops a live connection, and no handler moves a client into `Quarantined`.
-/
namespace Coerce.Client

theorem handle_state_isSome {ctx : ClientContext} {e : ClientEvent} {c c' : RemoteClient}
    {out : List ClientEffect} (hc : c.state.isSome) (h : e.handle ctx c = .ok (c', out)) :
    c'.state.isSome := by
  cases handle_ok h <;> simp [hc]

theorem handle_ne_stateUnwrap {ctx : ClientContext} (e : ClientEvent) (c : RemoteClient)
    (hc : c.state.isSome) : e.handle ctx c ≠ .error .stateUnwrap := by
  intro h
  rcases handle_error h with ⟨-, hn⟩ | ⟨h, -⟩ | ⟨h, -⟩ | h | ⟨h, -⟩
  any_goals cases h
  simp [hn] at hc

/-- From a client whose state is `Some`, no run panics on an `unwrap` of the state, and the
state is `Some` at every handler boundary. -/
theorem state_isSome_every_run {ctx : ClientContext} {es : List ClientEvent} {c : RemoteClient}
    (hc : c.state.isSome) :
    run ctx es c ≠ .error .stateUnwrap ∧
      ∀ c' out, run ctx es c = .ok (c', out) → c'.state.isSome :=
  ⟨run_ne_error (fun c => c.state.isSome) _ (fun _ _ _ _ hc h => handle_state_isSome hc h)
      handle_ne_stateUnwrap hc,
    fun _ _ h => run_invariant (fun c => c.state.isSome)
      (fun _ _ _ _ hc h => handle_state_isSome hc h) hc h⟩

/-- A write while idle, a connection whose identity never arrives, and a drop. -/
def idleFaultsRun : List ClientEvent := [.write (some [3]) false, .connect .noIdentity [], .disconnected]

theorem state_isSome_every_run_new :
    (RemoteClient.new "10.0.0.2:30101" .client).state.isSome ∧
      (run ⟨1, "node-1"⟩ idleFaultsRun (RemoteClient.new "10.0.0.2:30101" .client) ≠
          .error .stateUnwrap ∧
        ∀ c' out, run ⟨1, "node-1"⟩ idleFaultsRun (RemoteClient.new "10.0.0.2:30101" .client) =
          .ok (c', out) → c'.state.isSome) :=
  ⟨rfl, state_isSome_every_run rfl⟩

/-- From a client whose state is `Some` and whose byte counter is exact, a run panics only on
the handshake write's `expect`, on the `unwrap` of the handshake's encoding, or on the attempt
counter's overflow. -/
theorem run_panics_are_handshake_or_overflow {ctx : ClientContext} {es : List ClientEvent}
    {c : RemoteClient} {p : ClientPanic} (hc : c.state.isSome) (hb : BytesTotalInv c)
    (h : run ctx es c = .error p) :
    p = .writeHandshake ∨ p = .encodeHandshake ∨ p = .attemptsOverflow := by
  refine run_error_cases (fun c => c.state.isSome ∧ BytesTotalInv c)
    (fun p => p = .writeHandshake ∨ p = .encodeHandshake ∨ p = .attemptsOverflow)
    (fun _ _ _ _ hc h => ⟨handle_state_isSome hc.1 h, (handle_buffer_step h).bytesTotalInv hc.2⟩)
    ?_ ⟨hc, hb⟩ h
  rintro e c p ⟨hs, hb⟩ h
  rcases handle_error h with ⟨rfl, hn⟩ | ⟨rfl, -⟩ | ⟨rfl, -⟩ | rfl | ⟨rfl, hlt⟩
  · simp [hn] at hs
  · exact .inl rfl
  · exact .inr (.inl rfl)
  · exact .inr (.inr rfl)
  · exact absurd hb (Nat.ne_of_lt hlt)

/-- A new client that connects and then cannot encode its handshake. -/
def handshakeUnencoded : List ClientEvent :=
  [.connect (.identified ⟨⟨2, "10.0.0.2:30101", "", none⟩⟩) [], .beginHandshake ⟨[], 8⟩ false true]

theorem run_panics_are_handshake_or_overflow_unencoded :
    (RemoteClient.new "10.0.0.2:30101" .client).state.isSome ∧
      BytesTotalInv (RemoteClient.new "10.0.0.2:30101" .client) ∧
      run ⟨1, "node-1"⟩ handshakeUnencoded (RemoteClient.new "10.0.0.2:30101" .client) =
        .error .encodeHandshake ∧
      (ClientPanic.encodeHandshake = .writeHandshake ∨ ClientPanic.encodeHandshake = .encodeHandshake ∨
        ClientPanic.encodeHandshake = .attemptsOverflow) :=
  ⟨rfl, rfl, rfl, @run_panics_are_handshake_or_overflow ⟨1, "node-1"⟩ handshakeUnencoded
    (RemoteClient.new "10.0.0.2:30101" .client) _ rfl rfl rfl⟩

/-- A `Connect` whose dial or identity wait fails answers the identity waiters with `None` and
handles `Disconnected`; from `Connected` this drops the live connection and leaves `Idle{1}`. -/
theorem failed_connect_drops_connection {dial : DialOutcome} {oks : List Bool}
    {c : RemoteClient} {cs : ConnectionState} (hc : c.state = some (.connected cs))
    (hd : connect dial = none) :
    c.handleConnect dial oks =
      .ok ({ c with state := some (.idle 1), onIdentifiedCallbacks := [] },
        c.onIdentifiedCallbacks.reverse.map (.identified · none) ++ [.reconnectScheduled]) := by
  simp [RemoteClient.handleConnect, hd, RemoteClient.handleDisconnected, hc,
    ClientState.afterDisconnect]

theorem failed_connect_drops_connection_refused :
    (⟨"10.0.0.2:30101", .client, some (.connected ⟨⟨⟨2, "10.0.0.2:30101", "", none⟩⟩, .none⟩),
        [], 0, [5], []⟩ : RemoteClient).state =
        some (.connected ⟨⟨⟨2, "10.0.0.2:30101", "", none⟩⟩, .none⟩) ∧
      connect .refused = none ∧
      (⟨"10.0.0.2:30101", .client, some (.connected ⟨⟨⟨2, "10.0.0.2:30101", "", none⟩⟩, .none⟩),
          [], 0, [5], []⟩ : RemoteClient).handleConnect .refused [] =
        .ok (⟨"10.0.0.2:30101", .client, some (.idle 1), [], 0, [], []⟩,
          [.identified 5 none, .reconnectScheduled]) :=
  ⟨rfl, rfl, failed_connect_drops_connection rfl rfl⟩

/-- Two `Disconnected` for one outage each schedule a `Connect`; when the first succeeds, the
second one's failing dial tears the reached connection down. -/
theorem failed_connect_tears_down_reached_connection :
    ∃ c out c' out', run ⟨1, "node-1"⟩
        [.disconnected, .disconnected, .connect (.identified ⟨⟨2, "10.0.0.2:30101", "", none⟩⟩) []]
        (RemoteClient.new "10.0.0.2:30101" .client) = .ok (c, out) ∧
      c.state = some (.connected ⟨⟨⟨2, "10.0.0.2:30101", "", none⟩⟩, .none⟩) ∧
      (ClientEvent.connect .refused []).handle ⟨1, "node-1"⟩ c = .ok (c', out') ∧
      c'.state = some (.idle 1) :=
  ⟨_, _, _, _, rfl, rfl, rfl, rfl⟩

/-- A run that reaches `Connected` and then fails the handshake write panics, where the same
failure on a data write leaves the client running. -/
theorem handshake_stream_error_aborts_run :
    run ⟨1, "node-1"⟩ [.connect (.identified ⟨⟨2, "10.0.0.2:30101", "", none⟩⟩) [],
        .beginHandshake ⟨[], 8⟩ true false] (RemoteClient.new "10.0.0.2:30101" .client) =
      .error .writeHandshake ∧
    run ⟨1, "node-1"⟩ [.connect (.identified ⟨⟨2, "10.0.0.2:30101", "", none⟩⟩) [],
        .write (some [1]) false] (RemoteClient.new "10.0.0.2:30101" .client) =
      .ok (⟨"10.0.0.2:30101", .client, some (.idle 1), [[1]], 1, [], []⟩,
        [.clientConnected "10.0.0.2:30101" 2, .reconnectScheduled, .writeResult (.ok ())]) :=
  ⟨rfl, rfl⟩

theorem ofNat_toNat (n : UInt32) : UInt32.ofNat n.toNat = n :=
  UInt32.toNat.inj (UInt32.toNat_ofNat_of_lt n.toNat_lt_size)

theorem toNat_le_max (n : UInt32) : n.toNat ≤ 4294967295 :=
  Nat.le_of_lt_succ n.toNat_lt_size

/-- A message that, from a state counting attempts through `mk`, only moves the count through
`nextAttempt`, handled `k` times: the count advances by `k` when that fits in a `u32`, and the
run panics on the overflow otherwise. `P` is what the message needs of the rest of the client. -/
theorem run_counting {ctx : ClientContext} (e : ClientEvent) (mk : UInt32 → ClientState)
    (P : RemoteClient → Prop) (hP : ∀ c n, P c → P { c with state := some (mk n) })
    (hstep : ∀ c n, P c → c.state = some (mk n) →
      e.handle ctx c =
        (fun n' => ({ c with state := some (mk n') }, [.reconnectScheduled])) <$> nextAttempt n)
    (k : Nat) :
    ∀ (c : RemoteClient) (n : UInt32), P c → c.state = some (mk n) →
      run ctx (List.replicate k e) c =
        if n.toNat + k ≤ 4294967295 then
          .ok ({ c with state := some (mk (UInt32.ofNat (n.toNat + k))) },
            List.replicate k .reconnectScheduled)
        else .error .attemptsOverflow := by
  induction k with
  | zero =>
    intro c n _ hc
    rw [Nat.add_zero, if_pos (toNat_le_max n)]
    simp [ofNat_toNat, ← hc]
  | succ k ih =>
    intro c n hc' hc
    by_cases hn : n.toNat < 4294967295
    · have hok : e.handle ctx c = .ok ({ c with state := some (mk (n + 1)) }, [.reconnectScheduled]) := by
        rw [hstep c n hc' hc, nextAttempt_of_lt hn]
        rfl
      rw [List.replicate_succ, run_cons_of_ok hok, ih _ (n + 1) (hP c _ hc') rfl, toNat_succ_of_lt hn,
        show n.toNat + 1 + k = n.toNat + (k + 1) by omega]
      split_ifs <;> simp [List.replicate_succ]
    · have herr : e.handle ctx c = .error .attemptsOverflow := by
        rw [hstep c n hc' hc, nextAttempt, if_neg hn]
        rfl
      rw [List.replicate_succ, run_cons_error.mpr (.inl herr), if_neg (by omega)]

/-- `Handler<Disconnected>` from a state counting attempts through `mk` only moves the count. -/
theorem disconnected_handle_counting {ctx : ClientContext} (mk : UInt32 → ClientState)
    (hmk : ∀ n, (mk n).afterDisconnect = mk <$> nextAttempt n) (c : RemoteClient) (n : UInt32)
    (hc : c.state = some (mk n)) :
    ClientEvent.disconnected.handle ctx c =
      (fun n' => ({ c with state := some (mk n') }, [.reconnectScheduled])) <$> nextAttempt n := by
  simp only [ClientEvent.handle, handleDisconnected_of_state hc, hmk]
  cases nextAttempt n <;> rfl

/-- A `Connect` whose dial or identity wait fails, from `Idle{n}`, answers the identity waiters
with `None` and handles `Disconnected`, which moves the count. -/
theorem failedConnect_handle {ctx : ClientContext} {dial : DialOutcome} {oks : List Bool}
    (hd : connect dial = none) (c : RemoteClient) (n : UInt32) (hc : c.state = some (.idle n)) :
    (ClientEvent.connect dial oks).handle ctx c =
      (fun n' => ({ c with state := some (.idle n'), onIdentifiedCallbacks := [] },
        c.onIdentifiedCallbacks.reverse.map (.identified · none) ++ [.reconnectScheduled])) <$>
        nextAttempt n := by
  simp only [ClientEvent.handle, RemoteClient.handleConnect, hd, RemoteClient.handleDisconnected, hc,
    ClientState.afterDisconnect]
  cases nextAttempt n <;> rfl

/-- With no identity waiter, such a `Connect` only moves the count. -/
theorem failedConnect_handle_counting {ctx : ClientContext} {dial : DialOutcome} {oks : List Bool}
    (hd : connect dial = none) (c : RemoteClient) (n : UInt32) (hw : c.onIdentifiedCallbacks = [])
    (hc : c.state = some (.idle n)) :
    (ClientEvent.connect dial oks).handle ctx c =
      (fun n' => ({ c with state := some (.idle n') }, [.reconnectScheduled])) <$> nextAttempt n := by
  rw [failedConnect_handle hd c n hc]
  obtain ⟨addr, clientType, state, writeBuffer, total, identified, handshake⟩ := c
  subst hw
  rfl

/-- `Disconnected` handled `k ≥ 1` times in a row: from `Connected` to `Idle{k}`, from `Idle{n}`
to `Idle{n+k}`, from `Quarantined{t, n}` to `Quarantined{t, n+k}`, with the write buffer, its
counter and both callback lists unchanged, as long as the count fits in a `u32`. -/
theorem disconnected_k_times {ctx : ClientContext} (c : RemoteClient) (k : Nat) (hk : 1 ≤ k) :
    (∀ cs, c.state = some (.connected cs) → k ≤ 4294967295 →
      run ctx (List.replicate k .disconnected) c =
        .ok ({ c with state := some (.idle (UInt32.ofNat k)) },
          List.replicate k .reconnectScheduled)) ∧
    (∀ n, c.state = some (.idle n) → n.toNat + k ≤ 4294967295 →
      run ctx (List.replicate k .disconnected) c =
        .ok ({ c with state := some (.idle (UInt32.ofNat (n.toNat + k))) },
          List.replicate k .reconnectScheduled)) ∧
    (∀ t n, c.state = some (.quarantined t n) → n.toNat + k ≤ 4294967295 →
      run ctx (List.replicate k .disconnected) c =
        .ok ({ c with state := some (.quarantined t (UInt32.ofNat (n.toNat + k))) },
          List.replicate k .reconnectScheduled)) := by
  have hcount := fun mk hmk k =>
    @run_counting ctx .disconnected mk (fun _ => True) (fun _ _ _ => trivial)
      (fun c n _ => disconnected_handle_counting mk hmk c n) k
  have hidle := hcount ClientState.idle (fun _ => rfl)
  refine ⟨fun cs hc hk' => ?_, fun n hc hk' => (hidle k c n trivial hc).trans (if_pos hk'),
    fun t n hc hk' => (hcount (.quarantined t) (fun _ => rfl) k c n trivial hc).trans (if_pos hk')⟩
  obtain ⟨j, rfl⟩ : ∃ j, k = j + 1 := ⟨k - 1, by omega⟩
  have hstep : ClientEvent.disconnected.handle ctx c =
      .ok ({ c with state := some (.idle 1) }, [.reconnectScheduled]) := by
    simp [ClientEvent.handle, handleDisconnected_of_state hc, ClientState.afterDisconnect]
  rw [List.replicate_succ, run_cons_of_ok hstep, hidle j _ 1 trivial rfl, if_pos (by simp; omega)]
  simp [Nat.add_comm, List.replicate_succ]

theorem disconnected_three_times_from_connected :
    1 ≤ 3 ∧ run ⟨1, "node-1"⟩ (List.replicate 3 .disconnected)
        ⟨"10.0.0.2:30101", .worker, some (.connected ⟨⟨⟨2, "10.0.0.2:30101", "", none⟩⟩, .none⟩),
          [[9]], 1, [4], [6]⟩ =
      .ok (⟨"10.0.0.2:30101", .worker, some (.idle 3), [[9]], 1, [4], [6]⟩,
        [.reconnectScheduled, .reconnectScheduled, .reconnectScheduled]) :=
  ⟨by decide, (disconnected_k_times _ 3 (by decide)).1 _ rfl (by decide)⟩

/-- From `Idle{n}`, `k ≥ 1` failed reconnections (each failed `Connect` handles `Disconnected`)
answer the identity waiters with `None` once, at the first, and leave `Idle{n+k}` while that fits
in a `u32`; the one that would go past `u32::MAX` panics on `connection_attempts + 1`. -/
theorem failed_reconnects_count_attempts {ctx : ClientContext} {dial : DialOutcome}
    {oks : List Bool} (hd : connect dial = none) (k : Nat) (hk : 1 ≤ k) (c : RemoteClient)
    (n : UInt32) (hc : c.state = some (.idle n)) :
    run ctx (List.replicate k (.connect dial oks)) c =
      if n.toNat + k ≤ 4294967295 then
        .ok ({ c with state := some (.idle (UInt32.ofNat (n.toNat + k))), onIdentifiedCallbacks := [] },
          c.onIdentifiedCallbacks.reverse.map (.identified · none) ++
            List.replicate k .reconnectScheduled)
      else .error .attemptsOverflow := by
  obtain ⟨j, rfl⟩ : ∃ j, k = j + 1 := ⟨k - 1, by omega⟩
  have hcount := @run_counting ctx (.connect dial oks) .idle
    (fun c => c.onIdentifiedCallbacks = []) (fun _ _ hw => hw)
    (fun c n hw hc => failedConnect_handle_counting hd c n hw hc) j
  have hfirst := @failedConnect_handle ctx dial oks hd c n hc
  by_cases hn : n.toNat < 4294967295
  · rw [nextAttempt_of_lt hn] at hfirst
    rw [List.replicate_succ, run_cons_of_ok hfirst, hcount _ (n + 1) rfl rfl, toNat_succ_of_lt hn,
      show n.toNat + 1 + j = n.toNat + (j + 1) by omega]
    split_ifs <;> simp [List.replicate_succ]
  · rw [nextAttempt, if_neg hn] at hfirst
    rw [List.replicate_succ, run_cons_error.mpr (.inl hfirst), if_neg (by omega)]

/-- A new client waited on by two identity callbacks, whose reconnections are refused. -/
def awaitedClient : RemoteClient :=
  { RemoteClient.new "10.0.0.2:30101" .client with onIdentifiedCallbacks := [4, 6] }

theorem failed_reconnects_count_attempts_awaited :
    connect .refused = none ∧ 1 ≤ 2 ∧ awaitedClient.state = some (.idle 0) ∧
      run ⟨1, "node-1"⟩ (List.replicate 2 (.connect .refused [])) awaitedClient =
        if (0 : UInt32).toNat + 2 ≤ 4294967295 then
          .ok ({ awaitedClient with
              state := some (.idle (UInt32.ofNat ((0 : UInt32).toNat + 2))), onIdentifiedCallbacks := [] },
            awaitedClient.onIdentifiedCallbacks.reverse.map (.identified · none) ++
              List.replicate 2 .reconnectScheduled)
        else .error .attemptsOverflow :=
  ⟨rfl, by decide, rfl,
    @failed_reconnects_count_attempts ⟨1, "node-1"⟩ .refused [] rfl 2 (by decide) _ 0 rfl⟩

/-- `u32::MAX` failed reconnections from a new client reach `Idle{u32::MAX}`, and the next one
overflows `connection_attempts + 1`. -/
theorem failed_reconnects_overflow_attempts :
    run ⟨1, "node-1"⟩ (List.replicate 4294967295 (.connect .refused []))
        (RemoteClient.new "10.0.0.2:30101" .client) =
      .ok (⟨"10.0.0.2:30101", .client, some (.idle 4294967295), [], 0, [], []⟩,
        List.replicate 4294967295 .reconnectScheduled) ∧
    run ⟨1, "node-1"⟩ (List.replicate 4294967296 (.connect .refused []))
        (RemoteClient.new "10.0.0.2:30101" .client) = .error .attemptsOverflow := by
  have hcount := @run_counting ⟨1, "node-1"⟩ (.connect .refused []) .idle
    (fun c => c.onIdentifiedCallbacks = []) (fun _ _ hw => hw)
    (fun c n hw hc => @failedConnect_handle_counting ⟨1, "node-1"⟩ .refused [] rfl c n hw hc)
  exact ⟨(hcount 4294967295 _ 0 rfl rfl).trans (if_pos (by decide)),
    (hcount 4294967296 _ 0 rfl rfl).trans (if_neg (by decide))⟩

def ClientState.isQuarantined : ClientState → Bool
  | .quarantined _ _ => true
  | _ => false

def RemoteClient.isQuarantined (c : RemoteClient) : Bool :=
  (c.state.map ClientState.isQuarantined).getD false

theorem afterDisconnect_isQuarantined {s s' : ClientState} (h : s.afterDisconnect = .ok s') :
    s'.isQuarantined = s.isQuarantined := by
  rcases s with n | ⟨t, n⟩ | cs <;> simp only [ClientState.afterDisconnect, nextAttempt] at h <;>
    (try split_ifs at h) <;> simp at h <;> subst h <;> rfl

theorem handleDisconnected_isQuarantined {c c' : RemoteClient} {out : List ClientEffect}
    (h : c.handleDisconnected = .ok (c', out)) : c'.isQuarantined = c.isQuarantined := by
  rcases hs : c.state with _ | s
  · simp [RemoteClient.handleDisconnected, hs] at h
  rw [handleDisconnected_of_state hs] at h
  obtain ⟨s', hd, h⟩ := map_eq_ok h
  obtain ⟨rfl, -⟩ := Prod.mk.inj h
  simp [RemoteClient.isQuarantined, hs, afterDisconnect_isQuarantined hd]

/-- No handler moves a client into `Quarantined`. -/
theorem handle_isQuarantined {ctx : ClientContext} {e : ClientEvent} {c c' : RemoteClient}
    {out : List ClientEffect} (h : e.handle ctx c = .ok (c', out)) (hq : c'.isQuarantined) :
    c.isQuarantined := by
  cases handle_ok h
  case connectFailed hdial _ =>
    simp only [ClientEvent.handle, RemoteClient.handleConnect, hdial] at h
    obtain ⟨⟨c₁, o₁⟩, hd, h⟩ := map_eq_ok h
    obtain ⟨rfl, -⟩ := Prod.mk.inj h
    exact (handleDisconnected_isQuarantined hd).symm.trans hq
  case disconnected => exact (handleDisconnected_isQuarantined h).symm.trans hq
  case sendFailed hc _ =>
    obtain ⟨cs, hs⟩ : ∃ cs, c.state = some (.connected cs) := by
      rcases hs : c.state with _ | (n | ⟨t, n⟩ | cs) <;> simp_all [RemoteClient.isConnected]
    simp only [ClientEvent.handle, RemoteClient.write, hs, writeBytes] at h
    obtain ⟨⟨c₁, o₁⟩, hd, h⟩ := map_eq_ok h
    obtain ⟨rfl, -⟩ := Prod.mk.inj h
    exact (handleDisconnected_isQuarantined hd).symm.trans hq
  all_goals simp_all [RemoteClient.isQuarantined, ClientState.isQuarantined]

/-- No run enters `Quarantined`: from a client that is not quarantined, the client is not
quarantined after any run. -/
theorem never_quarantined {ctx : ClientContext} {es : List ClientEvent} {c c' : RemoteClient}
    {out : List ClientEffect} (hc : c.isQuarantined = false) (h : run ctx es c = .ok (c', out)) :
    c'.isQuarantined = false :=
  run_invariant (fun c => c.isQuarantined = false)
    (fun _ _ _ _ hc h₁ => Bool.eq_false_iff.mpr fun hq => by simp [handle_isQuarantined h₁ hq] at hc)
    hc h

/-- A refused connection, a connection, a direct write that fails, and a drop. -/
def faultsRun : List ClientEvent :=
  [.connect .refused [], .connect (.identified ⟨⟨2, "10.0.0.2:30101", "", none⟩⟩) [],
    .write (some [1]) false, .disconnected]

theorem never_quarantined_new :
    (RemoteClient.new "10.0.0.2:30101" .client).isQuarantined = false ∧
      ∃ c' out, run ⟨1, "node-1"⟩ faultsRun (RemoteClient.new "10.0.0.2:30101" .client) =
          .ok (c', out) ∧ c'.isQuarantined = false :=
  ⟨rfl, _, _, rfl, @never_quarantined ⟨1, "node-1"⟩ faultsRun
    (RemoteClient.new "10.0.0.2:30101" .client) _ _ rfl rfl⟩

end Coerce.Client
