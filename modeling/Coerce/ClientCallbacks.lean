import Coerce.ClientConnect

/-!
# Remote client: identity waiters and handshake callbacks

Each identity waiter is answered by the first later `Connect`, and each kept completion callback
by the first later `HandshakeAcknowledge` handled while connected. Up to `Vec::pop` order, the
answers sent are those the run's messages owe, computed from the messages and the abstract link
state they move, which the client refines (`isConnected_after_run`).
-/
namespace Coerce.Client

/-- Whether the client is connected after handling `e`, from whether it was before. -/
@[simp] def ClientEvent.linkAfter (connected : Bool) : ClientEvent → Bool
  | .connect (.identified _) _ => true
  | .connect _ _ => false
  | .disconnected => false
  | .write (some _) false => false
  | _ => connected

@[simp] def ClientEvent.isAck : ClientEvent → Bool
  | .handshakeAcknowledge _ => true
  | _ => false

/-- The identity waiter `e` registers. -/
@[simp] def ClientEvent.registered : ClientEvent → List Callback
  | .awaitIdentity callback => [callback]
  | _ => []

/-- The completion callback `e` hands over, kept when the client is connected. -/
@[simp] def ClientEvent.kept : ClientEvent → List Callback
  | .beginHandshake message _ _ => [message.onHandshakeComplete]
  | _ => []

/-- The answer the first `Connect` of `es` gives the identity waiters, if `es` has one. -/
@[simp] def firstConnect : List ClientEvent → Option (Option NodeIdentity)
  | [] => none
  | .connect (.identified identity) _ :: _ => some (some identity)
  | .connect _ _ :: _ => some none
  | _ :: es => firstConnect es

/-- Every waiter `es` registers, with the answer it is owed: that of the first later `Connect`. -/
def identityFates : List ClientEvent → List (Callback × Option (Option NodeIdentity))
  | [] => []
  | e :: es => e.registered.map (·, firstConnect es) ++ identityFates es

/-- Whether `es`, run from link state `connected`, handles a `HandshakeAcknowledge` while
connected. -/
def acknowledgedIn : Bool → List ClientEvent → Bool
  | _, [] => false
  | connected, e :: es => (connected && e.isAck) || acknowledgedIn (e.linkAfter connected) es

/-- Every completion callback `es` keeps, run from link state `connected`, with whether a later
`HandshakeAcknowledge` handled while connected answers it. -/
def ackFates : Bool → List ClientEvent → List (Callback × Bool)
  | _, [] => []
  | connected, e :: es =>
    (if connected then e.kept else []).map (·, acknowledgedIn (e.linkAfter connected) es) ++
      ackFates (e.linkAfter connected) es

@[simp] def ClientEffect.identified? : ClientEffect → Option (Callback × Option NodeIdentity)
  | .identified callback identity => some (callback, identity)
  | _ => none

@[simp] def ClientEffect.acknowledged? : ClientEffect → Option Callback
  | .handshakeAcknowledged callback => some callback
  | _ => none

/-- The identity waiters answered in `out`, with their answers. -/
def identifiedSent (out : List ClientEffect) : List (Callback × Option NodeIdentity) :=
  out.filterMap ClientEffect.identified?

/-- The completion callbacks answered in `out`. -/
def acknowledgedSent (out : List ClientEffect) : List Callback :=
  out.filterMap ClientEffect.acknowledged?

/-- The owed callbacks that have been answered, and those still waiting. -/
def answered (fates : List (Callback × Option (Option NodeIdentity))) :
    List (Callback × Option NodeIdentity) :=
  fates.filterMap fun f => f.2.map (f.1, ·)

def waiting (fates : List (Callback × Option (Option NodeIdentity))) : List Callback :=
  (fates.filter (·.2.isNone)).map (·.1)

/-- The owed completion callbacks with answer `b`: answered for `true`, waiting for `false`. -/
def withAnswer (b : Bool) (fates : List (Callback × Bool)) : List Callback :=
  (fates.filter (·.2 == b)).map (·.1)

section Lemmas
variable {cbs : List Callback}

@[simp] theorem answered_append (f g : List (Callback × Option (Option NodeIdentity))) :
    answered (f ++ g) = answered f ++ answered g := List.filterMap_append ..

@[simp] theorem waiting_append (f g : List (Callback × Option (Option NodeIdentity))) :
    waiting (f ++ g) = waiting f ++ waiting g := by simp [waiting]

@[simp] theorem withAnswer_append (b : Bool) (f g : List (Callback × Bool)) :
    withAnswer b (f ++ g) = withAnswer b f ++ withAnswer b g := by simp [withAnswer]

@[simp] theorem answered_owed_none : answered (cbs.map (·, none)) = [] := by
  simp [answered, List.filterMap_map, Function.comp_def]

@[simp] theorem answered_owed_some (v : Option NodeIdentity) :
    answered (cbs.map (·, some v)) = cbs.map (·, v) := by
  induction cbs <;> simp_all [answered]

@[simp] theorem waiting_owed_none : waiting (cbs.map (·, none)) = cbs := by
  simp [waiting, List.filter_map, Function.comp_def]

@[simp] theorem waiting_owed_some (v : Option NodeIdentity) : waiting (cbs.map (·, some v)) = [] := by
  simp [waiting, List.filter_map, Function.comp_def]

@[simp] theorem withAnswer_owed (b x : Bool) :
    withAnswer b (cbs.map (·, x)) = if x = b then cbs else [] := by
  cases x <;> cases b <;> simp [withAnswer, List.filter_map, Function.comp_def]

@[simp] theorem identifiedSent_nil : identifiedSent [] = [] := rfl

@[simp] theorem identifiedSent_append (o₁ o₂ : List ClientEffect) :
    identifiedSent (o₁ ++ o₂) = identifiedSent o₁ ++ identifiedSent o₂ := List.filterMap_append ..

@[simp] theorem identifiedSent_cons (e : ClientEffect) (o : List ClientEffect) :
    identifiedSent (e :: o) = e.identified?.toList ++ identifiedSent o := by
  cases e <;> rfl

@[simp] theorem identifiedSent_reverse (o : List ClientEffect) :
    identifiedSent o.reverse = (identifiedSent o).reverse := List.filterMap_reverse ..

@[simp] theorem acknowledgedSent_nil : acknowledgedSent [] = [] := rfl

@[simp] theorem acknowledgedSent_append (o₁ o₂ : List ClientEffect) :
    acknowledgedSent (o₁ ++ o₂) = acknowledgedSent o₁ ++ acknowledgedSent o₂ :=
  List.filterMap_append ..

@[simp] theorem acknowledgedSent_cons (e : ClientEffect) (o : List ClientEffect) :
    acknowledgedSent (e :: o) = e.acknowledged?.toList ++ acknowledgedSent o := by
  cases e <;> rfl

@[simp] theorem acknowledgedSent_reverse (o : List ClientEffect) :
    acknowledgedSent o.reverse = (acknowledgedSent o).reverse := List.filterMap_reverse ..

@[simp] theorem identifiedSent_identified (v : Option NodeIdentity) :
    identifiedSent (cbs.map (.identified · v)) = cbs.map (·, v) := by
  induction cbs <;> simp_all [ClientEffect.identified?]

@[simp] theorem acknowledgedSent_identified (v : Option NodeIdentity) :
    acknowledgedSent (cbs.map (.identified · v)) = [] := by
  simp [acknowledgedSent, List.filterMap_map, Function.comp_def, ClientEffect.acknowledged?]

@[simp] theorem identifiedSent_acknowledged :
    identifiedSent (cbs.map .handshakeAcknowledged) = [] := by
  simp [identifiedSent, List.filterMap_map, Function.comp_def, ClientEffect.identified?]

@[simp] theorem acknowledgedSent_acknowledged :
    acknowledgedSent (cbs.map .handshakeAcknowledged) = cbs := by
  simp [acknowledgedSent, List.filterMap_map, Function.comp_def, ClientEffect.acknowledged?]

@[simp] theorem identifiedSent_flushed (sent : List Bytes) :
    identifiedSent (sent.map (.sent ∘ .data)) = [] := by
  simp [identifiedSent, List.filterMap_map, Function.comp_def, ClientEffect.identified?]

@[simp] theorem acknowledgedSent_flushed (sent : List Bytes) :
    acknowledgedSent (sent.map (.sent ∘ .data)) = [] := by
  simp [acknowledgedSent, List.filterMap_map, Function.comp_def, ClientEffect.acknowledged?]

end Lemmas

/-- What one handler does to the link and to both callback lists: the refinement of the abstract
link, and the callbacks it answers and keeps. -/
structure CallbackStep (e : ClientEvent) (c c' : RemoteClient) (out : List ClientEffect) : Prop where
  link : c'.isConnected = e.linkAfter c.isConnected
  identified : (identifiedSent out).Perm (answered (c.onIdentifiedCallbacks.map (·, firstConnect [e])))
  waiters : c'.onIdentifiedCallbacks =
    waiting (c.onIdentifiedCallbacks.map (·, firstConnect [e])) ++ e.registered
  acknowledged : (acknowledgedSent out).Perm
    (if c.isConnected && e.isAck then c.onHandshakeAckCallbacks else [])
  kept : c'.onHandshakeAckCallbacks =
    (if c.isConnected && e.isAck then [] else c.onHandshakeAckCallbacks) ++
      (if c.isConnected then e.kept else [])

theorem handle_callbackStep {ctx : ClientContext} {e : ClientEvent} {c c' : RemoteClient}
    {out : List ClientEffect} (h : e.handle ctx c = .ok (c', out)) : CallbackStep e c c' out := by
  cases handle_ok h
  case connected _ _ _ _ _ _ hcs _ _ =>
    obtain ⟨identity, rfl, rfl⟩ := connect_eq_some hcs
    constructor <;> simp [List.reverse_perm]
  case connectFailed dial _ _ hcs hs =>
    cases dial <;> simp only [connect, reduceCtorEq] at hcs <;> constructor <;> simp [hs]
  case disconnected _ hs => constructor <;> simp [hs]
  case encodingFailed => constructor <;> simp
  case buffered _ ok _ hc => cases ok <;> constructor <;> simp [hc]
  case sent _ hc => constructor <;> simp [hc]
  case sendFailed _ _ hc hs => constructor <;> simp [hc, hs]
  case handshakeWritten _ hc => constructor <;> simp [hc]
  case handshakeSkipped _ _ _ hc => constructor <;> simp [hc]
  case acknowledged _ _ hs => constructor <;> simp [RemoteClient.isConnected, hs, List.reverse_perm]
  case ackDropped _ hc => constructor <;> simp [hc]
  case awaited => constructor <;> simp

/-- The code refines the abstract link: whether the client is connected after a run is the
link state the run's messages move it to. -/
theorem isConnected_after_run {ctx : ClientContext} {es : List ClientEvent} {c c' : RemoteClient}
    {out : List ClientEffect} (h : run ctx es c = .ok (c', out)) :
    c'.isConnected = es.foldl (fun connected e => e.linkAfter connected) c.isConnected := by
  induction es generalizing c out with
  | nil =>
    obtain ⟨rfl, -⟩ := Prod.mk.inj (Except.ok.inj h)
    rfl
  | cons e es ih =>
    obtain ⟨c₁, out₁, out₂, h₁, h₂, rfl⟩ := run_cons_ok.mp h
    rw [List.foldl_cons, ← (handle_callbackStep h₁).link]
    exact ih h₂

/-- A connection, a direct write that fails and drops it, and a reconnection. -/
def failedWriteRun : List ClientEvent :=
  [.connect (.identified ⟨⟨2, "10.0.0.2:30101", "", none⟩⟩) [], .write (some [1]) false,
    .connect (.identified ⟨⟨2, "10.0.0.2:30101", "", none⟩⟩) [true]]

theorem isConnected_after_run_failed_write :
    ∃ c' out, run ⟨1, "node-1"⟩ failedWriteRun (RemoteClient.new "10.0.0.2:30101" .client) =
        .ok (c', out) ∧
      c'.isConnected = failedWriteRun.foldl (fun connected e => e.linkAfter connected)
        (RemoteClient.new "10.0.0.2:30101" .client).isConnected :=
  ⟨_, _, rfl, @isConnected_after_run ⟨1, "node-1"⟩ _ (RemoteClient.new "10.0.0.2:30101" .client) _ _ rfl⟩

theorem firstConnect_cons_of_none {e : ClientEvent} {es : List ClientEvent}
    (h : firstConnect [e] = none) : firstConnect (e :: es) = firstConnect es := by
  cases e with
  | connect dial _ => cases dial <;> simp_all [firstConnect]
  | _ => simp_all [firstConnect]

theorem firstConnect_cons_of_some {e : ClientEvent} {es : List ClientEvent} {v : Option NodeIdentity}
    (h : firstConnect [e] = some v) : firstConnect (e :: es) = some v ∧ e.registered = [] := by
  cases e with
  | connect dial _ => cases dial <;> simp_all [firstConnect, ClientEvent.registered]
  | _ => simp_all [firstConnect, ClientEvent.registered]

/-- Over every run, the identity waiters answered are those owed an answer, each once, with the
answer of the first `Connect` after it registered; the others still wait, in order. -/
theorem identity_waiters_answered {ctx : ClientContext} {es : List ClientEvent}
    {c c' : RemoteClient} {out : List ClientEffect} (h : run ctx es c = .ok (c', out)) :
    (identifiedSent out).Perm
        (answered (c.onIdentifiedCallbacks.map (·, firstConnect es) ++ identityFates es)) ∧
      c'.onIdentifiedCallbacks =
        waiting (c.onIdentifiedCallbacks.map (·, firstConnect es) ++ identityFates es) := by
  induction es generalizing c out with
  | nil =>
    simp at h
    obtain ⟨rfl, rfl⟩ := h
    simp [firstConnect, identityFates]
  | cons e es ih =>
    obtain ⟨c₁, out₁, out₂, h₁, h₂, rfl⟩ := run_cons_ok.mp h
    have st := handle_callbackStep h₁
    obtain ⟨ih₁, ih₂⟩ := ih h₂
    rw [st.waiters] at ih₁ ih₂
    have hid := st.identified
    simp only [identityFates, identifiedSent_append]
    rcases hfc : firstConnect [e] with _ | v
    · simp only [hfc, answered_owed_none, List.perm_nil, waiting_owed_none] at hid ih₁ ih₂
      rw [firstConnect_cons_of_none hfc, hid]
      exact ⟨by simpa using ih₁, by simpa using ih₂⟩
    · obtain ⟨hfc', hreg⟩ := @firstConnect_cons_of_some _ es _ hfc
      simp only [hfc, answered_owed_some, waiting_owed_some, hreg, List.append_nil,
        List.map_nil, List.nil_append] at hid ih₁ ih₂
      rw [hfc', hreg]
      exact ⟨by simpa using hid.append ih₁, by simpa using ih₂⟩

/-- Over every run, the completion callbacks answered are those a `HandshakeAcknowledge`
handled while connected owes an answer, each once; the others are still kept, in order. -/
theorem handshake_callbacks_answered {ctx : ClientContext} {es : List ClientEvent}
    {c c' : RemoteClient} {out : List ClientEffect} (h : run ctx es c = .ok (c', out)) :
    (acknowledgedSent out).Perm (withAnswer true
        (c.onHandshakeAckCallbacks.map (·, acknowledgedIn c.isConnected es) ++
          ackFates c.isConnected es)) ∧
      c'.onHandshakeAckCallbacks = withAnswer false
        (c.onHandshakeAckCallbacks.map (·, acknowledgedIn c.isConnected es) ++
          ackFates c.isConnected es) := by
  induction es generalizing c out with
  | nil =>
    simp at h
    obtain ⟨rfl, rfl⟩ := h
    simp [acknowledgedIn, ackFates]
  | cons e es ih =>
    obtain ⟨c₁, out₁, out₂, h₁, h₂, rfl⟩ := run_cons_ok.mp h
    have st := handle_callbackStep h₁
    obtain ⟨ih₁, ih₂⟩ := ih h₂
    rw [st.link, st.kept] at ih₁ ih₂
    have hack := st.acknowledged
    simp only [acknowledgedIn, ackFates, acknowledgedSent_append]
    cases ha : (c.isConnected && e.isAck) <;> simp only [ha, if_true, if_false,
      Bool.false_eq_true, List.perm_nil, Bool.true_or, Bool.false_or, List.nil_append] at hack ih₁ ih₂ ⊢
    · rw [hack]
      exact ⟨by simpa using ih₁, by simpa using ih₂⟩
    · exact ⟨by simpa using hack.append ih₁, by simpa using ih₂⟩

/-- Every callback the client holds is answered at most once. Each identity waiter is answered
by the first `Connect` after its registration, with that `Connect`'s identity or `None`; each
kept completion callback by the first `HandshakeAcknowledge` handled while connected after it;
the rest are still held. -/
theorem callbacks_answered_once {ctx : ClientContext} {es : List ClientEvent}
    {c c' : RemoteClient} {out : List ClientEffect} (h : run ctx es c = .ok (c', out)) :
    (identifiedSent out).Perm
        (answered (c.onIdentifiedCallbacks.map (·, firstConnect es) ++ identityFates es)) ∧
      c'.onIdentifiedCallbacks =
        waiting (c.onIdentifiedCallbacks.map (·, firstConnect es) ++ identityFates es) ∧
      (acknowledgedSent out).Perm (withAnswer true
        (c.onHandshakeAckCallbacks.map (·, acknowledgedIn c.isConnected es) ++
          ackFates c.isConnected es)) ∧
      c'.onHandshakeAckCallbacks = withAnswer false
        (c.onHandshakeAckCallbacks.map (·, acknowledgedIn c.isConnected es) ++
          ackFates c.isConnected es) :=
  ⟨(identity_waiters_answered h).1, (identity_waiters_answered h).2,
    (handshake_callbacks_answered h).1, (handshake_callbacks_answered h).2⟩

/-- A new client waited on for its identity, connected, and then handshaking. -/
def handshakeRun : List ClientEvent :=
  [.awaitIdentity 7, .connect (.identified ⟨⟨2, "10.0.0.2:30101", "", none⟩⟩) [],
    .beginHandshake ⟨[], 8⟩ true true, .handshakeAcknowledge ⟨2, "node-2"⟩]

theorem callbacks_answered_once_handshake :
    ∃ c' out, run ⟨1, "node-1"⟩ handshakeRun (RemoteClient.new "10.0.0.2:30101" .client) =
        .ok (c', out) ∧
      ((identifiedSent out).Perm
        (answered ([].map (·, firstConnect handshakeRun) ++ identityFates handshakeRun)) ∧
      c'.onIdentifiedCallbacks =
        waiting ([].map (·, firstConnect handshakeRun) ++ identityFates handshakeRun) ∧
      (acknowledgedSent out).Perm (withAnswer true
        ([].map (·, acknowledgedIn false handshakeRun) ++ ackFates false handshakeRun)) ∧
      c'.onHandshakeAckCallbacks = withAnswer false
        ([].map (·, acknowledgedIn false handshakeRun) ++ ackFates false handshakeRun)) :=
  ⟨_, _, rfl, callbacks_answered_once (c := RemoteClient.new "10.0.0.2:30101" .client) (by rfl)⟩

def ClientEffect.isReconnect : ClientEffect → Bool
  | .reconnectScheduled => true
  | _ => false

/-- The reconnects `e` schedules from link state `connected`: one for each `Disconnected` it
runs, that is a failed `Connect`, a `Disconnected`, or a failed direct write. -/
def ClientEvent.reconnects (connected : Bool) : ClientEvent → Nat
  | .connect (.identified _) _ => 0
  | .connect _ _ => 1
  | .disconnected => 1
  | .write (some _) false => if connected then 1 else 0
  | _ => 0

/-- The reconnects `es` schedules from link state `connected`. -/
def reconnectsIn : Bool → List ClientEvent → Nat
  | _, [] => 0
  | connected, e :: es => e.reconnects connected + reconnectsIn (e.linkAfter connected) es

theorem handle_reconnects {ctx : ClientContext} {e : ClientEvent} {c c' : RemoteClient}
    {out : List ClientEffect} (h : e.handle ctx c = .ok (c', out)) :
    out.countP ClientEffect.isReconnect = e.reconnects c.isConnected := by
  cases handle_ok h
  case connected _ _ _ _ _ _ hcs _ _ =>
    obtain ⟨identity, rfl, rfl⟩ := connect_eq_some hcs
    simp [ClientEvent.reconnects, ClientEffect.isReconnect, List.countP_map, Function.comp_def]
  case connectFailed dial _ _ hcs _ =>
    cases dial <;> simp_all [connect, ClientEvent.reconnects, ClientEffect.isReconnect]
  case buffered _ ok _ hc => cases ok <;> simp [hc, ClientEvent.reconnects, ClientEffect.isReconnect]
  all_goals simp_all [ClientEvent.reconnects, ClientEffect.isReconnect, List.countP_map,
    Function.comp_def]

/-- Exactly one reconnect is scheduled for each lost or failed connection, and none otherwise:
over every run, the reconnects scheduled are those the messages call for from the abstract
link. -/
theorem reconnects_scheduled_once_per_failure {ctx : ClientContext} {es : List ClientEvent}
    {c c' : RemoteClient} {out : List ClientEffect} (h : run ctx es c = .ok (c', out)) :
    out.countP ClientEffect.isReconnect = reconnectsIn c.isConnected es := by
  induction es generalizing c out with
  | nil =>
    obtain ⟨rfl, rfl⟩ := Prod.mk.inj (Except.ok.inj h)
    rfl
  | cons e es ih =>
    obtain ⟨c₁, out₁, out₂, h₁, h₂, rfl⟩ := run_cons_ok.mp h
    rw [List.countP_append, handle_reconnects h₁, ih h₂, (handle_callbackStep h₁).link]
    rfl

/-- A refused connection, a connection, two failing direct writes (the second one while idle), and
a drop. -/
def mixedRun : List ClientEvent :=
  [.connect .refused [], .connect (.identified ⟨⟨2, "10.0.0.2:30101", "", none⟩⟩) [],
    .write (some [1]) false, .write (some [2]) false, .disconnected]

theorem reconnects_scheduled_once_per_failure_mixed :
    ∃ c' out, run ⟨1, "node-1"⟩ mixedRun (RemoteClient.new "10.0.0.2:30101" .client) =
        .ok (c', out) ∧
      out.countP ClientEffect.isReconnect =
        reconnectsIn (RemoteClient.new "10.0.0.2:30101" .client).isConnected mixedRun :=
  ⟨_, _, rfl, @reconnects_scheduled_once_per_failure ⟨1, "node-1"⟩ mixedRun
    (RemoteClient.new "10.0.0.2:30101" .client) _ _ rfl⟩

end Coerce.Client
