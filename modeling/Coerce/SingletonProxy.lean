import Mathlib

/-!
# Cluster singleton proxy

`Proxy<A>` fronts a cluster singleton: while `Buffered` it queues requests, `SingletonStarted`
drains the queue into the new reference, and `SingletonStopping` returns an `Active` proxy to
`Buffered`. Requests (`Q`) and references (`R`) are abstract; by `destinations`, each request goes
to the reference active when it arrives, or else to that of the first later `SingletonStarted`.
-/
namespace Coerce.Singleton

variable {Q R : Type}

inductive ProxyState (Q R : Type)
  | buffered (requestQueue : List Q)
  | active (actorRef : R)
  deriving DecidableEq, Repr

structure Proxy (Q R : Type) where
  state : ProxyState Q R
  deriving DecidableEq, Repr

def Proxy.new : Proxy Q R := ⟨.buffered []⟩

def ProxyState.isActive : ProxyState Q R → Bool
  | .active _ => true
  | .buffered _ => false

/-- A call of `Buffered::send`: the drain of `SingletonStarted`, or a request that reached an
active proxy. -/
inductive ProxySend (Q R : Type)
  | drained (request : Q) (actorRef : R)
  | direct (request : Q) (actorRef : R)
  deriving DecidableEq, Repr

/-- `Handler<SingletonStarted<A>>`. -/
def Proxy.handleSingletonStarted (p : Proxy Q R) (actorRef : R) :
    Proxy Q R × List (ProxySend Q R) :=
  let sends := match p.state with
    | .buffered requestQueue => requestQueue.map (.drained · actorRef)
    | .active _ => []
  (⟨.active actorRef⟩, sends)

/-- `Handler<SingletonStopping>`. -/
def Proxy.handleSingletonStopping (p : Proxy Q R) : Proxy Q R :=
  if p.state.isActive then ⟨.buffered []⟩ else p

/-- Modelled from the spec: the handler of a request sent to the proxy (`proxy/send.rs`) is not
under src/. A buffered proxy appends the request to its queue, an active one sends it on. -/
def Proxy.deliver (p : Proxy Q R) (request : Q) : Proxy Q R × List (ProxySend Q R) :=
  match p.state with
  | .buffered requestQueue => (⟨.buffered (requestQueue ++ [request])⟩, [])
  | .active actorRef => (p, [.direct request actorRef])

inductive ProxyEvent (Q R : Type)
  | deliver (request : Q)
  | singletonStarted (actorRef : R)
  | singletonStopping
  deriving DecidableEq, Repr

def ProxyEvent.handle : ProxyEvent Q R → Proxy Q R → Proxy Q R × List (ProxySend Q R)
  | .deliver request, p => p.deliver request
  | .singletonStarted actorRef, p => p.handleSingletonStarted actorRef
  | .singletonStopping, p => (p.handleSingletonStopping, [])

/-- The proxy after handling `es` in order, with every send made. -/
def run : List (ProxyEvent Q R) → Proxy Q R → Proxy Q R × List (ProxySend Q R)
  | [], p => (p, [])
  | e :: es, p =>
    let r₁ := e.handle p
    let r := run es r₁.1
    (r.1, r₁.2 ++ r.2)

/-- The requests still waiting: the queue of a buffered proxy. -/
def Proxy.queue (p : Proxy Q R) : List Q :=
  match p.state with
  | .buffered requestQueue => requestQueue
  | .active _ => []

/-- The reference an active proxy sends to. -/
def Proxy.actorRef? (p : Proxy Q R) : Option R :=
  match p.state with
  | .buffered _ => none
  | .active actorRef => some actorRef

def ProxySend.request : ProxySend Q R → Q
  | .drained request _ | .direct request _ => request

def ProxySend.destination : ProxySend Q R → Q × Option R
  | .drained request actorRef | .direct request actorRef => (request, some actorRef)

def ProxySend.drained? : ProxySend Q R → Option (Q × Option R)
  | .drained request actorRef => some (request, some actorRef)
  | .direct _ _ => none

def ProxyEvent.request? : ProxyEvent Q R → Option Q
  | .deliver request => some request
  | _ => none

/-- The reference of the first `SingletonStarted` of `es`. -/
def firstStarted : List (ProxyEvent Q R) → Option R
  | [] => none
  | .singletonStarted actorRef :: _ => some actorRef
  | _ :: es => firstStarted es

/-- Where each request of `es` goes, from a proxy whose active reference is `current`: to the
current reference, or else to the first one started after it (`none` while it waits). -/
def destinations : Option R → List (ProxyEvent Q R) → List (Q × Option R)
  | _, [] => []
  | current, .deliver request :: es =>
    (request, current.orElse fun _ => firstStarted es) :: destinations current es
  | _, .singletonStarted actorRef :: es => destinations (some actorRef) es
  | _, .singletonStopping :: es => destinations none es

/-- `destinations` restricted to the requests that are appended to the queue, those arriving
while no reference is active. -/
def appendedDestinations : Option R → List (ProxyEvent Q R) → List (Q × Option R)
  | _, [] => []
  | none, .deliver request :: es => (request, firstStarted es) :: appendedDestinations none es
  | some actorRef, .deliver _ :: es => appendedDestinations (some actorRef) es
  | _, .singletonStarted actorRef :: es => appendedDestinations (some actorRef) es
  | _, .singletonStopping :: es => appendedDestinations none es

@[simp] theorem destination_fst (s : ProxySend Q R) : s.destination.1 = s.request := by
  cases s <;> rfl

theorem destinations_map_fst (current : Option R) (es : List (ProxyEvent Q R)) :
    (destinations current es).map Prod.fst = es.filterMap ProxyEvent.request? := by
  induction es generalizing current with
  | nil => rfl
  | cons e es ih => cases e <;> simp [destinations, ProxyEvent.request?, ih]

theorem filterMap_drained (qs : List Q) (actorRef : R) :
    (qs.map (.drained · actorRef)).filterMap ProxySend.drained? = qs.map (·, some actorRef) := by
  induction qs <;> simp_all [ProxySend.drained?]

@[simp] theorem run_nil (p : Proxy Q R) : run [] p = (p, []) := rfl

theorem run_cons (e : ProxyEvent Q R) (es : List (ProxyEvent Q R)) (p : Proxy Q R) :
    run (e :: es) p = ((run es (e.handle p).1).1, (e.handle p).2 ++ (run es (e.handle p).1).2) :=
  rfl

/-- What one event does, as seen through the queue and the active reference. -/
theorem handle_cases (e : ProxyEvent Q R) (p : Proxy Q R) :
    (∃ request, e = .deliver request ∧ p.actorRef? = none ∧
      (e.handle p).1.queue = p.queue ++ [request] ∧ (e.handle p).1.actorRef? = none ∧
      (e.handle p).2 = []) ∨
    (∃ request actorRef, e = .deliver request ∧ p.actorRef? = some actorRef ∧
      (e.handle p).1 = p ∧ p.queue = [] ∧ (e.handle p).2 = [.direct request actorRef]) ∨
    (∃ actorRef, e = .singletonStarted actorRef ∧ (e.handle p).1.queue = [] ∧
      (e.handle p).1.actorRef? = some actorRef ∧
      (e.handle p).2 = p.queue.map (.drained · actorRef)) ∨
    (e = .singletonStopping ∧ (e.handle p).1.queue = p.queue ∧ (e.handle p).1.actorRef? = none ∧
      (e.handle p).2 = []) := by
  rcases p with ⟨_ | _⟩ <;> cases e <;>
    simp [ProxyEvent.handle, Proxy.deliver, Proxy.handleSingletonStarted,
      Proxy.handleSingletonStopping, ProxyState.isActive, Proxy.queue, Proxy.actorRef?]

/-- A buffered proxy's queue goes to the first reference started. -/
theorem run_appended (es : List (ProxyEvent Q R)) (p : Proxy Q R) :
    (run es p).2.filterMap ProxySend.drained? ++ (run es p).1.queue.map (·, none) =
      p.queue.map (·, firstStarted es) ++ appendedDestinations p.actorRef? es := by
  induction es generalizing p with
  | nil => simp [firstStarted, appendedDestinations]
  | cons e es ih =>
    rw [run_cons, List.filterMap_append, List.append_assoc, ih]
    rcases handle_cases e p with
      ⟨q, rfl, hp, hq, hr, hs⟩ | ⟨q, r, rfl, hp, hp', hq, hs⟩ | ⟨r, rfl, hq, hr, hs⟩ |
        ⟨rfl, hq, hr, hs⟩
    · simp [hp, hq, hr, hs, firstStarted, appendedDestinations]
    · simp [hp, hp', hq, hs, ProxySend.drained?, appendedDestinations]
    · rw [hs, filterMap_drained]
      simp [hq, hr, firstStarted, appendedDestinations]
    · simp [hq, hr, hs, firstStarted, appendedDestinations]

/-- Every request is sent once, to the reference active when it arrives or the first one started
after it, or still waits; the sends, then the queue, are the requests in arrival order. -/
theorem run_destinations (es : List (ProxyEvent Q R)) (p : Proxy Q R) :
    (run es p).2.map ProxySend.destination ++ (run es p).1.queue.map (·, none) =
      p.queue.map (·, firstStarted es) ++ destinations p.actorRef? es := by
  induction es generalizing p with
  | nil => simp [firstStarted, destinations]
  | cons e es ih =>
    rw [run_cons, List.map_append, List.append_assoc, ih]
    rcases handle_cases e p with
      ⟨q, rfl, hp, hq, hr, hs⟩ | ⟨q, r, rfl, hp, hp', hq, hs⟩ | ⟨r, rfl, hq, hr, hs⟩ |
        ⟨rfl, hq, hr, hs⟩
    · simp [hp, hq, hr, hs, firstStarted, destinations]
    · simp [hp, hp', hq, hs, ProxySend.destination, destinations]
    · simp [hq, hr, hs, Function.comp_def, ProxySend.destination, firstStarted, destinations]
    · simp [hq, hr, hs, firstStarted, destinations]

theorem appended_requests_drained_in_order (es : List (ProxyEvent Q R)) :
    (run es Proxy.new).2.filterMap ProxySend.drained? ++
        (run es Proxy.new).1.queue.map (·, none) =
      appendedDestinations none es := by
  simpa [Proxy.new, Proxy.queue, Proxy.actorRef?] using run_appended es Proxy.new

theorem requests_sent_once_in_order (es : List (ProxyEvent Q R)) :
    (run es Proxy.new).2.map ProxySend.destination ++ (run es Proxy.new).1.queue.map (·, none) =
        destinations none es ∧
      (run es Proxy.new).2.map ProxySend.request ++ (run es Proxy.new).1.queue =
        es.filterMap ProxyEvent.request? := by
  have h := run_destinations es Proxy.new
  simp only [Proxy.new, Proxy.queue, Proxy.actorRef?, List.map_nil, List.nil_append] at h
  refine ⟨h, ?_⟩
  simpa [Function.comp_def, destinations_map_fst] using congrArg (List.map Prod.fst) h

end Coerce.Singleton
