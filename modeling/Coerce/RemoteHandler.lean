import Coerce.RemoteRegistry

/-!
# Remote handler: the request table

`RemoteHandler` answers `GetHandler` and `HandlerName` from its handler tables and keeps the
requests awaiting a reply in `requests`, a `HashMap` keyed by request id (here an `AList`):
`PushRequest` inserts, dropping the request pending under the same id, and `PopRequest` removes
and returns it. Over every run no request is duplicated or invented (`requests_conserved`).
-/
namespace Coerce.Handler

open Registry (Uuid)

/-- `std::any::TypeId`. -/
abbrev TypeId := Nat

variable {H Q : Type}

/-- The fields of `RemoteHandler` its handlers read and write: `handler_types` names the handler of
an actor and message type, `handlers` holds the handlers by name, and `requests` the pending
requests by id. Handlers (`H`) and requests (`Q`, a `RemoteRequest`) are abstract. -/
structure RemoteHandler (H Q : Type) where
  handlerTypes : AList fun _ : TypeId => String
  handlers : AList fun _ : String => H
  requests : AList fun _ : Uuid => Q

/-- `Handler<GetHandler>`: the named handler, whose `new_boxed()` copy is the reply. -/
def RemoteHandler.handleGetHandler (h : RemoteHandler H Q) (name : String) : Option H :=
  h.handlers.lookup name

/-- `Handler<PushRequest>`. `HashMap::insert` returns the request it displaces, and the handler
drops it. -/
def RemoteHandler.handlePushRequest (h : RemoteHandler H Q) (id : Uuid) (request : Q) :
    RemoteHandler H Q × Option Q :=
  ({ h with requests := h.requests.insert id request }, h.requests.lookup id)

/-- `Handler<PopRequest>`: `HashMap::remove`. -/
def RemoteHandler.handlePopRequest (h : RemoteHandler H Q) (id : Uuid) :
    RemoteHandler H Q × Option Q :=
  ({ h with requests := h.requests.erase id }, h.requests.lookup id)

/-- `Handler<HandlerName<A, M>>`, given the `TypeId` of the message's marker. -/
def RemoteHandler.handleHandlerName (h : RemoteHandler H Q) (typeId : TypeId) : Option String :=
  h.handlerTypes.lookup typeId

inductive HandlerEvent (Q : Type)
  | getHandler (name : String)
  | pushRequest (id : Uuid) (request : Q)
  | popRequest (id : Uuid)
  | handlerName (typeId : TypeId)
  deriving DecidableEq, Repr

/-- The reply of each handler. A push replies `()`; `displaced` is the request it dropped. -/
inductive HandlerReply (H Q : Type)
  | handler (handler : Option H)
  | pushed (displaced : Option Q)
  | request (request : Option Q)
  | name (name : Option String)
  deriving DecidableEq, Repr

def HandlerEvent.handle : HandlerEvent Q → RemoteHandler H Q → RemoteHandler H Q × HandlerReply H Q
  | .getHandler name, h => (h, .handler (h.handleGetHandler name))
  | .pushRequest id request, h =>
    let r := h.handlePushRequest id request
    (r.1, .pushed r.2)
  | .popRequest id, h =>
    let r := h.handlePopRequest id
    (r.1, .request r.2)
  | .handlerName typeId, h => (h, .name (h.handleHandlerName typeId))

/-- The handler after the messages `es`, one at a time, with every reply. -/
def run : List (HandlerEvent Q) → RemoteHandler H Q → RemoteHandler H Q × List (HandlerReply H Q)
  | [], h => (h, [])
  | e :: es, h =>
    let r₁ := e.handle h
    let r := run es r₁.1
    (r.1, r₁.2 :: r.2)

/-- The requests pending, in the map's iteration order. -/
def RemoteHandler.pending (h : RemoteHandler H Q) : List Q := h.requests.entries.map Sigma.snd

def HandlerReply.popped? : HandlerReply H Q → Option Q
  | .request q => q
  | _ => none

def HandlerReply.displaced? : HandlerReply H Q → Option Q
  | .pushed displaced => displaced
  | _ => none

def HandlerEvent.pushed? : HandlerEvent Q → Option Q
  | .pushRequest _ request => some request
  | _ => none

theorem handle_conserves (e : HandlerEvent Q) (h : RemoteHandler H Q) :
    ((e.handle h).2.popped?.toList ++ (e.handle h).2.displaced?.toList ++ (e.handle h).1.pending).Perm
      (h.pending ++ e.pushed?.toList) := by
  have hv := values_perm_erase h.requests
  cases e with
  | pushRequest id request =>
    simp only [HandlerEvent.handle, RemoteHandler.handlePushRequest, HandlerReply.popped?,
      HandlerReply.displaced?, HandlerEvent.pushed?, RemoteHandler.pending, AList.insert_entries,
      Option.toList_none, Option.toList_some, List.nil_append, List.map_cons]
    refine (((hv id).append_right [request]).trans ?_).symm
    rw [List.append_assoc]
    exact List.perm_append_comm.append_left _
  | popRequest id =>
    simpa [HandlerEvent.handle, RemoteHandler.handlePopRequest, HandlerReply.popped?,
      HandlerReply.displaced?, HandlerEvent.pushed?, RemoteHandler.pending, List.perm_comm] using hv id
  | getHandler | handlerName => simp [HandlerEvent.handle, HandlerReply.popped?,
      HandlerReply.displaced?, HandlerEvent.pushed?]

theorem filterMap_cons_toList {α β : Type} (f : α → Option β) (a : α) (l : List α) :
    (a :: l).filterMap f = (f a).toList ++ l.filterMap f := by
  cases h : f a <;> simp [List.filterMap_cons, h]

theorem run_conserves (es : List (HandlerEvent Q)) (h : RemoteHandler H Q) :
    ((run es h).2.filterMap HandlerReply.popped? ++ (run es h).2.filterMap HandlerReply.displaced? ++
      (run es h).1.pending).Perm (h.pending ++ es.filterMap HandlerEvent.pushed?) := by
  induction es generalizing h with
  | nil => simp [run]
  | cons e es ih =>
    classical
    have hstep := List.perm_iff_count.mp (handle_conserves e h)
    have hrest := List.perm_iff_count.mp (ih (e.handle h).1)
    simp only [run, filterMap_cons_toList]
    refine List.perm_iff_count.mpr fun a => ?_
    have h₁ := hstep a
    have h₂ := hrest a
    simp only [List.count_append] at h₁ h₂ ⊢
    omega

/-- No request is duplicated or invented: over every run, the requests the pops returned, those
the pushes dropped, and those still pending are, up to order, the requests pending at the start
and those pushed. So, with distinct requests, none is returned twice or both returned and
dropped. -/
theorem requests_conserved (es : List (HandlerEvent Q)) (h : RemoteHandler H Q) :
    ((run es h).2.filterMap HandlerReply.popped? ++ (run es h).2.filterMap HandlerReply.displaced? ++
        (run es h).1.pending).Perm (h.pending ++ es.filterMap HandlerEvent.pushed?) ∧
      ((h.pending ++ es.filterMap HandlerEvent.pushed?).Nodup →
        ((run es h).2.filterMap HandlerReply.popped? ++
          (run es h).2.filterMap HandlerReply.displaced? ++ (run es h).1.pending).Nodup) :=
  ⟨run_conserves es h, (run_conserves es h).nodup_iff.mpr⟩

end Coerce.Handler
