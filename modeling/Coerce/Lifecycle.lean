import Mathlib

/-! `actor_loop` runs `started`, returns at once if the hook left the status `Stopping`, and
otherwise handles the mailbox's envelopes in order until a handler leaves the status `Stopping` or
the mailbox closes; it then runs `stopped` under the status `Stopping` and ends `Stopped`. The
mailbox is the finite list of envelopes delivered before the channel closes, and the loop returns
a log of every hook and handler it called. -/
namespace Coerce.Lifecycle

inductive ActorStatus
  | starting
  | started
  | stopping
  | stopped
  deriving DecidableEq, Repr

/-- The part of `ActorHandlerContext` that `actor_loop` and the built-in handlers read. -/
structure ActorHandlerContext where
  status : ActorStatus
  deriving DecidableEq, Repr

/-- What `actor_loop` calls on an actor with messages `M`: its lifecycle hooks and its handlers,
each taking `&mut self` and `&mut ActorHandlerContext`. -/
structure Actor (A M : Type) where
  started : A × ActorHandlerContext → A × ActorHandlerContext
  stopped : A × ActorHandlerContext → A × ActorHandlerContext
  handle : M → A × ActorHandlerContext → A × ActorHandlerContext

/-- A `MessageHandler<A>` in the mailbox: the built-in `Status` and `Stop`, or a message of the
actor's own. -/
inductive Envelope (M : Type)
  | status
  | stop
  | user (message : M)
  deriving DecidableEq, Repr

/-- `Handler<Status>`: the context is unchanged and the reply is its status. -/
def handleStatus (ctx : ActorHandlerContext) : ActorHandlerContext × ActorStatus :=
  (ctx, ctx.status)

/-- `Handler<Stop>`. -/
def handleStop (ctx : ActorHandlerContext) : ActorHandlerContext × ActorStatus :=
  ({ ctx with status := .stopping }, .stopping)

variable {A M : Type}

/-- `msg.handle(&mut actor, &mut ctx)`. The reply goes to the envelope's sender; the loop drops it. -/
def Envelope.handle (actor : Actor A M) : Envelope M → A × ActorHandlerContext →
    A × ActorHandlerContext
  | .status, (a, ctx) => (a, (handleStatus ctx).1)
  | .stop, (a, ctx) => (a, (handleStop ctx).1)
  | .user message, s => actor.handle message s

/-- The actor and its context after the handlers of `es`, one after the other. -/
def handleAll (actor : Actor A M) (es : List (Envelope M)) (s : A × ActorHandlerContext) :
    A × ActorHandlerContext :=
  es.foldl (fun s msg => msg.handle actor s) s

@[simp] theorem handleAll_nil (actor : Actor A M) (s : A × ActorHandlerContext) :
    handleAll actor [] s = s := rfl

@[simp] theorem handleAll_cons (actor : Actor A M) (msg : Envelope M) (es : List (Envelope M))
    (s : A × ActorHandlerContext) :
    handleAll actor (msg :: es) s = handleAll actor es (msg.handle actor s) := rfl

end Coerce.Lifecycle
