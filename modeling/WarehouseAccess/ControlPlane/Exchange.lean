import WarehouseAccess.ControlPlane.Error
import WarehouseAccess.Duration.Document
import WarehouseAccess.Http
/-!
# Exchanges with the control plane

An exchange is what a client does next, given what came back so far: it sends a request, pauses,
reads the clock, or is done.  It says nothing about the other side.  `Exchange.run` lets it run
against a peer and keeps the trace of requests and pauses, so a rule such as "no request after an
error" is a statement about the traces of all runs.
-/

namespace WarehouseAccess

/-- What a client does next. -/
inductive Exchange (α : Type) where
  | done (result : α)
  | send (request : HttpRequest) (next : HttpReply → Exchange α)
  | pause (length : Duration) (next : Exchange α)
  /-- Reads the clock: seconds since 1970-01-01 in universal time. -/
  | clock (next : Int → Exchange α)

namespace Exchange

/-- Goes on with what an exchange leads to. -/
def bind {α β : Type} : Exchange α → (α → Exchange β) → Exchange β
  | done a, f => f a
  | send r next, f => send r fun reply => bind (next reply) f
  | pause d next, f => pause d (bind next f)
  | clock next, f => clock fun now => bind (next now) f

instance : Monad Exchange where
  pure := done
  bind := bind

/-- The other side of exchanges: it answers requests and owns the clock. -/
structure Peer (σ : Type) where
  answer : HttpRequest → σ → HttpReply × σ
  now : σ → Int × σ

/-- What can be seen of an exchange from outside. -/
inductive Event where
  | sent (request : HttpRequest)
  | paused (length : Duration)

/-- The request of an event. -/
def Event.request? : Event → Option HttpRequest
  | sent r => some r
  | paused _ => none

/-- The pause of an event. -/
def Event.pause? : Event → Option Duration
  | sent _ => none
  | paused d => some d

/-- Runs an exchange against a peer: the result, the events in order, and the peer afterwards. -/
def run {σ α : Type} (peer : Peer σ) : Exchange α → σ → α × List Event × σ
  | done a, s => (a, [], s)
  | send r next, s =>
    let (reply, s) := peer.answer r s
    let (a, events, s) := run peer (next reply) s
    (a, .sent r :: events, s)
  | pause d next, s =>
    let (a, events, s) := run peer next s
    (a, .paused d :: events, s)
  | clock next, s =>
    let (now, s) := peer.now s
    run peer (next now) s

/-- Two exchanges one after the other: the events of the first come before those of the second. -/
theorem run_bind {σ α β : Type} (peer : Peer σ) (f : α → Exchange β) (x : Exchange α) (s : σ) :
    run peer (bind x f) s =
      let (a, events, s) := run peer x s
      let (b, more, s) := run peer (f a) s
      (b, events ++ more, s) := by
  induction x generalizing s with
  | done a => simp [bind, run]
  | send r next ih => simp [bind, run, ih]
  | pause d next ih => simp [bind, run, ih]
  | clock next ih => simp [bind, run, ih]

/-- The requests among events. -/
def requests (events : List Event) : List HttpRequest := events.filterMap Event.request?

/-- The pauses among events. -/
def pauses (events : List Event) : List Duration := events.filterMap Event.pause?

end Exchange

/-- An exchange that can end in an error. -/
abbrev Inquiry := ExceptT ControlPlaneError Exchange

namespace Inquiry

/-- Sends a request; a request that fails on the way is an error. -/
def send (r : HttpRequest) : Inquiry HttpResponse :=
  ExceptT.mk (.send r fun
    | .response response => .done (.ok response)
    | .failure reason => .done (.error (.transport reason)))

/-- Reads the clock. -/
def clock : Inquiry Int := ExceptT.mk (.clock fun now => .done (.ok now))

/-- A response whose status says that the request was carried out. -/
def checkStatus (r : HttpResponse) : Except ControlPlaneError HttpResponse :=
  if r.isSuccess then .ok r else .error (.http r.status r.body)

/-- The body of a response. -/
def body (r : HttpResponse) : Except ControlPlaneError Json :=
  match r.json? with
  | some j => .ok j
  | none => .error (.invalidResponse (.notJson r.status))

end Inquiry

end WarehouseAccess
