import WarehouseAccess.ControlPlane.Exchange
import WarehouseAccess.Text.Lowercase
/-!
# Operations that take time

The control plane accepts some requests and carries them out later.  A client looks at the
operation's address until it has ended:

* status 201: the operation succeeded; its result stands at the address with `/result` behind it;
* status 200 and the body says `succeeded`: likewise, but where no result can be had the body stands
  for it;
* status 200 and the body says `failed`: the operation failed for the reason in the body;
* status 200 and the body says anything else, or status 202: the client pauses and looks again;
* any other status is an error.
-/

namespace WarehouseAccess

/-- What the service says of an operation. -/
inductive OperationStatus where
  | notStarted
  | running
  | succeeded
  | failed
  | undefined
  /-- Something that this client does not know, in lower case. -/
  | unknown (text : String)
deriving DecidableEq, Repr

namespace OperationStatus

/-- The status of a word; letter case does not count. -/
def ofText (s : String) : OperationStatus :=
  match lowercase s with
  | "notstarted" => notStarted
  | "running" => running
  | "succeeded" => succeeded
  | "failed" => failed
  | "undefined" => undefined
  | other => unknown other

/-- The word of a status. -/
def text : OperationStatus → String
  | notStarted => "notstarted"
  | running => "running"
  | succeeded => "succeeded"
  | failed => "failed"
  | undefined => "undefined"
  | unknown text => text

/-- The operation has ended. -/
def isTerminal : OperationStatus → Bool
  | succeeded => true
  | failed => true
  | _ => false

/-- How far an operation has come. -/
def rank : OperationStatus → Nat
  | notStarted => 0
  | undefined => 0
  | unknown _ => 0
  | running => 1
  | succeeded => 2
  | failed => 2

end OperationStatus

/-- An operation that the service has accepted. -/
structure Operation where
  id : String
  location : String
  status : OperationStatus := .notStarted
  result : Option Json := none
deriving Repr

namespace Operation

/-- Takes note of a status.  An operation does not go back, and one that has ended stays so. -/
def observe (o : Operation) (status : OperationStatus) : Operation :=
  if o.status.isTerminal then o
  else if o.status.rank ≤ status.rank then { o with status }
  else o

/-- An operation that has ended takes note of nothing more. -/
theorem observe_of_isTerminal {o : Operation} (h : o.status.isTerminal = true)
    (status : OperationStatus) : o.observe status = o := by
  simp [observe, h]

/-- An operation does not go back. -/
theorem rank_le_rank_observe (o : Operation) (status : OperationStatus) :
    o.status.rank ≤ (o.observe status).status.rank := by
  unfold observe
  split
  · exact Nat.le_refl _
  · split
    · assumption
    · exact Nat.le_refl _

/-- Taking note of a status leaves the result as it is. -/
theorem result_observe (o : Operation) (status : OperationStatus) :
    (o.observe status).result = o.result := by
  unfold observe
  split
  · rfl
  · split <;> rfl

/-- Where the result of an operation stands. -/
def resultUrl (o : Operation) : String := o.location ++ "/result"

/-- What one look at an operation leads to. -/
inductive Look where
  | ended (result : Json)
  | wait

/-- A text inside the error that a body reports. -/
def reported (body : Json) (key default : String) : String :=
  ((body.get? "error").bind (Json.textAt key)).getD default

/-- The body of a response with status 200, when it is JSON. -/
def resultBody? : HttpReply → Option Json
  | .response r => if r.status = 200 then r.json? else none
  | .failure _ => none

/-- The result of an operation, or the given body where none can be had. -/
def resultOr (o : Operation) (body : Json) : Exchange Json :=
  .send (.get o.resultUrl) fun reply => .done ((resultBody? reply).getD body)

/-- The result of an operation that has to be there. -/
def fetchResult (o : Operation) : Inquiry Json := do
  let response ← Inquiry.send (.get o.resultUrl)
  let response ← liftExcept (Inquiry.checkStatus response)
  liftExcept (Inquiry.body response)
where
  /-- An error that is known already. -/
  liftExcept {α : Type} (r : Except ControlPlaneError α) : Inquiry α := ExceptT.mk (.done r)

/-- What a body with status 200 says of an operation. -/
def statusIn (body : Json) : OperationStatus :=
  OperationStatus.ofText ((body.textAt "status").getD "")

/-- Goes on after the response to one look. -/
def onResponse (o : Operation) (r : HttpResponse) :
    Exchange (Except ControlPlaneError Look × Operation) :=
  if r.status = 201 then
    let o := o.observe .succeeded
    (o.fetchResult).run.bind fun result => .done (result.map .ended, o)
  else if r.status = 200 then
    match Inquiry.body r with
    | .error e => .done (.error e, o)
    | .ok body =>
      let status := statusIn body
      let o := o.observe status
      match status with
      | .succeeded => (o.resultOr body).bind fun result => .done (.ok (.ended result), o)
      | .failed =>
        .done (.error (.operationFailed o.id (reported body "code" "Unknown")
          (reported body "message" "Unknown error")), o)
      | _ => .done (.ok .wait, o)
  else if r.status = 202 then .done (.ok .wait, o)
  else if r.isSuccess then .done (.error (.invalidResponse (.whilePolling o.id)), o)
  else .done (.error (.http r.status r.body), o)

/-- One look at an operation. -/
def look (o : Operation) : Exchange (Except ControlPlaneError Look × Operation) :=
  .send (.get o.location) fun
    | .response r => o.onResponse r
    | .failure reason => .done (.error (.transport reason), o)

/-- Looks at an operation at most `left` more times of `limit`, with a pause after each look that
finds it under way. -/
def pollFrom (delay : Duration) (limit : Nat) : (left : Nat) → Operation →
    Exchange (Except ControlPlaneError Json × Operation)
  | 0, o => .done (.error (.operationTimeout o.id limit), o)
  | left + 1, o => o.look.bind fun (outcome, o) =>
    match outcome with
    | .error e => .done (.error e, o)
    | .ok (.ended result) => .done (.ok result, { o with result := some result })
    | .ok .wait => .pause delay (pollFrom delay limit left o)

/-- Looks at an operation until it has ended, at most `limit` times. -/
def poll (o : Operation) (delay : Duration) (limit : Nat) :
    Exchange (Except ControlPlaneError Json × Operation) :=
  pollFrom delay limit limit o

/-- The result of the operation at an address. -/
def pollUntilDone (url id : String) (delay : Duration) (limit : Nat) : Inquiry Json :=
  ExceptT.mk ((poll { id, location := url } delay limit).bind fun (result, _) => .done result)

end Operation

/-- How often to look at an operation when nothing else is said. -/
def defaultPollLimit : Nat := 5

/-- How long to pause between two looks when nothing else is said. -/
def defaultPollDelay : Duration := .ofSecs 30

end WarehouseAccess
