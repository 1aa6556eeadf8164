import WarehouseAccess.Proofs.ControlPlane.Exchange

/-!
# Polling

What `Operation.poll` does against any peer, said without its loop.  A reply is *waiting* when it
leaves the operation under way.  As long as only waiting replies come back the client asks again,
with a pause after each, until it has asked as often as it may; the first other reply decides on its
own, and `settledBy` is the table of what it leads to.
-/

namespace WarehouseAccess

namespace Operation

open Exchange

variable {σ : Type}

/-! ### The replies that decide -/

/-- The word that a body gives for the status of an operation, in lower case.  It is empty when the
body gives none. -/
def statusWord (body : Json) : String := lowercase ((body.textAt "status").getD "")

/-- The reply leaves the operation under way: it has status 202, or status 200 and a body whose word
is neither of the two that end an operation. -/
def IsWaiting : HttpReply → Prop
  | .response r =>
    r.status = 202 ∨
      r.status = 200 ∧
        ∃ body, r.json? = some body ∧ statusWord body ≠ "succeeded" ∧ statusWord body ≠ "failed"
  | .failure _ => False

/-- A result that has to be there: the body of a response with a status of success. -/
def requiredResult : HttpReply → Except ControlPlaneError Json
  | .failure reason => .error (.transport reason)
  | .response r =>
    if 200 ≤ r.status ∧ r.status < 300 then
      match r.json? with
      | some body => .ok body
      | none => .error (.invalidResponse (.notJson r.status))
    else .error (.http r.status r.body)

/-- A body that has to be there is that of a response whose status is one of success. -/
lemma requiredResult_response (r : HttpResponse) :
    requiredResult (.response r) = (Inquiry.checkStatus r).bind Inquiry.body := by
  by_cases hstatus : 200 ≤ r.status ∧ r.status < 300
  · cases hbody : r.json? <;>
      simp [requiredResult, Inquiry.checkStatus, HttpResponse.isSuccess, Inquiry.body,
        hstatus, hbody, Except.bind]
  · have hfails : r.isSuccess = false := by simpa [HttpResponse.isSuccess] using hstatus
    simp [requiredResult, Inquiry.checkStatus, hfails, hstatus, Except.bind]

/-- A result that `payload` stands for unless it comes with status 200 and as JSON. -/
def resultOrPayload (payload : Json) : HttpReply → Json
  | .failure _ => payload
  | .response r => if r.status = 200 then r.json?.getD payload else payload

/-- What a reply that is not waiting leads to, for the operation of an identifier at an address: the
outcome, the requests that are still sent, and the peer after them. -/
def settledBy (peer : Peer σ) (id url : String) (s : σ) :
    HttpReply → Except ControlPlaneError Json × List HttpRequest × σ
  | .failure reason => (.error (.transport reason), [], s)
  | .response r =>
    let result := HttpRequest.get (url ++ "/result")
    if r.status = 201 then
      (requiredResult (peer.answer result s).1, [result], (peer.answer result s).2)
    else if r.status = 200 then
      match r.json? with
      | none => (.error (.invalidResponse (.notJson 200)), [], s)
      | some payload =>
        if statusWord payload = "succeeded" then
          (.ok (resultOrPayload payload (peer.answer result s).1), [result],
            (peer.answer result s).2)
        else
          (.error (.operationFailed id
            (((payload.get? "error").bind (Json.textAt "code")).getD "Unknown")
            (((payload.get? "error").bind (Json.textAt "message")).getD "Unknown error")), [], s)
    else if 200 ≤ r.status ∧ r.status < 300 then
      (.error (.invalidResponse (.whilePolling id)), [], s)
    else (.error (.http r.status r.body), [], s)

/-- The events of so many looks at an address that each found the operation under way. -/
def waits (url : String) (delay : Duration) : Nat → List Event
  | 0 => []
  | k + 1 => .sent (.get url) :: .paused delay :: waits url delay k

/-- One request for each wait. -/
@[simp]
lemma requests_waits (url : String) (delay : Duration) (k : Nat) :
    requests (waits url delay k) = List.replicate k (.get url) := by
  induction k with
  | zero => rfl
  | succ k ih => rw [waits, requests_sent, requests_paused, ih, List.replicate_succ]

/-- One pause for each wait. -/
@[simp]
lemma pauses_waits (url : String) (delay : Duration) (k : Nat) :
    pauses (waits url delay k) = List.replicate k delay := by
  induction k with
  | zero => rfl
  | succ k ih => rw [waits, pauses_sent, pauses_paused, ih, List.replicate_succ]

/-! ### One look -/

/-- The status in a body is that of success just when the word says so. -/
lemma statusIn_eq_succeeded_iff (body : Json) :
    statusIn body = .succeeded ↔ statusWord body = "succeeded" := by
  unfold statusIn statusWord OperationStatus.ofText
  split <;> simp_all

/-- The status in a body is that of failure just when the word says so. -/
lemma statusIn_eq_failed_iff (body : Json) :
    statusIn body = .failed ↔ statusWord body = "failed" := by
  unfold statusIn statusWord OperationStatus.ofText
  split <;> simp_all

/-- The operation as it stands after a reply to a look at it. -/
def noting (o : Operation) : HttpReply → Operation
  | .failure _ => o
  | .response r =>
    if r.status = 201 then o.observe .succeeded
    else if r.status = 200 then
      match r.json? with
      | some body => o.observe (statusIn body)
      | none => o
    else o

/-- Taking note of a status leaves the identifier as it is. -/
@[simp]
lemma id_observe (o : Operation) (status : OperationStatus) : (o.observe status).id = o.id := by
  unfold observe
  split
  · rfl
  · split <;> rfl

/-- Taking note of a status leaves the address as it is. -/
@[simp]
lemma location_observe (o : Operation) (status : OperationStatus) :
    (o.observe status).location = o.location := by
  unfold observe
  split
  · rfl
  · split <;> rfl

/-- The run that fetches a result that has to be there. -/
lemma run_fetchResult (peer : Peer σ) (o : Operation) (s : σ) :
    run peer o.fetchResult.run s =
      (requiredResult (peer.answer (.get o.resultUrl) s).1, [.sent (.get o.resultUrl)],
        (peer.answer (.get o.resultUrl) s).2) := by
  unfold fetchResult
  rw [Inquiry.run_bind, Inquiry.run_send]
  cases (peer.answer (.get o.resultUrl) s).1 with
  | failure reason => rfl
  | response r =>
    rw [requiredResult_response]
    dsimp only
    cases Inquiry.checkStatus r <;> rfl

/-- The run that fetches a result for which the payload can stand. -/
lemma run_resultOr (peer : Peer σ) (o : Operation) (payload : Json) (s : σ) :
    run peer (o.resultOr payload) s =
      (resultOrPayload payload (peer.answer (.get o.resultUrl) s).1, [.sent (.get o.resultUrl)],
        (peer.answer (.get o.resultUrl) s).2) := by
  rw [resultOr, Exchange.run_send]
  cases (peer.answer (.get o.resultUrl) s).1 with
  | failure reason => rfl
  | response r =>
    by_cases h200 : r.status = 200
    · simp [resultBody?, resultOrPayload, h200]
    · simp [resultBody?, resultOrPayload, h200]

/-- A response that leaves the operation under way ends the look at once. -/
lemma run_onResponse_of_isWaiting (peer : Peer σ) (o : Operation) (s : σ) {r : HttpResponse}
    (h : IsWaiting (.response r)) :
    run peer (o.onResponse r) s = ((.ok .wait, o.noting (.response r)), [], s) := by
  rcases h with h202 | ⟨h200, body, hbody, hsucceeded, hfailed⟩
  · simp [onResponse, noting, h202]
  · rw [Ne, ← statusIn_eq_succeeded_iff] at hsucceeded
    rw [Ne, ← statusIn_eq_failed_iff] at hfailed
    simp only [onResponse, noting, h200, Inquiry.body, hbody]
    cases hstatus : statusIn body <;> simp_all

/-- A response that decides leads to what the table says. -/
lemma run_onResponse_of_not_isWaiting (peer : Peer σ) (o : Operation) (s : σ) {r : HttpResponse}
    (h : ¬ IsWaiting (.response r)) :
    run peer (o.onResponse r) s =
      let (outcome, more, s) := settledBy peer o.id o.location s (.response r)
      ((outcome.map .ended, o.noting (.response r)), more.map .sent, s) := by
  by_cases h201 : r.status = 201
  · simp [onResponse, settledBy, noting, h201, run_bind, run_fetchResult, resultUrl]
  by_cases h200 : r.status = 200
  · cases hbody : r.json? with
    | none => simp [onResponse, settledBy, noting, h200, Inquiry.body, hbody, Except.map]
    | some payload =>
      by_cases hsucceeded : statusWord payload = "succeeded"
      · have hstatus := (statusIn_eq_succeeded_iff payload).mpr hsucceeded
        simp [onResponse, settledBy, noting, h200, Inquiry.body, hbody, hsucceeded, hstatus,
          run_bind, run_resultOr, resultUrl, Except.map]
      · have hfailed : statusWord payload = "failed" := by
          by_contra hfailed
          exact h (Or.inr ⟨h200, payload, hbody, hsucceeded, hfailed⟩)
        have hstatus := (statusIn_eq_failed_iff payload).mpr hfailed
        simp [onResponse, settledBy, noting, h200, Inquiry.body, hbody, hfailed, hstatus,
          reported, Except.map]
  -- status 202 would be waiting, and what is left is an error
  have h202 : r.status ≠ 202 := fun h202 => h (Or.inl h202)
  by_cases hsuccess : 200 ≤ r.status ∧ r.status < 300
  · simp [onResponse, settledBy, noting, h201, h200, h202, HttpResponse.isSuccess, hsuccess,
      Except.map]
  · simp [onResponse, settledBy, noting, h201, h200, h202, HttpResponse.isSuccess, hsuccess,
      Except.map]

/-- A look that finds the operation under way. -/
lemma run_look_of_isWaiting (peer : Peer σ) (o : Operation) (s : σ)
    (h : IsWaiting (peer.answer (.get o.location) s).1) :
    run peer o.look s =
      ((.ok .wait, o.noting (peer.answer (.get o.location) s).1), [.sent (.get o.location)],
        (peer.answer (.get o.location) s).2) := by
  rw [look, Exchange.run_send]
  cases hreply : (peer.answer (.get o.location) s).1 with
  | failure reason => simp [hreply, IsWaiting] at h
  | response r =>
    rw [hreply] at h
    simp [run_onResponse_of_isWaiting peer o _ h]

/-- A look whose reply decides. -/
lemma run_look_of_not_isWaiting (peer : Peer σ) (o : Operation) (s : σ)
    (h : ¬ IsWaiting (peer.answer (.get o.location) s).1) :
    run peer o.look s =
      let (reply, s) := peer.answer (.get o.location) s
      let (outcome, more, s) := settledBy peer o.id o.location s reply
      ((outcome.map .ended, o.noting reply), .sent (.get o.location) :: more.map .sent, s) := by
  rw [look, Exchange.run_send]
  rcases hanswer : peer.answer (.get o.location) s with ⟨reply, s'⟩
  rw [hanswer] at h
  cases reply with
  | failure reason => rfl
  | response r => simp [run_onResponse_of_not_isWaiting peer o _ h]

/-- What is taken note of a reply is at most one status. -/
lemma noting_cases (o : Operation) (reply : HttpReply) :
    o.noting reply = o ∨ ∃ status, o.noting reply = o.observe status := by
  cases reply with
  | failure reason => exact .inl rfl
  | response r =>
    unfold noting
    dsimp only
    split_ifs
    · exact .inr ⟨_, rfl⟩
    · cases r.json? with
      | none => exact .inl rfl
      | some body => exact .inr ⟨_, rfl⟩
    · exact .inl rfl

/-- What a reply is taken note of leaves the identifier as it is. -/
@[simp]
lemma id_noting (o : Operation) (reply : HttpReply) : (o.noting reply).id = o.id := by
  rcases o.noting_cases reply with heq | ⟨status, heq⟩
  · rw [heq]
  · rw [heq, id_observe]

/-- What a reply is taken note of leaves the address as it is. -/
@[simp]
lemma location_noting (o : Operation) (reply : HttpReply) :
    (o.noting reply).location = o.location := by
  rcases o.noting_cases reply with heq | ⟨status, heq⟩
  · rw [heq]
  · rw [heq, location_observe]

/-! ### Polling -/

/-- When only waiting replies come back, the client gives up after the last of them. -/
lemma run_pollFrom_of_forall_isWaiting (peer : Peer σ) (delay : Duration) (limit left : Nat)
    (o : Operation) (s : σ)
    (h : ∀ k < left, IsWaiting (peer.reply (.get o.location) k s)) :
    ∃ o', run peer (pollFrom delay limit left o) s =
      ((.error (.operationTimeout o.id limit), o'), waits o.location delay left,
        peer.after (.get o.location) left s) := by
  induction left generalizing o s with
  | zero => exact ⟨o, rfl⟩
  | succ left ih =>
    have hfirst : IsWaiting (peer.answer (.get o.location) s).1 := h 0 left.succ_pos
    have hrest : ∀ k < left, IsWaiting (peer.reply (.get (o.noting
        (peer.answer (.get o.location) s).1).location) k (peer.answer (.get o.location) s).2) := by
      intro k hk
      rw [location_noting, ← Peer.reply_succ]
      exact h (k + 1) (Nat.succ_lt_succ hk)
    obtain ⟨o', ho'⟩ := ih _ _ hrest
    refine ⟨o', ?_⟩
    rw [pollFrom, Exchange.run_bind, run_look_of_isWaiting peer o s hfirst]
    simp only [Exchange.run_pause, ho', id_noting, location_noting]
    rfl

/-- The first reply that is not waiting decides. -/
lemma run_pollFrom_of_not_isWaiting (peer : Peer σ) (delay : Duration) (limit left k : Nat)
    (o : Operation) (s : σ) (hk : k < left)
    (hbefore : ∀ j < k, IsWaiting (peer.reply (.get o.location) j s))
    (hdecides : ¬ IsWaiting (peer.reply (.get o.location) k s)) :
    ∃ o', run peer (pollFrom delay limit left o) s =
      let (outcome, more, s') := settledBy peer o.id o.location
        (peer.after (.get o.location) (k + 1) s) (peer.reply (.get o.location) k s)
      ((outcome, o'),
        waits o.location delay k ++ .sent (.get o.location) :: more.map .sent, s') := by
  induction k generalizing left o s with
  | zero =>
    obtain ⟨left, rfl⟩ : ∃ m, left = m + 1 := ⟨left - 1, by omega⟩
    -- this look settles it
    have hlook := run_look_of_not_isWaiting peer o s hdecides
    rw [pollFrom, Exchange.run_bind, hlook]
    simp only [Peer.reply_zero, Peer.after]
    rcases settledBy peer o.id o.location (peer.answer (.get o.location) s).2
      (peer.answer (.get o.location) s).1 with ⟨outcome, more, s'⟩
    cases outcome with
    | error e =>
      refine ⟨o.noting (peer.answer (.get o.location) s).1, ?_⟩
      simp [Except.map, waits]
    | ok result =>
      refine ⟨{ o.noting (peer.answer (.get o.location) s).1 with result := some result }, ?_⟩
      simp [Except.map, waits]
  | succ k ih =>
    obtain ⟨left, rfl⟩ : ∃ m, left = m + 1 := ⟨left - 1, by omega⟩
    have hfirst : IsWaiting (peer.answer (.get o.location) s).1 := hbefore 0 k.succ_pos
    -- the handle has noted one reply, and waits at the same address
    set next := o.noting (peer.answer (.get o.location) s).1 with hnext
    have hlocation : next.location = o.location := o.location_noting _
    have hid : next.id = o.id := o.id_noting _
    obtain ⟨o', ho'⟩ := ih left next (peer.answer (.get o.location) s).2 (by omega)
      (fun j hj => by
        rw [hlocation, ← Peer.reply_succ]
        exact hbefore (j + 1) (Nat.succ_lt_succ hj))
      (by rwa [hlocation, ← Peer.reply_succ])
    refine ⟨o', ?_⟩
    rw [pollFrom, Exchange.run_bind, run_look_of_isWaiting peer o s hfirst]
    simp only [Exchange.run_pause, ← hnext, ho', hlocation, hid]
    rfl

/-- Of so many replies either all are waiting, or there is a first that is not. -/
lemma forall_isWaiting_or_first (peer : Peer σ) (look : HttpRequest) (limit : Nat) (s : σ) :
    (∀ k < limit, IsWaiting (peer.reply look k s)) ∨
      ∃ k < limit, (∀ j < k, IsWaiting (peer.reply look j s)) ∧
        ¬ IsWaiting (peer.reply look k s) := by
  induction limit with
  | zero => exact .inl fun k hk => absurd hk k.not_lt_zero
  | succ limit ih =>
    rcases ih with hall | ⟨k, hk, hfirst⟩
    · by_cases hlast : IsWaiting (peer.reply look limit s)
      · refine .inl fun k hk => ?_
        rcases Nat.lt_succ_iff_lt_or_eq.mp hk with hk | rfl
        · exact hall k hk
        · exact hlast
      · exact .inr ⟨limit, limit.lt_succ_self, hall, hlast⟩
    · exact .inr ⟨k, Nat.lt_succ_of_lt hk, hfirst⟩

/-- Polling ends in one of two ways: it waited as often as it may, or a reply decided. -/
lemma run_pollFrom_cases (peer : Peer σ) (delay : Duration) (limit left : Nat) (o : Operation)
    (s : σ) :
    (∃ o' s', run peer (pollFrom delay limit left o) s =
      ((.error (.operationTimeout o.id limit), o'), waits o.location delay left, s')) ∨
    ∃ k < left, ∃ reply asked outcome more o' s',
      settledBy peer o.id o.location asked reply = (outcome, more, s') ∧
        run peer (pollFrom delay limit left o) s =
          ((outcome, o'), waits o.location delay k ++ .sent (.get o.location) :: more.map .sent,
            s') := by
  rcases forall_isWaiting_or_first peer (.get o.location) left s with hall | ⟨k, hk, hbefore, hnot⟩
  · obtain ⟨o', hrun⟩ := run_pollFrom_of_forall_isWaiting peer delay limit left o s hall
    exact .inl ⟨o', _, hrun⟩
  · obtain ⟨o', hrun⟩ := run_pollFrom_of_not_isWaiting peer delay limit left k o s hk hbefore hnot
    exact .inr ⟨k, hk, _, _, _, _, o', _, rfl, hrun⟩

/-- Polling with a fresh handle, of which only the outcome is kept. -/
lemma run_pollUntilDone (peer : Peer σ) (url id : String) (delay : Duration) (limit : Nat) (s : σ) :
    run peer (pollUntilDone url id delay limit).run s =
      let ((outcome, _), events, s') := run peer (poll { id, location := url } delay limit) s
      (outcome, events, s') := by
  change run peer (Exchange.bind (poll _ delay limit) _) s = _
  rw [Exchange.run_bind]
  simp

/-- Polling an operation asks at its address until a reply is not waiting, at most `limit` times.

When the first `limit` replies are all waiting, that many requests are sent and that many pauses
made, and the operation has timed out.  Otherwise the first reply that is not waiting, the one after
`k` waiting ones, decides: `k + 1` requests are sent to the address and `k` pauses made, and
`settledBy` says what the reply leads to and which request is still sent. -/
theorem run_poll_eq_first_settled (peer : Peer σ) (o : Operation) (delay : Duration) (limit : Nat)
    (s : σ) :
    let look := HttpRequest.get o.location
    let ((outcome, _), events, s') := run peer (o.poll delay limit) s
    ((∀ k < limit, IsWaiting (peer.reply look k s)) →
      outcome = .error (.operationTimeout o.id limit) ∧
        events = waits o.location delay limit ∧
        requests events = List.replicate limit look ∧
        pauses events = List.replicate limit delay ∧
        s' = peer.after look limit s) ∧
    (∀ k < limit, (∀ j < k, IsWaiting (peer.reply look j s)) → ¬ IsWaiting (peer.reply look k s) →
      ∃ more, settledBy peer o.id o.location (peer.after look (k + 1) s) (peer.reply look k s) =
          (outcome, more, s') ∧
        events = waits o.location delay k ++ .sent look :: more.map .sent ∧
        requests events = List.replicate (k + 1) look ++ more ∧
        pauses events = List.replicate k delay) := by
  intro look
  refine ⟨fun hwaiting => ?_, fun k hk hbefore hdecides => ?_⟩
  · obtain ⟨o', hrun⟩ := run_pollFrom_of_forall_isWaiting peer delay limit limit o s hwaiting
    rw [poll, hrun]
    exact ⟨rfl, rfl, requests_waits _ _ _, pauses_waits _ _ _, rfl⟩
  · obtain ⟨o', hrun⟩ :=
      run_pollFrom_of_not_isWaiting peer delay limit limit k o s hk hbefore hdecides
    rw [poll, hrun]
    simp only [look]
    rcases settledBy peer o.id o.location (peer.after (.get o.location) (k + 1) s)
      (peer.reply (.get o.location) k s) with ⟨outcome, more, s'⟩
    refine ⟨more, rfl, rfl, ?_, ?_⟩
    · simp [List.replicate_succ']
    · simp

end Operation

end WarehouseAccess
