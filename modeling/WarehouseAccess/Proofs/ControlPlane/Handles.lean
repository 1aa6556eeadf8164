import WarehouseAccess.ControlPlane.Script
import WarehouseAccess.Proofs.ControlPlane.Polling

/-!
# Handles of operations

The handle of an operation keeps a status and, in the end, a result.  A wait for the operation goes
by what the replies say, while the handle takes note of a status only when that does not go back; so
the two could come apart.  `Agrees` says that they do not, for a wait that starts while the
operation is under way, and `Advances` that a handle only ever goes forward, whatever is done with
it.
-/

namespace WarehouseAccess

namespace Operation

open Exchange

variable {σ : Type}

/-- From the first handle to the second the operation did not go back: one that runs is not waiting
to start again, nor in a state that the client cannot tell, and one that has ended stays as it
ended. -/
structure Advances (o o' : Operation) : Prop where
  of_running : o.status = .running →
    o'.status = .running ∨ o'.status = .succeeded ∨ o'.status = .failed
  of_succeeded : o.status = .succeeded → o'.status = .succeeded
  of_failed : o.status = .failed → o'.status = .failed

/-- The handle after a wait says the same as the outcome of the wait. -/
structure Agrees (o : Operation) (outcome : Except ControlPlaneError Json) (o' : Operation) :
    Prop where
  /-- A result comes of success only, and the handle keeps it. -/
  of_ok : ∀ result, outcome = .ok result → o'.status = .succeeded ∧ o'.result = some result
  /-- Failure is reported of an operation that failed. -/
  of_failed : ∀ id code detail, outcome = .error (.operationFailed id code detail) →
    o'.status = .failed
  /-- The client gives up on operations that are under way. -/
  of_timeout : ∀ id attempts, outcome = .error (.operationTimeout id attempts) →
    o'.status.isTerminal = false
  /-- Without a result the handle keeps the one that it had. -/
  of_error : ∀ e, outcome = .error e → o'.result = o.result

/-! ### One status -/

/-- A handle does not go back to itself. -/
lemma Advances.refl (o : Operation) : o.Advances o :=
  ⟨.inl, fun h => h, fun h => h⟩

/-- Going forward twice is going forward. -/
lemma Advances.trans {o o' o'' : Operation} (h : o.Advances o') (h' : o'.Advances o'') :
    o.Advances o'' where
  of_running hrunning := by
    rcases h.of_running hrunning with hstatus | hstatus | hstatus
    · exact h'.of_running hstatus
    · exact .inr (.inl (h'.of_succeeded hstatus))
    · exact .inr (.inr (h'.of_failed hstatus))
  of_succeeded hsucceeded := h'.of_succeeded (h.of_succeeded hsucceeded)
  of_failed hfailed := h'.of_failed (h.of_failed hfailed)

/-- Whether a handle goes forward is seen from its status. -/
lemma Advances.of_status_eq {o o' o'' : Operation} (h : o.Advances o')
    (hstatus : o''.status = o'.status) : o.Advances o'' :=
  ⟨hstatus ▸ h.of_running, hstatus ▸ h.of_succeeded, hstatus ▸ h.of_failed⟩

/-- Taking note of a status goes forward. -/
lemma advances_observe (o : Operation) (status : OperationStatus) :
    o.Advances (o.observe status) where
  of_running hrunning := by
    have hrank := o.rank_le_rank_observe status
    rw [hrunning] at hrank
    -- what ranks below `running` is just what a running operation may not go back to
    cases hstatus : (o.observe status).status <;> simp_all [OperationStatus.rank]
  of_succeeded hsucceeded := by rw [observe_of_isTerminal (by rw [hsucceeded]; rfl), hsucceeded]
  of_failed hfailed := by rw [observe_of_isTerminal (by rw [hfailed]; rfl), hfailed]

/-- An operation that is under way takes note of its end. -/
lemma status_observe_of_isTerminal {o : Operation} {status : OperationStatus}
    (ho : o.status.isTerminal = false) (hstatus : status.isTerminal = true) :
    (o.observe status).status = status := by
  have hrank : o.status.rank ≤ status.rank := by
    cases status <;> cases o.status <;> simp_all [OperationStatus.rank, OperationStatus.isTerminal]
  simp [observe, ho, hrank]

/-- A status that is no end does not end an operation. -/
lemma isTerminal_observe {o : Operation} {status : OperationStatus}
    (ho : o.status.isTerminal = false) (hstatus : status.isTerminal = false) :
    (o.observe status).status.isTerminal = false := by
  unfold observe
  split_ifs <;> assumption

/-! ### One reply -/

/-- A reply takes a handle forward. -/
lemma advances_noting (o : Operation) (reply : HttpReply) : o.Advances (o.noting reply) := by
  rcases o.noting_cases reply with heq | ⟨status, heq⟩
  · rw [heq]
    exact .refl o
  · rw [heq]
    exact o.advances_observe status

/-- A reply to a look at an operation leaves the result as it is. -/
lemma result_noting (o : Operation) (reply : HttpReply) : (o.noting reply).result = o.result := by
  rcases o.noting_cases reply with heq | ⟨status, heq⟩
  · rw [heq]
  · rw [heq, result_observe]

/-- A waiting reply leaves an operation under way. -/
lemma isTerminal_noting_of_isWaiting {o : Operation} {reply : HttpReply}
    (ho : o.status.isTerminal = false) (h : IsWaiting reply) :
    (o.noting reply).status.isTerminal = false := by
  cases reply with
  | failure reason => exact ho
  | response r =>
    rcases h with h202 | ⟨h200, body, hbody, hsucceeded, hfailed⟩
    · simpa [noting, h202] using ho
    · rw [Ne, ← statusIn_eq_succeeded_iff] at hsucceeded
      rw [Ne, ← statusIn_eq_failed_iff] at hfailed
      simp only [noting, h200, hbody]
      refine isTerminal_observe ho ?_
      cases hstatus : statusIn body <;> simp_all [OperationStatus.isTerminal]

/-- Errors that the fetching of a result ends in say nothing of how the operation ended. -/
lemma requiredResult_ne (reply : HttpReply) :
    (∀ id code detail, requiredResult reply ≠ .error (.operationFailed id code detail)) ∧
      ∀ id attempts, requiredResult reply ≠ .error (.operationTimeout id attempts) := by
  unfold requiredResult
  split
  · simp
  · split_ifs
    · split <;> simp
    · simp

/-- The handle once the outcome is known: it keeps the result, if there is one. -/
def closing (o : Operation) : Except ControlPlaneError Json → Operation
  | .ok result => { o with result := some result }
  | .error _ => o

/-- Keeping a result leaves the status as it is. -/
lemma status_closing (o : Operation) (outcome : Except ControlPlaneError Json) :
    (o.closing outcome).status = o.status := by
  cases outcome <;> rfl

/-- A handle agrees with the outcome that it was closed with, when its status goes with it. -/
lemma agrees_closing {o o' : Operation} {outcome : Except ControlPlaneError Json}
    (hkept : o'.result = o.result)
    (hok : ∀ result, outcome = .ok result → o'.status = .succeeded)
    (hfailed : ∀ id code detail, outcome = .error (.operationFailed id code detail) →
      o'.status = .failed)
    (htimeout : ∀ id attempts, outcome = .error (.operationTimeout id attempts) →
      o'.status.isTerminal = false) :
    o.Agrees outcome (o'.closing outcome) where
  of_ok result hresult := by
    refine ⟨(o'.status_closing outcome).trans (hok result hresult), ?_⟩
    rw [hresult]
    rfl
  of_failed id code detail hfails :=
    (o'.status_closing outcome).trans (hfailed id code detail hfails)
  of_timeout id attempts hgives := by
    rw [status_closing]
    exact htimeout id attempts hgives
  of_error e herror := by
    rw [herror]
    exact hkept

/-- A reply that decides leaves a handle that says the same. -/
lemma agrees_settledBy (peer : Peer σ) {o : Operation} (id url : String) (s : σ) {reply : HttpReply}
    (ho : o.status.isTerminal = false) (h : ¬ IsWaiting reply) :
    o.Agrees (settledBy peer id url s reply).1
      ((o.noting reply).closing (settledBy peer id url s reply).1) := by
  cases reply with
  | failure reason =>
    exact agrees_closing rfl (by simp [settledBy]) (by simp [settledBy]) (by simp [settledBy])
  | response r =>
    have hresult := o.result_noting (.response r)
    -- status 201: the result is fetched
    by_cases h201 : r.status = 201
    · have hstatus : (o.noting (.response r)).status = .succeeded := by
        simpa [noting, h201] using status_observe_of_isTerminal ho rfl
      have hends := requiredResult_ne (peer.answer (.get (url ++ "/result")) s).1
      exact agrees_closing hresult (fun _ _ => hstatus)
        (fun id code detail hfails => absurd (by simpa [settledBy, h201] using hfails)
          (hends.1 id code detail))
        (fun id attempts hgives => absurd (by simpa [settledBy, h201] using hgives)
          (hends.2 id attempts))
    -- status 200: the word in the body decides
    by_cases h200 : r.status = 200
    · cases hbody : r.json? with
      | none =>
        exact agrees_closing hresult (by simp [settledBy, h200, hbody])
          (by simp [settledBy, h200, hbody]) (by simp [settledBy, h200, hbody])
      | some payload =>
        by_cases hsucceeded : statusWord payload = "succeeded"
        · have hstatus : (o.noting (.response r)).status = .succeeded := by
            simp only [noting, h200, hbody, (statusIn_eq_succeeded_iff payload).mpr hsucceeded]
            exact status_observe_of_isTerminal ho rfl
          exact agrees_closing hresult (fun _ _ => hstatus)
            (by simp [settledBy, h200, hbody, hsucceeded])
            (by simp [settledBy, h200, hbody, hsucceeded])
        · have hfailed : statusWord payload = "failed" := by
            by_contra hfailed
            exact h (.inr ⟨h200, payload, hbody, hsucceeded, hfailed⟩)
          have hstatus : (o.noting (.response r)).status = .failed := by
            simp only [noting, h200, hbody, (statusIn_eq_failed_iff payload).mpr hfailed]
            exact status_observe_of_isTerminal ho rfl
          exact agrees_closing hresult (by simp [settledBy, h200, hbody, hsucceeded])
            (fun _ _ _ _ => hstatus) (by simp [settledBy, h200, hbody, hsucceeded])
    · -- any other status is an error that the handle need not show
      by_cases hsuccess : 200 ≤ r.status ∧ r.status < 300
      · exact agrees_closing hresult (by simp [settledBy, h201, h200, hsuccess])
          (by simp [settledBy, h201, h200, hsuccess]) (by simp [settledBy, h201, h200, hsuccess])
      · exact agrees_closing hresult (by simp [settledBy, h201, h200, hsuccess])
          (by simp [settledBy, h201, h200, hsuccess]) (by simp [settledBy, h201, h200, hsuccess])

/-! ### A wait -/

/-- A wait in which no look is left gives up. -/
lemma run_pollFrom_zero (peer : Peer σ) (delay : Duration) (limit : Nat) (o : Operation) (s : σ) :
    run peer (pollFrom delay limit 0 o) s = ((.error (.operationTimeout o.id limit), o), [], s) :=
  rfl

/-- A wait whose first reply is waiting goes on after a pause. -/
lemma run_pollFrom_succ_of_isWaiting (peer : Peer σ) (delay : Duration) (limit left : Nat)
    (o : Operation) (s : σ) (h : IsWaiting (peer.answer (.get o.location) s).1) :
    (run peer (pollFrom delay limit (left + 1) o) s).1 =
      (run peer (pollFrom delay limit left (o.noting (peer.answer (.get o.location) s).1))
        (peer.answer (.get o.location) s).2).1 := by
  rw [pollFrom, run_bind, run_look_of_isWaiting peer o s h]
  simp only [run_pause]

/-- A wait whose first reply decides ends with it. -/
lemma run_pollFrom_succ_of_not_isWaiting (peer : Peer σ) (delay : Duration) (limit left : Nat)
    (o : Operation) (s : σ) (h : ¬ IsWaiting (peer.answer (.get o.location) s).1) :
    (run peer (pollFrom delay limit (left + 1) o) s).1 =
      let (reply, s') := peer.answer (.get o.location) s
      let outcome := (settledBy peer o.id o.location s' reply).1
      (outcome, (o.noting reply).closing outcome) := by
  rw [pollFrom, run_bind, run_look_of_not_isWaiting peer o s h]
  rcases peer.answer (.get o.location) s with ⟨reply, s'⟩
  dsimp only
  rcases settledBy peer o.id o.location s' reply with ⟨outcome, more, s''⟩
  cases outcome <;> rfl

/-- A wait takes a handle forward, and leaves one that agrees with the outcome if it began while the
operation was under way. -/
lemma agrees_pollFrom (peer : Peer σ) (delay : Duration) (limit left : Nat) (o : Operation)
    (s : σ) :
    let ends := (run peer (pollFrom delay limit left o) s).1
    o.Advances ends.2 ∧ (o.status.isTerminal = false → o.Agrees ends.1 ends.2) := by
  induction left generalizing o s with
  | zero =>
    rw [run_pollFrom_zero]
    exact ⟨.refl o, fun ho => ⟨by simp, by simp, fun _ _ _ => ho, fun _ _ => rfl⟩⟩
  | succ left ih =>
    by_cases hwaiting : IsWaiting (peer.answer (.get o.location) s).1
    · rw [run_pollFrom_succ_of_isWaiting peer delay limit left o s hwaiting]
      obtain ⟨hadvances, hagrees⟩ := ih (o.noting (peer.answer (.get o.location) s).1)
        (peer.answer (.get o.location) s).2
      refine ⟨(o.advances_noting _).trans hadvances, fun ho => ?_⟩
      have hrest := hagrees (isTerminal_noting_of_isWaiting ho hwaiting)
      exact { hrest with of_error := fun e he => (hrest.of_error e he).trans (o.result_noting _) }
    · rw [run_pollFrom_succ_of_not_isWaiting peer delay limit left o s hwaiting]
      have hadvances := o.advances_noting (peer.answer (.get o.location) s).1
      exact ⟨hadvances.of_status_eq (status_closing _ _),
        fun ho => agrees_settledBy peer _ _ _ ho hwaiting⟩

/-! ### A handle in use -/

/-- What is done with a handle. -/
inductive HandleUse where
  /-- A status is taken note of. -/
  | observe (status : OperationStatus)
  /-- The operation is waited for. -/
  | poll (delay : Duration) (limit : Nat)

/-- The handle after a use of it, and the peer. -/
def use (peer : Peer σ) (o : Operation) (s : σ) : HandleUse → Operation × σ
  | .observe status => (o.observe status, s)
  | .poll delay limit =>
    let ((_, o), _, s) := run peer (o.poll delay limit) s
    (o, s)

/-- The handle after each of several uses. -/
def afterUses (peer : Peer σ) : List HandleUse → Operation → σ → List Operation
  | [], _, _ => []
  | u :: rest, o, s =>
    let (o, s) := o.use peer s u
    o :: afterUses peer rest o s

/-- A use takes a handle forward. -/
lemma advances_use (peer : Peer σ) (o : Operation) (s : σ) (u : HandleUse) :
    o.Advances (o.use peer s u).1 := by
  cases u with
  | observe status => exact o.advances_observe status
  | poll delay limit => exact (agrees_pollFrom peer delay limit limit o s).1

/-- Every use of a handle takes it forward from wherever it was before. -/
lemma pairwise_afterUses (peer : Peer σ) (uses : List HandleUse) (o : Operation) (s : σ) :
    (o :: afterUses peer uses o s).Pairwise Advances := by
  induction uses generalizing o s with
  | nil => exact List.pairwise_singleton _ o
  | cons u rest ih =>
    have hstep := o.advances_use peer s u
    have hrest := ih (o.use peer s u).1 (o.use peer s u).2
    refine List.pairwise_cons.mpr ⟨fun later hlater => ?_, hrest⟩
    rcases List.mem_cons.mp hlater with rfl | hlater
    · exact hstep
    · exact hstep.trans (List.rel_of_pairwise_cons hrest hlater)

/-- Whatever replies come back, a wait that starts on an operation under way leaves a handle that
says the same as the outcome of the wait.  However a handle is used, by taking note of statuses and
by waiting, in any order, it never goes back, and once the operation has ended its status stays. -/
theorem handle_of_uses (peer : Peer σ) :
    (∀ (o : Operation) (delay : Duration) (limit : Nat) (s : σ), o.status.isTerminal = false →
      let ends := (run peer (o.poll delay limit) s).1
      o.Agrees ends.1 ends.2) ∧
    ∀ (uses : List HandleUse) (o : Operation) (s : σ),
      (o :: afterUses peer uses o s).Pairwise Advances :=
  ⟨fun o delay limit s ho => (agrees_pollFrom peer delay limit limit o s).2 ho,
    pairwise_afterUses peer⟩

/-- A handle that is known to be running. -/
def runningOperation : Operation :=
  { id := "op-1", location := "https://x/op", status := .running }

/-- A service that first says nothing of how far the operation has come, then that it has ended, and
then that its result is empty. -/
def scantyReplies : List HttpReply :=
  [.response ⟨200, [], ""⟩, .response ⟨201, [], ""⟩, .response ⟨204, [], ""⟩]

/-- The wait for that operation ends with a result. -/
lemma run_poll_scantyReplies (delay : Duration) :
    (run (scriptedPeer 0) (runningOperation.poll delay 2) scantyReplies).1 =
      (.ok .null, { runningOperation with status := .succeeded, result := some .null }) := by
  rfl

/-- The first reply, which says nothing, does not take the handle back, and in the end it says that
the operation succeeded, as the outcome does. -/
theorem handle_of_scantyReplies :
    runningOperation.status.isTerminal = false ∧
      runningOperation.Agrees (.ok .null)
        { runningOperation with status := .succeeded, result := some .null } := by
  have hagrees :=
    (handle_of_uses (scriptedPeer 0)).1 runningOperation (.ofSecs 30) 2 scantyReplies rfl
  rw [run_poll_scantyReplies] at hagrees
  exact ⟨rfl, hagrees⟩

end Operation

end WarehouseAccess
