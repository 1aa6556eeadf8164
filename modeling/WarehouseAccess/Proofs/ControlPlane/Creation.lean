import WarehouseAccess.Proofs.ControlPlane.Polling
import WarehouseAccess.Proofs.ControlPlane.Requests
import WarehouseAccess.Proofs.Number.Integer

/-!
# Making a snapshot

A request for a new snapshot is carried out at once, accepted for later, or refused.  An accepted
one is an operation that takes time, and the headers of the reply say where to look at it, how long
to pause between two looks, and by which name to call it.

### Outline

* `HttpResponse.Says` and `HttpResponse.NamesOperation` say what the headers of a response say,
  `ControlPlaneClient.PauseAfter` how long a client pauses after it, and `FirstText` which of
  several texts counts, all without the functions that look them up;
* `ControlPlaneClient.CreationEnd` is the table of what each reply leads to;
* `ControlPlaneClient.creation_of_replies` shows that making a snapshot keeps to the table, and what
  follows for requests, pauses and the operation that an error names.
-/

namespace WarehouseAccess

open Exchange

variable {σ : Type}

/-! ### What headers say -/

namespace HttpResponse

/-- The response says the value under the name: of its headers with that name, letter case aside, it
is the last. -/
def Says (r : HttpResponse) (name value : String) : Prop :=
  ∃ before key after, r.headers = before ++ (key, value) :: after ∧
    headerKey key = headerKey name ∧ ∀ later ∈ after, headerKey later.1 ≠ headerKey name

/-- What a look-up finds is what the response says. -/
lemma header_eq_some_iff {r : HttpResponse} {name value : String} :
    r.header name = some value ↔ r.Says name value := by
  rw [header, Option.map_eq_some_iff]
  constructor
  · rintro ⟨⟨key, value⟩, hfind, rfl⟩
    obtain ⟨hkey, after, before, hsplit, hafter⟩ := List.find?_eq_some_iff_append.mp hfind
    refine ⟨before.reverse, key, after.reverse, ?_, by simpa using hkey, fun later hlater => ?_⟩
    · simpa using congrArg List.reverse hsplit
    · simpa using hafter later (List.mem_reverse.mp hlater)
  · rintro ⟨before, key, after, hsplit, hkey, hafter⟩
    refine ⟨(key, value), List.find?_eq_some_iff_append.mpr ⟨by simpa using hkey, after.reverse,
      before.reverse, by simp [hsplit], fun later hlater => ?_⟩, rfl⟩
    simpa using hafter later (List.mem_reverse.mp hlater)

/-- A look-up finds nothing just when the response says nothing. -/
lemma header_eq_none_iff {r : HttpResponse} {name : String} :
    r.header name = none ↔ ∀ value, ¬ r.Says name value := by
  simp only [Option.eq_none_iff_forall_ne_some, ne_eq, header_eq_some_iff]

/-- The name of the operation that the response accepts: what it says, and `unknown` where it says
nothing. -/
def NamesOperation (r : HttpResponse) (id : String) : Prop :=
  r.Says "x-ms-operation-id" id ∨
    (∀ value, ¬ r.Says "x-ms-operation-id" value) ∧ id = "unknown"

/-- An operation goes by that name. -/
lemma namesOperation_getD (r : HttpResponse) :
    r.NamesOperation ((r.header "x-ms-operation-id").getD "unknown") := by
  cases h : r.header "x-ms-operation-id" with
  | none => exact .inr ⟨header_eq_none_iff.mp h, rfl⟩
  | some id => exact .inl (header_eq_some_iff.mp h)

end HttpResponse

/-- The first of several texts, of which each may be missing. -/
inductive FirstText : List (Option String) → Option String → Prop
  /-- There are no more. -/
  | nil : FirstText [] none
  /-- The next one is there. -/
  | here {text : String} {rest : List (Option String)} : FirstText (some text :: rest) (some text)
  /-- The next one is missing. -/
  | later {rest : List (Option String)} {found : Option String} (h : FirstText rest found) :
    FirstText (none :: rest) found

/-- The identifier that a result names is the first of three texts. -/
lemma firstText_resultId (result : Json) :
    FirstText [result.textAt "resourceId", result.textUnder "result" "id", result.textAt "id"]
      (ControlPlaneClient.resultId result) := by
  unfold ControlPlaneClient.resultId
  cases result.textAt "resourceId" with
  | some id => exact .here
  | none =>
    refine .later ?_
    cases result.textUnder "result" "id" with
    | some id => exact .here
    | none =>
      refine .later ?_
      cases result.textAt "id" with
      | some id => exact .here
      | none => exact .later .nil

/-! ### What comes of a wait -/

namespace Operation

/-- Requests that wait for the operation at an address: so many for the address itself, at most
`limit`, and after them one for its result at most. -/
def Looks (url : String) (limit : Nat) (rs : List HttpRequest) : Prop :=
  ∃ k ≤ limit, ∃ more, rs = List.replicate k (.get url) ++ more ∧
    (more = [] ∨ more = [.get (url ++ "/result")])

/-- A reply that decides leads to one request for the result at most. -/
lemma requests_settledBy (peer : Peer σ) (id url : String) (s : σ) (reply : HttpReply) :
    (settledBy peer id url s reply).2.1 = [] ∨
      (settledBy peer id url s reply).2.1 = [.get (url ++ "/result")] := by
  cases reply with
  | failure reason => exact .inl rfl
  | response r =>
    unfold settledBy
    dsimp only
    split_ifs
    · exact .inr rfl
    · cases r.json? with
      | none => exact .inl rfl
      | some payload =>
        dsimp only
        split_ifs
        · exact .inr rfl
        · exact .inl rfl
    all_goals exact .inl rfl

/-- The errors that a wait for an operation can end in. -/
inductive PollingFault (id : String) (limit : Nat) : ControlPlaneError → Prop
  /-- The service says that this operation failed. -/
  | failed (code detail : String) : PollingFault id limit (.operationFailed id code detail)
  /-- This operation did not end within the looks that are allowed. -/
  | timedOut : PollingFault id limit (.operationTimeout id limit)
  /-- A look at this operation brought a status without meaning. -/
  | unexpected : PollingFault id limit (.invalidResponse (.whilePolling id))
  /-- A request was refused. -/
  | refused (status : Nat) (body : String) : PollingFault id limit (.http status body)
  /-- A request failed on the way. -/
  | lost (reason : String) : PollingFault id limit (.transport reason)
  /-- A body that is needed is no JSON text. -/
  | unreadable (status : Nat) : PollingFault id limit (.invalidResponse (.notJson status))

/-- A result that has to be there fails in such an error. -/
lemma pollingFault_of_requiredResult {reply : HttpReply} {e : ControlPlaneError} (id : String)
    (limit : Nat) (h : requiredResult reply = .error e) : PollingFault id limit e := by
  cases reply with
  | failure reason =>
    cases h
    exact .lost reason
  | response r =>
    unfold requiredResult at h
    dsimp only at h
    split_ifs at h
    · cases hbody : r.json? with
      | some body =>
        rw [hbody] at h
        cases h
      | none =>
        rw [hbody] at h
        cases h
        exact .unreadable r.status
    · cases h
      exact .refused r.status r.body

/-- A reply that decides leads to such an error or to a result. -/
lemma pollingFault_of_settledBy {peer : Peer σ} {id url : String} {s : σ} {reply : HttpReply}
    {e : ControlPlaneError} (limit : Nat) (h : (settledBy peer id url s reply).1 = .error e) :
    PollingFault id limit e := by
  cases reply with
  | failure reason =>
    cases h
    exact .lost reason
  | response r =>
    unfold settledBy at h
    dsimp only at h
    -- one case for each way in which a reply can settle the operation
    split_ifs at h
    · exact pollingFault_of_requiredResult id limit h
    · cases hbody : r.json? with
      | none =>
        rw [hbody] at h
        cases h
        exact .unreadable 200
      | some payload =>
        rw [hbody] at h
        dsimp only at h
        split_ifs at h
        cases h
        exact .failed _ _
    · cases h
      exact .unexpected
    · cases h
      exact .refused r.status r.body

/-- What is known of a wait for an operation whatever comes back: it only looks, its pauses are all
of one length and at most as many as the looks that are allowed, and it fails in such an error. -/
lemma bounds_poll (peer : Peer σ) (o : Operation) (delay : Duration) (limit : Nat) (s : σ) :
    let ((outcome, _), events, _) := run peer (o.poll delay limit) s
    Looks o.location limit (requests events) ∧
      (∃ k ≤ limit, pauses events = List.replicate k delay) ∧
      ∀ e, outcome = .error e → PollingFault o.id limit e := by
  rcases run_pollFrom_cases peer delay limit limit o s with
    ⟨o', s', hrun⟩ | ⟨k, hk, reply, asked, outcome, more, o', s', hsettled, hrun⟩
  · rw [poll, hrun]
    refine ⟨⟨limit, Nat.le_refl limit, [], by simp, .inl rfl⟩,
      ⟨limit, Nat.le_refl limit, pauses_waits _ _ _⟩, fun e he => ?_⟩
    cases he
    exact .timedOut
  · have hmore := requests_settledBy peer o.id o.location asked reply
    rw [hsettled] at hmore
    rw [poll, hrun]
    refine ⟨⟨k + 1, hk, more, by simp [List.replicate_succ'], hmore⟩,
      ⟨k, Nat.le_of_lt hk, by simp⟩, fun e he => ?_⟩
    exact pollingFault_of_settledBy limit (by rw [hsettled]; exact he)

end Operation

namespace ControlPlaneClient

/-- The requests that follow a request for a new snapshot, by the reply to it.  There are none
unless the service says with status 202 that it makes the snapshot later, and where to look. -/
inductive FollowUps (limit : Nat) : HttpReply → List HttpRequest → Prop
  /-- No request follows. -/
  | none {reply : HttpReply} : FollowUps limit reply []
  /-- The address that the service named is looked at. -/
  | looks {r : HttpResponse} {url : String} {rs : List HttpRequest} (hstatus : r.status = 202)
      (hlocation : r.header "Location" = some url) (hurl : url ≠ "")
      (hlooks : Operation.Looks url limit rs) : FollowUps limit (.response r) rs

variable (c : ControlPlaneClient)

/-! ### How long a client pauses -/

/-- The pause between two looks at an operation, by the response that accepted it. -/
inductive PauseAfter (r : HttpResponse) : Duration → Prop
  /-- The response names a number of seconds. -/
  | named {value : String} {seconds : Nat} (hsaid : r.Says "Retry-After" value)
      (hspells : SpellsNumber (trim value) seconds) (hlt : seconds < 2 ^ 64) :
      PauseAfter r (.ofSecs seconds)
  /-- It names none, and the pause is what the client is set to. -/
  | configured (hnone : ∀ value seconds, r.Says "Retry-After" value → seconds < 2 ^ 64 →
      ¬ SpellsNumber (trim value) seconds) : PauseAfter r c.pollDelay

/-- A client makes that pause. -/
lemma pauseAfter_delayAfter (r : HttpResponse) : c.PauseAfter r (c.delayAfter r) := by
  unfold delayAfter
  cases hread : (r.header "Retry-After").bind fun v =>
      readUnsigned 0x10000000000000000 (trim v) with
  | some seconds =>
    obtain ⟨value, hsaid, hvalue⟩ := Option.bind_eq_some_iff.mp hread
    obtain ⟨hspells, hlt⟩ := readUnsigned_eq_some_iff.mp hvalue
    exact .named (HttpResponse.header_eq_some_iff.mp hsaid) hspells hlt
  | none =>
    refine .configured fun value seconds hsaid hlt hspells => ?_
    have hvalue : readUnsigned 0x10000000000000000 (trim value) = some seconds :=
      readUnsigned_eq_some_iff.mpr ⟨hspells, hlt⟩
    rw [HttpResponse.header_eq_some_iff.mpr hsaid, Option.bind_some, hvalue] at hread
    cases hread

/-! ### What a reply leads to -/

variable (peer : Peer σ) (warehouseId name : String) (s : σ)

/-- The response accepts the request for later, and the operation that it names is waited for at the
address that it names: the result of the wait, its events, and the peer at the end. -/
inductive Waits (r : HttpResponse) : Except ControlPlaneError Json → List Event → σ → Prop
  | intro {url id : String} {delay : Duration} {result : Except ControlPlaneError Json}
      {o : Operation} {events : List Event} {s' : σ} (hstatus : r.status = 202)
      (hlocation : r.Says "Location" url) (hurl : url ≠ "") (hid : r.NamesOperation id)
      (hdelay : c.PauseAfter r delay)
      (hpoll : run peer (Operation.poll { id, location := url } delay c.pollLimit) s =
        ((result, o), events, s')) : Waits r result events s'

/-- What the reply to a request for a new snapshot leads to, when it leaves the peer in the given
state: the events that follow, the outcome, and the peer at the end. -/
inductive CreationEnd :
    HttpReply → List Event → Except ControlPlaneError SnapshotRecord → σ → Prop
  /-- The request failed on the way. -/
  | lost {reason : String} : CreationEnd (.failure reason) [] (.error (.transport reason)) s
  /-- The snapshot is made; the body says what it is. -/
  | made {r : HttpResponse} {body : Json} (hstatus : r.status = 201) (hbody : r.json? = some body) :
      CreationEnd (.response r) []
        (.ok {
          snapshotId := body.textAt "id"
          displayName := (body.textAt "displayName").or (some name)
          warehouseId := some warehouseId
          change := .create
          operation := body }) s
  /-- The snapshot is made, but the body is no JSON text. -/
  | unreadable {r : HttpResponse} (hstatus : r.status = 201) (hbody : r.json? = none) :
      CreationEnd (.response r) [] (.error (.invalidResponse (.notJson 201))) s
  /-- The snapshot will be made, but there is no address to look at. -/
  | nowhere {r : HttpResponse} (hstatus : r.status = 202)
      (hlocation : ∀ url, r.Says "Location" url → url = "") :
      CreationEnd (.response r) [] (.error .missingLocation) s
  /-- The snapshot will be made, but the wait for it ends in an error. -/
  | waitFailed {r : HttpResponse} {e : ControlPlaneError} {events : List Event} {s' : σ}
      (hwaits : c.Waits peer s r (.error e) events s') :
      CreationEnd (.response r) events (.error e) s'
  /-- The snapshot will be made, and the wait for it ends with a result. -/
  | waited {r : HttpResponse} {result : Json} {snapshotId : Option String} {events : List Event}
      {s' : σ} (hwaits : c.Waits peer s r (.ok result) events s')
      (hsnapshot : FirstText
        [result.textAt "resourceId", result.textUnder "result" "id", result.textAt "id"]
        snapshotId) :
      CreationEnd (.response r) events
        (.ok {
          snapshotId
          displayName := some name
          warehouseId := some warehouseId
          change := .create
          operation := result }) s'
  /-- Another status of success has no meaning here. -/
  | unexpected {r : HttpResponse} (hmade : r.status ≠ 201) (haccepted : r.status ≠ 202)
      (hsuccess : 200 ≤ r.status ∧ r.status < 300) :
      CreationEnd (.response r) [] (.error (.invalidResponse (.whileCreating name))) s
  /-- The request was refused. -/
  | refused {r : HttpResponse} (hstatus : ¬ (200 ≤ r.status ∧ r.status < 300)) :
      CreationEnd (.response r) [] (.error (.http r.status r.body)) s

/-! ### Making a snapshot keeps to the table -/

/-- Waiting for a snapshot that the service accepted to make keeps to the table. -/
lemma creationEnd_awaitCreate {r : HttpResponse} (hstatus : r.status = 202) :
    let (outcome, events, s') := run peer (c.awaitCreate r warehouseId name).run s
    c.CreationEnd peer warehouseId name s (.response r) events outcome s' := by
  unfold awaitCreate
  cases hfilter : (r.header "Location").filter (· != "") with
  | none =>
    refine .nowhere hstatus fun url hsaid => ?_
    rw [HttpResponse.header_eq_some_iff.mpr hsaid, Option.filter_some] at hfilter
    simpa using hfilter
  | some url =>
    obtain ⟨hlocation, hurl⟩ := Option.filter_eq_some_iff.mp hfilter
    dsimp only
    rw [Inquiry.run_bind, Operation.run_pollUntilDone]
    rcases hpoll : run peer (Operation.poll
      { id := (r.header "x-ms-operation-id").getD "unknown", location := url }
      (c.delayAfter r) c.pollLimit) s with ⟨⟨result, o⟩, events, s'⟩
    have hwaits : c.Waits peer s r result events s' :=
      .intro hstatus (HttpResponse.header_eq_some_iff.mp hlocation) (by simpa using hurl)
        r.namesOperation_getD (c.pauseAfter_delayAfter r) hpoll
    cases result with
    | error e => exact .waitFailed hwaits
    | ok result =>
      -- nothing is sent behind the wait
      change c.CreationEnd peer warehouseId name s (.response r) (events ++ []) _ s'
      rw [List.append_nil]
      exact .waited hwaits (firstText_resultId result)

/-- What is done with the reply to a request for a new snapshot keeps to the table. -/
lemma creationEnd_afterCreation (reply : HttpReply) :
    let (outcome, events, s') := run peer (c.afterCreation warehouseId name reply) s
    c.CreationEnd peer warehouseId name s reply events outcome s' := by
  cases reply with
  | failure reason => exact .lost
  | response r =>
    unfold afterCreation
    dsimp only
    split_ifs with hmade haccepted hsuccess
    · rw [Inquiry.body]
      cases hbody : r.json? with
      | none => exact hmade ▸ .unreadable hmade hbody
      | some body => exact .made hmade hbody
    · exact c.creationEnd_awaitCreate peer warehouseId name s haccepted
    · exact .unexpected hmade haccepted (by simpa [HttpResponse.isSuccess] using hsuccess)
    · exact .refused (by simpa [HttpResponse.isSuccess] using hsuccess)

/-! ### What follows from the table -/

section CreationEnd

variable {c peer warehouseId name s} {r : HttpResponse} {reply : HttpReply} {events : List Event}
  {result : Except ControlPlaneError Json} {outcome : Except ControlPlaneError SnapshotRecord}
  {s' : σ}

/-- What follows an accepted request whatever comes back: the client only looks where the service
said, makes the pauses that the service or the client names, at most as many as looks are allowed,
and blames the operation that the service named. -/
lemma Waits.bounds (h : c.Waits peer s r result events s') :
    FollowUps c.pollLimit (.response r) (requests events) ∧
      (pauses events).length ≤ c.pollLimit ∧ (∀ delay ∈ pauses events, c.PauseAfter r delay) ∧
      ∀ e, result = .error e →
        ∃ id, r.NamesOperation id ∧ Operation.PollingFault id c.pollLimit e := by
  cases h with
  | @intro url id delay _ _ _ _ hstatus hlocation hurl hid hdelay hpoll =>
    have hbounds := Operation.bounds_poll peer { id, location := url } delay c.pollLimit s
    rw [hpoll] at hbounds
    obtain ⟨hlooks, ⟨k, hk, hpauses⟩, hfault⟩ := hbounds
    rw [hpauses]
    refine ⟨.looks hstatus (HttpResponse.header_eq_some_iff.mpr hlocation) hurl hlooks, ?_, ?_, ?_⟩
    · rwa [List.length_replicate]
    · intro d hd
      rwa [List.eq_of_mem_replicate hd]
    · exact fun e he => ⟨id, hid, hfault e he⟩

/-- The requests that follow only look where the service said. -/
lemma CreationEnd.followUps (h : c.CreationEnd peer warehouseId name s reply events outcome s') :
    FollowUps c.pollLimit reply (requests events) := by
  cases h with
  | waitFailed hwaits => exact hwaits.bounds.1
  | waited hwaits => exact hwaits.bounds.1
  | _ => exact .none

/-- What comes of it is a new snapshot. -/
lemma CreationEnd.change_eq (h : c.CreationEnd peer warehouseId name s reply events outcome s')
    {record : SnapshotRecord} (hrecord : outcome = .ok record) : record.change = .create := by
  cases h with
  | made | waited => cases hrecord; rfl
  | _ => cases hrecord

end CreationEnd

end ControlPlaneClient

end WarehouseAccess
