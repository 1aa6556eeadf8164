import WarehouseAccess.Proofs.ControlPlane.Polling
import WarehouseAccess.Proofs.ControlPlane.Transcript
import WarehouseAccess.Proofs.Json.Entries

/-!
# The requests of a client

Which requests a call of `ControlPlaneClient.orchestrate` sends, said without a peer: two listings,
and after them one request for a change at most.  What follows that request only asks how things
stand.
-/

namespace WarehouseAccess

open Exchange

/-- What a listing holds, or why there is none. -/
def readListing : HttpReply → Except ControlPlaneError (List Json)
  | .failure reason => .error (.transport reason)
  | .response r =>
    (Inquiry.checkStatus r).bind fun r => (Inquiry.body r).map ControlPlaneClient.listed

/-- A listing is read from a body that has to be there. -/
lemma readListing_eq (reply : HttpReply) :
    readListing reply = (Operation.requiredResult reply).map ControlPlaneClient.listed := by
  cases reply with
  | failure reason => rfl
  | response r =>
    rw [readListing, Operation.requiredResult_response]
    cases Inquiry.checkStatus r <;> rfl

/-- What the reply to a request that brings a snapshot up to date leads to. -/
def readUpdate (snapshotId : String) (reply : HttpReply) :
    Except ControlPlaneError SnapshotRecord :=
  (Operation.requiredResult reply).map fun body =>
    { snapshotId := (body.textAt "id").or (some snapshotId)
      displayName := body.textAt "displayName"
      warehouseId := body.textUnder "properties" "parentWarehouseId"
      change := .update
      operation := body }

namespace ControlPlaneClient

/-- The address of a snapshot. -/
def snapshotUrl (c : ControlPlaneClient) (id : String) : String :=
  c.url ("warehousesnapshots/" ++ id)

/-- Snapshots with the same address are the same. -/
lemma snapshotUrl_injective {c : ControlPlaneClient} {id id' : String}
    (h : c.snapshotUrl id = c.snapshotUrl id') : id = id' := by
  simpa [snapshotUrl, url, String.append_assoc] using h

/-- No snapshot has the address of all of them. -/
lemma snapshotUrl_ne (c : ControlPlaneClient) (id : String) :
    c.url "warehousesnapshots" ≠ c.snapshotUrl id := by
  intro h
  have hlength : "warehousesnapshots".length = "warehousesnapshots/".length + id.length := by
    simpa [snapshotUrl, url] using congrArg String.length h
  have hleft : "warehousesnapshots".length = 18 := by rfl
  have hright : "warehousesnapshots/".length = 19 := by rfl
  omega

/-! ### The shape of the requests -/

/-- A listing is one request. -/
lemma run_list_eq (c : ControlPlaneClient) (path : String) :
    (c.list path).run = .send (.get (c.url path)) fun reply => .done (readListing reply) := by
  rw [list, Inquiry.send_bind]
  congr 1
  funext reply
  cases reply with
  | failure reason => rfl
  | response r =>
    simp only [readListing, Inquiry.settle_bind]
    cases Inquiry.checkStatus r with
    | error e => rfl
    | ok r =>
      simp only [Except.bind]
      cases Inquiry.body r <;> rfl

/-- An inquiry that begins with a listing. -/
lemma run_list_bind {α : Type} (c : ControlPlaneClient) (path : String)
    (f : List Json → Inquiry α) :
    (c.list path >>= f).run = .send (.get (c.url path)) fun reply =>
      match readListing reply with
      | .error e => .done (.error e)
      | .ok items => (f items).run := by
  change Exchange.bind (c.list path).run _ = _
  rw [run_list_eq]
  change Exchange.send _ _ = _
  congr 1
  funext reply
  change Exchange.bind (Exchange.done (readListing reply)) _ = _
  cases readListing reply <;> rfl

/-- Bringing a snapshot up to date is one request, and the reply to it decides. -/
lemma run_updateSnapshot_eq (c : ControlPlaneClient) (id : String) :
    (c.updateSnapshot id).run = .clock fun now =>
      .send (.patch (c.snapshotUrl id) (updateBody (utcStamp now))) fun reply =>
        .done (readUpdate id reply) := by
  rw [updateSnapshot, Inquiry.clock_bind]
  congr 1
  funext now
  rw [Inquiry.send_bind]
  congr 1
  funext reply
  cases reply with
  | failure reason => rfl
  | response r =>
    dsimp only
    rw [Inquiry.settle_bind, readUpdate, Operation.requiredResult_response]
    cases Inquiry.checkStatus r with
    | error e => rfl
    | ok r =>
      dsimp only [Except.bind]
      rw [Inquiry.settle_bind]
      cases Inquiry.body r <;> rfl

/-- Bringing a snapshot up to date asks for one change, at its address. -/
lemma changesBy_updateSnapshot (c : ControlPlaneClient) (id : String) :
    ChangesBy (c.updateSnapshot id).run fun now =>
      .patch (c.snapshotUrl id) (updateBody (utcStamp now)) :=
  ⟨fun reply => .done (readUpdate id reply), fun _ => reads_done _, c.run_updateSnapshot_eq id⟩

/-- Refreshing a recorded snapshot is to bring it up to date, if it has an identifier. -/
lemma run_refresh_eq (c : ControlPlaneClient) (record : SnapshotRecord) :
    (c.refresh record).run = match record.snapshotId with
      | none => .done (.ok none)
      | some id => .clock fun now =>
        .send (.patch (c.snapshotUrl id) (updateBody (utcStamp now))) fun reply =>
          .done ((readUpdate id reply).map some) := by
  unfold refresh
  cases record.snapshotId with
  | none => rfl
  | some id =>
    dsimp only
    change Exchange.bind (c.updateSnapshot id).run _ = _
    rw [run_updateSnapshot_eq]
    change Exchange.clock _ = _
    congr 1
    funext now
    change Exchange.send _ _ = _
    congr 1
    funext reply
    change Exchange.bind (.done (readUpdate id reply)) _ = _
    cases readUpdate id reply <;> rfl

/-- Refreshing a recorded snapshot is one request at most. -/
lemma length_requests_run_refresh_le {σ : Type} (c : ControlPlaneClient) (record : SnapshotRecord)
    (peer : Peer σ) (s : σ) :
    (requests (run peer (c.refresh record).run s).2.1).length ≤ 1 := by
  rw [run_refresh_eq]
  cases record.snapshotId with
  | none => exact Nat.zero_le 1
  | some id => exact Nat.le_refl 1

/-- Waiting for a snapshot that the service makes asks for no change. -/
lemma reads_awaitCreate (c : ControlPlaneClient) (accepted : HttpResponse)
    (warehouseId name : String) : Reads (c.awaitCreate accepted warehouseId name).run := by
  unfold awaitCreate
  cases (accepted.header "Location").filter (· != "") with
  | none => exact reads_done _
  | some location =>
    exact Inquiry.reads_bind (Operation.reads_pollUntilDone _ _ _ _) fun _ => reads_done _

/-- What a client does with the reply to a request for a new snapshot. -/
def afterCreation (c : ControlPlaneClient) (warehouseId name : String) :
    HttpReply → Exchange (Except ControlPlaneError SnapshotRecord)
  | .failure reason => .done (.error (.transport reason))
  | .response r =>
    if r.status = 201 then
      .done ((Inquiry.body r).map fun body =>
        { snapshotId := body.textAt "id"
          displayName := (body.textAt "displayName").or (some name)
          warehouseId := some warehouseId
          change := .create
          operation := body })
    else if r.status = 202 then (c.awaitCreate r warehouseId name).run
    else if r.isSuccess then .done (.error (.invalidResponse (.whileCreating name)))
    else .done (.error (.http r.status r.body))

/-- Making a snapshot is one request, and what is done with the reply to it. -/
lemma run_createSnapshot_eq (c : ControlPlaneClient) (warehouseId name : String) :
    (c.createSnapshot warehouseId name).run = .clock fun now =>
      .send (.post (c.url "warehousesnapshots") (creationBody warehouseId name (utcStamp now)))
        (c.afterCreation warehouseId name) := by
  rw [createSnapshot, Inquiry.clock_bind]
  congr 1
  funext now
  rw [Inquiry.send_bind]
  congr 1
  funext reply
  cases reply with
  | failure reason => rfl
  | response r =>
    unfold afterCreation
    dsimp only
    split_ifs
    · rw [Inquiry.settle_bind]
      cases Inquiry.body r <;> rfl
    all_goals rfl

/-- What is done with that reply asks for no change. -/
lemma reads_afterCreation (c : ControlPlaneClient) (warehouseId name : String)
    (reply : HttpReply) : Reads (c.afterCreation warehouseId name reply) := by
  cases reply with
  | failure reason => exact reads_done _
  | response r =>
    unfold afterCreation
    dsimp only
    split_ifs
    · exact reads_done _
    · exact c.reads_awaitCreate r warehouseId name
    all_goals exact reads_done _

/-- Making a snapshot asks for one change, that of a new snapshot. -/
lemma changesBy_createSnapshot (c : ControlPlaneClient) (warehouseId name : String) :
    ChangesBy (c.createSnapshot warehouseId name).run fun now =>
      .post (c.url "warehousesnapshots") (creationBody warehouseId name (utcStamp now)) :=
  ⟨c.afterCreation warehouseId name, c.reads_afterCreation _ _, c.run_createSnapshot_eq _ _⟩

/-- What a call does once the warehouse is found: it ends when the snapshots cannot be listed,
brings the snapshot up to date when it is listed, and makes it otherwise. -/
def afterLookup (c : ControlPlaneClient) (warehouseId name : String) :
    Exchange (Except ControlPlaneError SnapshotRecord) :=
  .send (.get (c.url "warehousesnapshots")) fun reply =>
    match readListing reply with
    | .error e => .done (.error e)
    | .ok snapshots =>
      match findSnapshotId snapshots warehouseId name with
      | some id => (c.updateSnapshot id).run
      | none => (c.createSnapshot warehouseId name).run

/-- What a call does first: it ends when the warehouses cannot be listed or the warehouse is not
there. -/
lemma run_orchestrate_eq (c : ControlPlaneClient) (warehouseName name : String) :
    (c.orchestrate warehouseName name).run = .send (.get (c.url "warehouses")) fun reply =>
      match readListing reply with
      | .error e => .done (.error e)
      | .ok warehouses =>
        match findWarehouseId warehouses warehouseName with
        | none => .done (.error (.warehouseNotFound warehouseName c.workspaceId))
        | some warehouseId => c.afterLookup warehouseId name := by
  rw [orchestrate, listWarehouses, run_list_bind]
  congr 1
  funext reply
  cases readListing reply with
  | error e => rfl
  | ok warehouses =>
    dsimp only
    cases findWarehouseId warehouses warehouseName with
    | none => rfl
    | some warehouseId =>
      dsimp only
      rw [listSnapshots, run_list_bind]
      rfl

/-- The request for a new snapshot gives its name. -/
lemma textAt_creationBody (warehouseId name stamp : String) :
    (creationBody warehouseId name stamp).textAt "displayName" = some name := by
  simp [creationBody, Json.textAt, List.lookup_cons, Json.asText]

/-- The request for a new snapshot gives its warehouse. -/
lemma textUnder_creationBody (warehouseId name stamp : String) :
    (creationBody warehouseId name stamp).textUnder "creationPayload" "parentWarehouseId" =
      some warehouseId := by
  simp [creationBody, Json.textUnder, Json.textAt, List.lookup_cons, Json.asText]

end ControlPlaneClient

end WarehouseAccess
