import Mathlib.Data.List.Basic
import WarehouseAccess.Proofs.ControlPlane.Creation

/-!
# The shape of a call

`ControlPlaneClient.orchestrate` looks first and changes afterwards.  Whatever comes back, and
wherever the exchange is cut, the requests of one call have one shape: the warehouses are listed,
then the snapshots, then one change is asked for, and what follows it only looks.

### Outline

* `Lists` and `FirstNamed` say what a listing shows and which of its items counts, without the
  functions that read them; `readListing_eq_ok_iff`, `findWarehouseId_eq_some_iff` and
  `findSnapshotId_eq_some_iff` connect the two;
* `ControlPlaneClient.Completion` lists what can follow the listings, and
  `ControlPlaneClient.Orchestration` what a whole call can be;
* `ControlPlaneClient.orchestration_of_replies` shows that every call is one of these, and what
  follows for the changes it asks for.
-/

namespace WarehouseAccess

open Exchange

variable {σ : Type}

/-! ### What a listing shows -/

/-- The reply lists the items.  Its body, which has to be there, has them in an array under `value`;
where no array stands there are none. -/
inductive Lists (reply : HttpReply) : List Json → Prop
  /-- The items stand in an array. -/
  | items {body : Json} {items : List Json} (hbody : Operation.requiredResult reply = .ok body)
      (hitems : body.get? "value" = some (.array items)) : Lists reply items
  /-- No array stands there. -/
  | noArray {body : Json} (hbody : Operation.requiredResult reply = .ok body)
      (hnone : ∀ items, body.get? "value" ≠ some (.array items)) : Lists reply []

/-- Items are listed by a body that has them in an array, and no items by one without an array. -/
lemma listed_eq_iff {body : Json} {items : List Json} :
    ControlPlaneClient.listed body = items ↔ body.get? "value" = some (.array items) ∨
      (∀ others, body.get? "value" ≠ some (.array others)) ∧ items = [] := by
  unfold ControlPlaneClient.listed
  rcases body.get? "value" with _ | value
  · simp [eq_comm]
  · cases value <;> simp [Json.asArray, eq_comm]

/-- What is read from the reply to a listing is what the reply lists. -/
lemma readListing_eq_ok_iff {reply : HttpReply} {items : List Json} :
    readListing reply = .ok items ↔ Lists reply items := by
  rw [readListing_eq]
  constructor
  · intro h
    cases hbody : Operation.requiredResult reply with
    | error e =>
      rw [hbody] at h
      cases h
    | ok body =>
      rw [hbody] at h
      rcases listed_eq_iff.mp (Except.ok.inj h) with hitems | ⟨hnone, rfl⟩
      · exact .items hbody hitems
      · exact .noArray hbody hnone
  · intro h
    cases h with
    | items hbody hitems => rw [hbody, Except.map, listed_eq_iff.mpr (.inl hitems)]
    | noArray hbody hnone => rw [hbody, Except.map, listed_eq_iff.mpr (.inr ⟨hnone, rfl⟩)]

/-- Nothing is read from the reply to a listing just when its body is not there. -/
lemma readListing_eq_error_iff {reply : HttpReply} {e : ControlPlaneError} :
    readListing reply = .error e ↔ Operation.requiredResult reply = .error e := by
  rw [readListing_eq]
  cases Operation.requiredResult reply <;> simp [Except.map]

/-- The first of the items that are as asked for has the identifier. -/
def FirstNamed (p : Json → Prop) (items : List Json) (id : String) : Prop :=
  ∃ before item after, items = before ++ item :: after ∧ (∀ earlier ∈ before, ¬ p earlier) ∧
    p item ∧ item.textAt "id" = some id

/-- A search for the first item of a kind, and then for its identifier. -/
lemma find?_bind_eq_some_iff {kind : Json → Bool} {items : List Json} {id : String} :
    (items.find? kind).bind (Json.textAt "id") = some id ↔
      FirstNamed (kind · = true) items id := by
  rw [Option.bind_eq_some_iff]
  constructor
  · rintro ⟨item, hfind, hid⟩
    obtain ⟨hitem, before, after, rfl, hbefore⟩ := List.find?_eq_some_iff_append.mp hfind
    exact ⟨before, item, after, rfl, fun earlier h => by simpa using hbefore earlier h, hitem, hid⟩
  · rintro ⟨before, item, after, rfl, hbefore, hitem, hid⟩
    refine ⟨item, List.find?_eq_some_iff_append.mpr ⟨hitem, before, after, rfl, ?_⟩, hid⟩
    exact fun earlier h => by simpa using hbefore earlier h

/-- The item is a warehouse of the name. -/
def IsWarehouseNamed (warehouseName : String) (item : Json) : Prop :=
  item.textAt "type" = some "Warehouse" ∧ item.textAt "displayName" = some warehouseName

/-- The item is a snapshot of the warehouse and name. -/
def IsSnapshotOf (warehouseId name : String) (item : Json) : Prop :=
  item.textAt "type" = some "WarehouseSnapshot" ∧ item.textAt "displayName" = some name ∧
    item.textUnder "properties" "parentWarehouseId" = some warehouseId

/-- The warehouse that is found is the first of the name, by its identifier. -/
lemma findWarehouseId_eq_some_iff {warehouses : List Json} {warehouseName id : String} :
    findWarehouseId warehouses warehouseName = some id ↔
      FirstNamed (IsWarehouseNamed warehouseName) warehouses id := by
  rw [findWarehouseId, find?_bind_eq_some_iff]
  have hkind : (isWarehouse warehouseName · = true) = IsWarehouseNamed warehouseName := by
    funext item
    simp [isWarehouse, IsWarehouseNamed, and_comm]
  rw [hkind]

/-- No warehouse is found where the first of the name has no identifier. -/
lemma findWarehouseId_eq_none_iff {warehouses : List Json} {warehouseName : String} :
    findWarehouseId warehouses warehouseName = none ↔
      ∀ id, ¬ FirstNamed (IsWarehouseNamed warehouseName) warehouses id := by
  simp only [Option.eq_none_iff_forall_ne_some, ne_eq, findWarehouseId_eq_some_iff]

/-- The snapshot that is found is the first of the warehouse and name, by its identifier. -/
lemma findSnapshotId_eq_some_iff {snapshots : List Json} {warehouseId name id : String} :
    findSnapshotId snapshots warehouseId name = some id ↔
      FirstNamed (IsSnapshotOf warehouseId name) snapshots id := by
  rw [findSnapshotId, find?_bind_eq_some_iff]
  have hkind : (isSnapshot warehouseId name · = true) = IsSnapshotOf warehouseId name := by
    funext item
    simp only [isSnapshot, IsSnapshotOf, Bool.and_eq_true, beq_iff_eq, eq_iff_iff]
    tauto
  rw [hkind]

/-- No snapshot is found where the first of the warehouse and name has no identifier. -/
lemma findSnapshotId_eq_none_iff {snapshots : List Json} {warehouseId name : String} :
    findSnapshotId snapshots warehouseId name = none ↔
      ∀ id, ¬ FirstNamed (IsSnapshotOf warehouseId name) snapshots id := by
  simp only [Option.eq_none_iff_forall_ne_some, ne_eq, findSnapshotId_eq_some_iff]

namespace ControlPlaneClient

/-! ### What can follow the listings -/

variable (c : ControlPlaneClient) (warehouseName name warehouseId : String)

/-- What can follow the listings of a call that found a warehouse: the exchanges and what the call
leads to. -/
inductive Completion (snapshots : List Json) :
    List (HttpRequest × HttpReply) → Except ControlPlaneError SnapshotRecord → Prop
  /-- A snapshot that is listed with its identifier is brought up to date, and the reply to that
  decides. -/
  | update {id : String} {now : Int} {reply : HttpReply}
      (hlisted : FirstNamed (IsSnapshotOf warehouseId name) snapshots id) :
      Completion snapshots [(.patch (c.snapshotUrl id) (updateBody (utcStamp now)), reply)]
        (readUpdate id reply)
  /-- Otherwise one is asked for, and nothing is done then but to wait for it. -/
  | creation {body : Json} {reply : HttpReply} {rest : List (HttpRequest × HttpReply)}
      {outcome : Except ControlPlaneError SnapshotRecord}
      (hlisted : ∀ id, ¬ FirstNamed (IsSnapshotOf warehouseId name) snapshots id)
      (hname : body.textAt "displayName" = some name)
      (hwarehouse : body.textUnder "creationPayload" "parentWarehouseId" = some warehouseId)
      (hrest : FollowUps c.pollLimit reply (rest.map Prod.fst))
      (hchange : ∀ record, outcome = .ok record → record.change = .create) :
      Completion snapshots ((.post (c.url "warehousesnapshots") body, reply) :: rest) outcome

/-- What a call can be: its exchanges and what it leads to. -/
inductive Orchestration :
    List (HttpRequest × HttpReply) → Except ControlPlaneError SnapshotRecord → Prop
  /-- The warehouses cannot be listed. -/
  | noWarehouses {reply : HttpReply} {e : ControlPlaneError}
      (hwarehouses : Operation.requiredResult reply = .error e) :
      Orchestration [(.get (c.url "warehouses"), reply)] (.error e)
  /-- The warehouse is not listed, or without an identifier. -/
  | noWarehouse {reply : HttpReply} {warehouses : List Json}
      (hwarehouses : Lists reply warehouses)
      (hlisted : ∀ id, ¬ FirstNamed (IsWarehouseNamed warehouseName) warehouses id) :
      Orchestration [(.get (c.url "warehouses"), reply)]
        (.error (.warehouseNotFound warehouseName c.workspaceId))
  /-- The snapshots cannot be listed. -/
  | noSnapshots {first second : HttpReply} {warehouses : List Json} {warehouseId : String}
      {e : ControlPlaneError} (hwarehouses : Lists first warehouses)
      (hlisted : FirstNamed (IsWarehouseNamed warehouseName) warehouses warehouseId)
      (hsnapshots : Operation.requiredResult second = .error e) :
      Orchestration
        [(.get (c.url "warehouses"), first), (.get (c.url "warehousesnapshots"), second)] (.error e)
  /-- Both listings succeed, and the call is completed. -/
  | completed {first second : HttpReply} {warehouses snapshots : List Json} {warehouseId : String}
      {rest : List (HttpRequest × HttpReply)} {outcome : Except ControlPlaneError SnapshotRecord}
      (hwarehouses : Lists first warehouses)
      (hlisted : FirstNamed (IsWarehouseNamed warehouseName) warehouses warehouseId)
      (hsnapshots : Lists second snapshots)
      (hrest : c.Completion name warehouseId snapshots rest outcome) :
      Orchestration ((.get (c.url "warehouses"), first) ::
        (.get (c.url "warehousesnapshots"), second) :: rest) outcome

/-! ### Every call is one of these -/

variable (peer : Peer σ)

variable {warehouseName name warehouseId}

/-- Making a snapshot completes a call, unless one is listed with its identifier. -/
lemma completion_createSnapshot {snapshots : List Json}
    (hlisted : ∀ id, ¬ FirstNamed (IsSnapshotOf warehouseId name) snapshots id) (s : σ) :
    c.Completion name warehouseId snapshots
      (transcript peer (c.createSnapshot warehouseId name).run s)
      (run peer (c.createSnapshot warehouseId name).run s).1 := by
  rw [c.run_createSnapshot_eq, transcript, run]
  dsimp only
  rw [transcript, run_send]
  generalize peer.answer _ (peer.now s).2 = answer
  obtain ⟨reply, s'⟩ := answer
  have hend := c.creationEnd_afterCreation peer warehouseId name s' reply
  refine .creation hlisted (textAt_creationBody ..) (textUnder_creationBody ..) ?_
    fun record => hend.change_eq
  rw [map_fst_transcript]
  exact hend.followUps

/-- What a call does after the warehouses are listed and one is found. -/
lemma orchestration_afterLookup {first : HttpReply} {warehouses : List Json}
    (hwarehouses : Lists first warehouses)
    (hlisted : FirstNamed (IsWarehouseNamed warehouseName) warehouses warehouseId) (s : σ) :
    c.Orchestration warehouseName name
      ((.get (c.url "warehouses"), first) :: transcript peer (c.afterLookup warehouseId name) s)
      (run peer (c.afterLookup warehouseId name) s).1 := by
  unfold afterLookup
  rw [transcript, run_send]
  generalize peer.answer _ s = answer
  obtain ⟨second, s'⟩ := answer
  dsimp only
  cases hread : readListing second with
  | error e => exact .noSnapshots hwarehouses hlisted (readListing_eq_error_iff.mp hread)
  | ok snapshots =>
    have hsnapshots := readListing_eq_ok_iff.mp hread
    refine .completed hwarehouses hlisted hsnapshots ?_
    dsimp only
    cases hfind : findSnapshotId snapshots warehouseId name with
    | some id =>
      dsimp only
      rw [c.run_updateSnapshot_eq]
      exact .update (findSnapshotId_eq_some_iff.mp hfind)
    | none =>
      exact c.completion_createSnapshot peer (findSnapshotId_eq_none_iff.mp hfind) s'

/-- Every call is one of those that can be. -/
lemma orchestration_orchestrate (warehouseName name : String) (s : σ) :
    c.Orchestration warehouseName name
      (transcript peer (c.orchestrate warehouseName name).run s)
      (run peer (c.orchestrate warehouseName name).run s).1 := by
  rw [c.run_orchestrate_eq, transcript, run_send]
  generalize peer.answer _ s = answer
  obtain ⟨first, s'⟩ := answer
  dsimp only
  cases hread : readListing first with
  | error e => exact .noWarehouses (readListing_eq_error_iff.mp hread)
  | ok warehouses =>
    have hwarehouses := readListing_eq_ok_iff.mp hread
    dsimp only
    cases hfind : findWarehouseId warehouses warehouseName with
    | some id =>
      exact c.orchestration_afterLookup peer hwarehouses (findWarehouseId_eq_some_iff.mp hfind) s'
    | none => exact .noWarehouse hwarehouses (findWarehouseId_eq_none_iff.mp hfind)

/-! ### The one change of a call -/

/-- One of the exchanges of a call asks for a change, and no other does. -/
structure ChangesOnce (before : List (HttpRequest × HttpReply)) (asked : HttpRequest × HttpReply)
    (after : List (HttpRequest × HttpReply)) (outcome : Except ControlPlaneError SnapshotRecord) :
    Prop where
  /-- Before it come listings that succeed. -/
  listings : ∀ earlier ∈ before, earlier.1.method = .get ∧ ∃ items, Lists earlier.2 items
  /-- It asks for a change. -/
  change : asked.1.method ≠ .get
  /-- What comes after it only looks. -/
  looks : ∀ later ∈ after, later.1.method = .get
  /-- To bring a snapshot up to date is the last request, and when it fails so does the call. -/
  of_patch : asked.1.method = .patch →
    after = [] ∧ ∀ e, Operation.requiredResult asked.2 = .error e → outcome = .error e
  /-- A call that succeeds made a snapshot just when it asked for a new one. -/
  create_iff : ∀ record, outcome = .ok record → (record.change = .create ↔ asked.1.method = .post)

section ChangesOnce

variable {before after exchanges : List (HttpRequest × HttpReply)}
  {asked other : HttpRequest × HttpReply} {outcome : Except ControlPlaneError SnapshotRecord}

/-- One more listing before the change. -/
lemma ChangesOnce.listing {items : List Json} (h : ChangesOnce before asked after outcome)
    (hget : other.1.method = .get) (hlists : Lists other.2 items) :
    ChangesOnce (other :: before) asked after outcome :=
  { h with
    listings := fun _ hearlier => match List.mem_cons.mp hearlier with
      | .inl heq => heq ▸ ⟨hget, items, hlists⟩
      | .inr hmem => h.listings _ hmem }

/-- The change stands at one place only. -/
lemma ChangesOnce.split_eq {before' after' : List (HttpRequest × HttpReply)}
    (h : ChangesOnce before asked after outcome) (hother : other.1.method ≠ .get)
    (hsplit : before ++ asked :: after = before' ++ other :: after') :
    before = before' ∧ asked = other ∧ after = after' :=
  (List.append_cons_inj_of_notMem (fun hmem => hother (h.listings _ hmem).1)
    fun hmem => hother (h.looks _ hmem)).mp hsplit

/-- An exchange that asks for a change is the one. -/
lemma ChangesOnce.eq_of_mem (h : ChangesOnce before asked after outcome)
    (hmem : other ∈ before ++ asked :: after) (hother : other.1.method ≠ .get) :
    asked = other := by
  obtain ⟨before', after', hsplit⟩ := List.append_of_mem hmem
  exact (h.split_eq hother hsplit).2.1

/-- The changes are the one. -/
lemma ChangesOnce.changes_eq (h : ChangesOnce before asked after outcome) :
    changes (before ++ asked :: after) = [asked] := by
  have hbefore : changes before = [] :=
    List.filter_eq_nil_iff.mpr fun e he => by simp [(h.listings e he).1]
  have hafter : changes after = [] :=
    List.filter_eq_nil_iff.mpr fun e he => by simp [h.looks e he]
  have hasked : (asked.1.method != .get) = true := bne_iff_ne.mpr h.change
  rw [changes] at hbefore hafter ⊢
  rw [List.filter_append, hbefore, List.filter_cons, if_pos hasked, hafter, List.nil_append]

variable {c}

/-- Requests that follow one for a new snapshot ask for no change. -/
lemma FollowUps.method_eq {limit : Nat} {reply : HttpReply} {rs : List HttpRequest}
    (h : FollowUps limit reply rs) : ∀ r ∈ rs, r.method = .get := by
  cases h with
  | none => simp
  | looks hstatus hlocation hurl hlooks =>
    obtain ⟨k, -, more, rfl, hmore⟩ := hlooks
    intro r hr
    rcases List.mem_append.mp hr with hr | hr
    · rw [List.eq_of_mem_replicate hr]
      rfl
    · rcases hmore with rfl | rfl
      · cases hr
      · rw [List.mem_singleton.mp hr]
        rfl

/-- What follows the listings begins with the change. -/
lemma Completion.changesOnce {snapshots : List Json}
    (h : c.Completion name warehouseId snapshots exchanges outcome) :
    ∃ asked after, exchanges = asked :: after ∧ ChangesOnce [] asked after outcome := by
  cases h with
  | @update id now reply hlisted =>
    refine ⟨_, [], rfl, by simp, HttpMethod.noConfusion, by simp, fun _ => ⟨rfl, ?_⟩, ?_⟩
    · intro e he
      rw [readUpdate, he, Except.map]
    · intro record hrecord
      unfold readUpdate at hrecord
      cases hbody : Operation.requiredResult reply with
      | error e => rw [hbody] at hrecord; cases hrecord
      | ok body =>
        rw [hbody] at hrecord
        cases hrecord
        simp [HttpRequest.patch]
  | creation hlisted hname hwarehouse hrest hchange =>
    refine ⟨_, _, rfl, by simp, HttpMethod.noConfusion, fun later hlater => ?_,
      HttpMethod.noConfusion, fun record hrecord => ?_⟩
    · exact hrest.method_eq _ (List.mem_map_of_mem hlater)
    · rw [hchange record hrecord]
      simp [HttpRequest.post]

/-- A call asks for no change and fails, or it asks for one. -/
lemma Orchestration.reads_or_changesOnce
    (h : c.Orchestration warehouseName name exchanges outcome) :
    ((∀ asked ∈ exchanges, asked.1.method = .get) ∧ ∃ e, outcome = .error e) ∨
      ∃ before asked after, exchanges = before ++ asked :: after ∧
        ChangesOnce before asked after outcome := by
  cases h with
  | noWarehouses => exact .inl ⟨by simp [HttpRequest.get], _, rfl⟩
  | noWarehouse => exact .inl ⟨by simp [HttpRequest.get], _, rfl⟩
  | noSnapshots => exact .inl ⟨by simp [HttpRequest.get], _, rfl⟩
  | completed hwarehouses hlisted hsnapshots hrest =>
    obtain ⟨asked, after, rfl, hchanges⟩ := hrest.changesOnce
    exact .inr ⟨[_, _], asked, after, rfl,
      (hchanges.listing rfl hsnapshots).listing rfl hwarehouses⟩

/-- A call asks for one change at most. -/
lemma Orchestration.length_changes_le_one
    (h : c.Orchestration warehouseName name exchanges outcome) :
    (changes exchanges).length ≤ 1 := by
  rcases h.reads_or_changesOnce with ⟨hreads, -⟩ | ⟨before, asked, after, rfl, hone⟩
  · have hnone : changes exchanges = [] :=
      List.filter_eq_nil_iff.mpr fun e he => by simp [hreads e he]
    rw [hnone]
    exact Nat.zero_le 1
  · rw [hone.changes_eq]
    exact Nat.le_refl 1

/-- Before a change all listings succeed, and after it no other is asked for. -/
lemma Orchestration.of_change (h : c.Orchestration warehouseName name exchanges outcome)
    (hsplit : exchanges = before ++ asked :: after) (hasked : asked.1.method ≠ .get) :
    (∀ earlier ∈ before, ∃ items, Lists earlier.2 items) ∧
      ∀ later ∈ after, later.1.method = .get := by
  rcases h.reads_or_changesOnce with ⟨hreads, -⟩ | ⟨before', asked', after', hsplit', hone⟩
  · exact absurd (hreads asked (by simp [hsplit])) hasked
  · obtain ⟨rfl, rfl, rfl⟩ := hone.split_eq hasked (hsplit'.symm.trans hsplit)
    exact ⟨fun earlier hearlier => (hone.listings earlier hearlier).2, hone.looks⟩

/-- A request that brings a snapshot up to date ends a call without one for a new snapshot, and when
it fails so does the call. -/
lemma Orchestration.of_patch (h : c.Orchestration warehouseName name exchanges outcome)
    (hmem : asked ∈ exchanges) (hpatch : asked.1.method = .patch) :
    exchanges.getLast? = some asked ∧ (∀ other ∈ exchanges, other.1.method ≠ .post) ∧
      ∀ e, Operation.requiredResult asked.2 = .error e → outcome = .error e := by
  have hasked : asked.1.method ≠ .get := by
    rw [hpatch]
    exact HttpMethod.noConfusion
  rcases h.reads_or_changesOnce with ⟨hreads, -⟩ | ⟨before, one, after, rfl, hone⟩
  · exact absurd (hreads asked hmem) hasked
  · obtain rfl := hone.eq_of_mem hmem hasked
    obtain ⟨rfl, hfails⟩ := hone.of_patch hpatch
    refine ⟨List.getLast?_concat, fun other hother hpost => ?_, hfails⟩
    have hsame := hone.eq_of_mem hother (by rw [hpost]; exact HttpMethod.noConfusion)
    rw [← hsame, hpatch] at hpost
    cases hpost

/-- A call that succeeds made a snapshot just when it asked for a new one. -/
lemma Orchestration.create_iff (h : c.Orchestration warehouseName name exchanges outcome)
    {record : SnapshotRecord} (hrecord : outcome = .ok record) :
    record.change = .create ↔ ∃ asked ∈ exchanges, asked.1.method = .post := by
  rcases h.reads_or_changesOnce with ⟨-, e, hfails⟩ | ⟨before, one, after, rfl, hone⟩
  · rw [hfails] at hrecord
    cases hrecord
  · rw [hone.create_iff record hrecord]
    constructor
    · exact fun hpost => ⟨one, by simp, hpost⟩
    · rintro ⟨asked, hmem, hpost⟩
      obtain rfl := hone.eq_of_mem hmem (by rw [hpost]; exact HttpMethod.noConfusion)
      exact hpost

end ChangesOnce

/-- A listing without the warehouse ends a call: that is the only request. -/
lemma orchestrate_of_notListed {warehouses : List Json} {s : σ}
    (hwarehouses : Lists (peer.answer (.get (c.url "warehouses")) s).1 warehouses)
    (hlisted : ∀ id, ¬ FirstNamed (IsWarehouseNamed warehouseName) warehouses id) :
    (run peer (c.orchestrate warehouseName name).run s).1 =
        .error (.warehouseNotFound warehouseName c.workspaceId) ∧
      (transcript peer (c.orchestrate warehouseName name).run s).length = 1 := by
  rw [c.run_orchestrate_eq, transcript, run_send, readListing_eq_ok_iff.mpr hwarehouses]
  dsimp only
  rw [findWarehouseId_eq_none_iff.mpr hlisted]
  exact ⟨rfl, rfl⟩

/-- The shape of a call, whatever the control plane answers.

The exchanges of a call and what it leads to are one of those listed by `Orchestration`.  So a call
asks for one change at most; before it all listings succeeded, and after it no other is asked for.
A request that brings a snapshot up to date ends the call, and when it fails so does the call.  A
call that succeeds made a snapshot just when it asked for a new one.  A warehouse that is not among
those listed, or has no identifier there, ends the call after one request. -/
theorem orchestration_of_replies (peer : Peer σ) (c : ControlPlaneClient)
    (warehouseName name : String) (s : σ) :
    let exchanges := transcript peer (c.orchestrate warehouseName name).run s
    let outcome := (run peer (c.orchestrate warehouseName name).run s).1
    c.Orchestration warehouseName name exchanges outcome ∧
    (changes exchanges).length ≤ 1 ∧
    (∀ before asked after, exchanges = before ++ asked :: after → asked.1.method ≠ .get →
      (∀ earlier ∈ before, ∃ items, Lists earlier.2 items) ∧
        ∀ later ∈ after, later.1.method = .get) ∧
    (∀ asked ∈ exchanges, asked.1.method = .patch →
      exchanges.getLast? = some asked ∧ (∀ other ∈ exchanges, other.1.method ≠ .post) ∧
        ∀ e, Operation.requiredResult asked.2 = .error e → outcome = .error e) ∧
    (∀ record, outcome = .ok record →
      (record.change = .create ↔ ∃ asked ∈ exchanges, asked.1.method = .post)) ∧
    (∀ warehouses, Lists (peer.answer (.get (c.url "warehouses")) s).1 warehouses →
      (∀ id, ¬ FirstNamed (IsWarehouseNamed warehouseName) warehouses id) →
        outcome = .error (.warehouseNotFound warehouseName c.workspaceId) ∧
          exchanges.length = 1) := by
  intro exchanges outcome
  have hshape : c.Orchestration warehouseName name exchanges outcome :=
    c.orchestration_orchestrate peer warehouseName name s
  exact ⟨hshape, hshape.length_changes_le_one, fun _ _ _ => hshape.of_change,
    fun _ => hshape.of_patch, fun _ => hshape.create_iff, fun _ => c.orchestrate_of_notListed peer⟩

end ControlPlaneClient

end WarehouseAccess
