import WarehouseAccess.ControlPlane.Script
import WarehouseAccess.Proofs.ControlPlane.Orchestration
import WarehouseAccess.Proofs.ControlPlane.Snapshots

/-!
# Identifiers

What becomes of a snapshot hangs on its identifier.  A call that finds the snapshot listed brings it
up to date by its identifier, and at the end of a run the snapshot is refreshed by the identifier
that the call recorded.  Neither has to be there: items of a listing and bodies of replies are any
JSON.

### Outline

* `ControlPlaneClient.Shows` says which warehouse and which snapshots the listings of a call show;
  `ControlPlaneClient.asks_for_new_iff` says by them when a call asks for a new snapshot, and
  `second_snapshot_of_unidentified_item` is a call that does so although the snapshot is listed;
* `LeavesUnidentified` says which replies to such a request leave the new snapshot without an
  identifier; `ControlPlaneClient.unidentified_records` shows that these are the only records
  without one, and `unidentified_at_once` is a snapshot that is made at once and yet has none.
-/

namespace WarehouseAccess

open Exchange

variable {σ : Type}

/-! ### Listed snapshots -/

/-- A reply lists one list of items only. -/
lemma Lists.unique {reply : HttpReply} {items others : List Json} (h : Lists reply items)
    (h' : Lists reply others) : items = others :=
  Except.ok.inj ((readListing_eq_ok_iff.mpr h).symm.trans (readListing_eq_ok_iff.mpr h'))

/-- A reply whose body is not there lists nothing. -/
lemma Lists.requiredResult_ne {reply : HttpReply} {items : List Json} (h : Lists reply items)
    (e : ControlPlaneError) : Operation.requiredResult reply ≠ .error e := by
  intro he
  have hread := readListing_eq_ok_iff.mpr h
  rw [readListing_eq_error_iff.mpr he] at hread
  cases hread

/-- The first warehouse of a name has one identifier only. -/
lemma FirstNamed.warehouse_unique {warehouseName id id' : String} {warehouses : List Json}
    (h : FirstNamed (IsWarehouseNamed warehouseName) warehouses id)
    (h' : FirstNamed (IsWarehouseNamed warehouseName) warehouses id') : id = id' :=
  Option.some.inj ((findWarehouseId_eq_some_iff.mpr h).symm.trans
    (findWarehouseId_eq_some_iff.mpr h'))

/-- Where some item is as asked for and all such items have an identifier, so has the first. -/
lemma exists_firstNamed {p : Json → Prop} {items : List Json} (hsome : ∃ item ∈ items, p item)
    (hall : ∀ item ∈ items, p item → item.textAt "id" ≠ none) : ∃ id, FirstNamed p items id := by
  induction items with
  | nil => simp at hsome
  | cons item rest ih =>
    by_cases hitem : p item
    · obtain ⟨id, hid⟩ := Option.ne_none_iff_exists'.mp (hall item List.mem_cons_self hitem)
      exact ⟨id, [], item, rest, rfl, by simp, hitem, hid⟩
    · obtain ⟨other, hmem, hother⟩ := hsome
      have hrest : ∃ item ∈ rest, p item := by
        rcases List.mem_cons.mp hmem with rfl | hmem
        · exact absurd hother hitem
        · exact ⟨other, hmem, hother⟩
      obtain ⟨id, before, first, after, rfl, hbefore, hfirst, hid⟩ :=
        ih hrest fun item hmem => hall item (List.mem_cons_of_mem _ hmem)
      refine ⟨id, item :: before, first, after, rfl, ?_, hfirst, hid⟩
      exact List.forall_mem_cons.mpr ⟨hitem, hbefore⟩

namespace ControlPlaneClient

variable (c : ControlPlaneClient) (warehouseName name : String)

/-- The exchanges of a call show the warehouse of the identifier and the snapshots: both listings
succeed, and the warehouse is the first of the name. -/
inductive Shows : List (HttpRequest × HttpReply) → String → List Json → Prop
  | intro {first second : HttpReply} {rest : List (HttpRequest × HttpReply)}
      {warehouses snapshots : List Json} {warehouseId : String}
      (hwarehouses : Lists first warehouses)
      (hlisted : FirstNamed (IsWarehouseNamed warehouseName) warehouses warehouseId)
      (hsnapshots : Lists second snapshots) :
      Shows ((.get (c.url "warehouses"), first) ::
        (.get (c.url "warehousesnapshots"), second) :: rest) warehouseId snapshots

variable {c warehouseName name} {exchanges : List (HttpRequest × HttpReply)}
  {outcome : Except ControlPlaneError SnapshotRecord} {warehouseId : String} {snapshots : List Json}

/-- What follows the listings that are shown completes the call. -/
lemma Shows.completion (hshows : c.Shows warehouseName exchanges warehouseId snapshots)
    (h : c.Orchestration warehouseName name exchanges outcome) :
    ∃ first second rest, exchanges = (.get (c.url "warehouses"), first) ::
      (.get (c.url "warehousesnapshots"), second) :: rest ∧
        c.Completion name warehouseId snapshots rest outcome := by
  cases hshows with
  | intro hwarehouses hlisted hsnapshots =>
    cases h with
    | noSnapshots _ _ hnone => exact absurd hnone (hsnapshots.requiredResult_ne _)
    | completed hwarehouses' hlisted' hsnapshots' hrest =>
      obtain rfl := hwarehouses.unique hwarehouses'
      obtain rfl := hlisted.warehouse_unique hlisted'
      obtain rfl := hsnapshots.unique hsnapshots'
      exact ⟨_, _, _, rfl, hrest⟩

/-- A call that asks for a new snapshot listed the warehouses and the snapshots before. -/
lemma Orchestration.exists_shows (h : c.Orchestration warehouseName name exchanges outcome)
    (hpost : ∃ asked ∈ exchanges, asked.1.method = .post) :
    ∃ warehouseId snapshots, c.Shows warehouseName exchanges warehouseId snapshots := by
  cases h with
  | completed hwarehouses hlisted hsnapshots _ =>
    exact ⟨_, _, .intro hwarehouses hlisted hsnapshots⟩
  | _ => simp [HttpRequest.get] at hpost

/-- A request for a new snapshot follows listings that are shown just when no snapshot is listed
with an identifier in the first place. -/
lemma Shows.post_iff (hshows : c.Shows warehouseName exchanges warehouseId snapshots)
    (h : c.Orchestration warehouseName name exchanges outcome) :
    (∃ asked ∈ exchanges, asked.1.method = .post) ↔
      ∀ id, ¬ FirstNamed (IsSnapshotOf warehouseId name) snapshots id := by
  obtain ⟨first, second, rest, rfl, hrest⟩ := hshows.completion h
  cases hrest with
  | update hlisted =>
    refine iff_of_false ?_ fun hnone => hnone _ hlisted
    simp [HttpRequest.get, HttpRequest.patch]
  | @creation body reply _ _ hlisted =>
    exact iff_of_true ⟨(.post (c.url "warehousesnapshots") body, reply), by simp, rfl⟩ hlisted

/-- A snapshot that is listed with an identifier in the first place is brought up to date, and that
is the only change. -/
lemma Shows.changes_eq (hshows : c.Shows warehouseName exchanges warehouseId snapshots)
    (h : c.Orchestration warehouseName name exchanges outcome) {id : String}
    (hid : FirstNamed (IsSnapshotOf warehouseId name) snapshots id) :
    ∃ body reply, changes exchanges = [(.patch (c.snapshotUrl id) body, reply)] := by
  obtain ⟨first, second, rest, rfl, hrest⟩ := hshows.completion h
  cases hrest with
  | @update id' _ _ hlisted =>
    obtain rfl : id' = id := Option.some.inj ((findSnapshotId_eq_some_iff.mpr hlisted).symm.trans
      (findSnapshotId_eq_some_iff.mpr hid))
    exact ⟨_, _, rfl⟩
  | creation hlisted => exact absurd hid (hlisted id)

/-- When a call asks for a new snapshot, whatever the control plane answers.

It does so just when both listings succeed, the warehouse is listed with an identifier, and the
first listed snapshot of the warehouse and name, if there is one, has none.  If the first has one,
the call brings that snapshot up to date and asks for no other change.  So a snapshot that is listed
is never asked for again as long as all listed snapshots of the warehouse and name have
identifiers. -/
theorem asks_for_new_iff (peer : Peer σ) (c : ControlPlaneClient) (warehouseName name : String)
    (s : σ) :
    let exchanges := transcript peer (c.orchestrate warehouseName name).run s
    ((∃ asked ∈ exchanges, asked.1.method = .post) ↔
      ∃ warehouseId snapshots, c.Shows warehouseName exchanges warehouseId snapshots ∧
        ∀ id, ¬ FirstNamed (IsSnapshotOf warehouseId name) snapshots id) ∧
    (∀ warehouseId snapshots id, c.Shows warehouseName exchanges warehouseId snapshots →
      FirstNamed (IsSnapshotOf warehouseId name) snapshots id →
        ∃ body reply, changes exchanges = [(.patch (c.snapshotUrl id) body, reply)]) ∧
    ∀ warehouseId snapshots, c.Shows warehouseName exchanges warehouseId snapshots →
      (∃ item ∈ snapshots, IsSnapshotOf warehouseId name item) →
        (∀ item ∈ snapshots, IsSnapshotOf warehouseId name item → item.textAt "id" ≠ none) →
          ∀ asked ∈ exchanges, asked.1.method ≠ .post := by
  intro exchanges
  have h := c.orchestration_orchestrate peer warehouseName name s
  refine ⟨⟨fun hpost => ?_, ?_⟩, fun _ _ _ hshows => hshows.changes_eq h, ?_⟩
  · obtain ⟨warehouseId, snapshots, hshows⟩ := h.exists_shows hpost
    exact ⟨warehouseId, snapshots, hshows, (hshows.post_iff h).mp hpost⟩
  · rintro ⟨warehouseId, snapshots, hshows, hnone⟩
    exact (hshows.post_iff h).mpr hnone
  · intro warehouseId snapshots hshows hsome hall asked hasked hpost
    obtain ⟨id, hid⟩ := exists_firstNamed hsome hall
    exact (hshows.post_iff h).mp ⟨asked, hasked, hpost⟩ id hid

end ControlPlaneClient

open SnapshotService

/-- The snapshot `nightly` as an item without identifier. -/
def unidentifiedSnapshot : Json :=
  .object [("displayName", .text "nightly"),
    ("properties", .object [("parentWarehouseId", .text "wh-1")]),
    ("type", .text "WarehouseSnapshot")]

/-- The text of a listing of the snapshot, first without and then with its identifier. -/
def doubledListing : String :=
  "\x7b\"value\":[" ++ "\x7b\"displayName\":\"nightly\"," ++
    "\"properties\":\x7b\"parentWarehouseId\":\"wh-1\"\x7d,\"type\":\"WarehouseSnapshot\"\x7d," ++
    "\x7b\"displayName\":\"nightly\",\"properties\":\x7b\"parentWarehouseId\":\"wh-1\"\x7d," ++
    "\"type\":\"WarehouseSnapshot\",\"id\":\"snap-1\"\x7d]\x7d"

/-- A text of two parts is blank just when both are. -/
lemma isBlankText_append (s t : String) :
    isBlankText (s ++ t) = (isBlankText s && isBlankText t) := by
  simp [isBlankText]

/-- Both items are read from the listing. -/
lemma readListing_doubledListing :
    readListing (.response ⟨200, [], doubledListing⟩) =
      .ok [unidentifiedSnapshot, nightlySnapshot] := by
  have hparse : Json.parse doubledListing =
      some (.object [("value", .array [unidentifiedSnapshot, nightlySnapshot])]) := by
    decide +kernel
  -- Deciding this for the whole text takes seconds, and the beginning is enough.
  have hblank : isBlankText doubledListing = false := by
    have hbegins : isBlankText "\x7b\"value\":[" = false := by decide +kernel
    simp only [doubledListing, isBlankText_append, hbegins, Bool.false_and]
  rw [readListing_of_parse hblank hparse]
  rfl

/-- A call asks for a new snapshot although the snapshot is listed, even with its identifier: the
first item of the warehouse and name has none, and later ones are not looked at. -/
theorem second_snapshot_of_unidentified_item :
    let replies : List HttpReply := [.response ⟨200, [], salesListing⟩,
      .response ⟨200, [], doubledListing⟩, .response ⟨200, [], "\x7b\x7d"⟩]
    let exchanges :=
      transcript (scriptedPeer 0) (salesClient.orchestrate "sales" "nightly").run replies
    salesClient.Shows "sales" exchanges "wh-1" [unidentifiedSnapshot, nightlySnapshot] ∧
      IsSnapshotOf "wh-1" "nightly" unidentifiedSnapshot ∧
      IsSnapshotOf "wh-1" "nightly" nightlySnapshot ∧
      ∃ asked ∈ exchanges, asked.1.method = .post := by
  intro replies exchanges
  have hwarehouse : findWarehouseId [salesWarehouse] "sales" = some "wh-1" := by decide
  have hsnapshot :
      findSnapshotId [unidentifiedSnapshot, nightlySnapshot] "wh-1" "nightly" = none := by decide
  have hexchanges : exchanges =
      (.get (salesClient.url "warehouses"), .response ⟨200, [], salesListing⟩) ::
        (.get (salesClient.url "warehousesnapshots"), .response ⟨200, [], doubledListing⟩) ::
          transcript (scriptedPeer 0) (salesClient.createSnapshot "wh-1" "nightly").run
            [.response ⟨200, [], "\x7b\x7d"⟩] := by
    simp only [exchanges, replies, salesClient.run_orchestrate_eq, transcript, scriptedPeer,
      readListing_salesListing, hwarehouse, ControlPlaneClient.afterLookup,
      readListing_doubledListing, hsnapshot]
  refine ⟨?_, ?_, ?_, ?_⟩
  · rw [hexchanges]
    exact .intro (readListing_eq_ok_iff.mp readListing_salesListing)
      (findWarehouseId_eq_some_iff.mp hwarehouse)
      (readListing_eq_ok_iff.mp readListing_doubledListing)
  · exact ⟨by decide, by decide, by decide⟩
  · exact ⟨by decide, by decide, by decide⟩
  · rw [hexchanges, salesClient.run_createSnapshot_eq]
    exact ⟨_, List.mem_cons_of_mem _ (List.mem_cons_of_mem _ List.mem_cons_self), rfl⟩

/-! ### Recorded snapshots -/

/-- The reply to a request for a new snapshot leaves it without an identifier, by what the service
says at the end: a snapshot that is made at once is identified in one place, one that is accepted
for later in three. -/
def LeavesUnidentified (reply : HttpReply) (operation : Json) : Prop :=
  ∃ r, reply = .response r ∧
    (r.status = 201 ∧ operation.textAt "id" = none ∨
      r.status = 202 ∧ operation.textAt "resourceId" = none ∧
        operation.textUnder "result" "id" = none ∧ operation.textAt "id" = none)

/-- There is no first text just when all are missing. -/
lemma FirstText.eq_none_iff {texts : List (Option String)} {found : Option String}
    (h : FirstText texts found) : found = none ↔ ∀ text ∈ texts, text = none := by
  induction h with
  | nil => simp
  | here => simp
  | later _ ih => simp [ih]

namespace ControlPlaneClient

/-- A record of bringing a snapshot up to date has an identifier. -/
lemma snapshotId_ne_none_of_readUpdate {id : String} {reply : HttpReply} {record : SnapshotRecord}
    (h : readUpdate id reply = .ok record) : record.snapshotId ≠ none := by
  unfold readUpdate at h
  cases hbody : Operation.requiredResult reply with
  | error e =>
    rw [hbody] at h
    cases h
  | ok body =>
    rw [hbody] at h
    cases h
    simp

variable {c : ControlPlaneClient} {peer : Peer σ} {warehouseName warehouseId name : String}
  {s s' : σ} {reply : HttpReply} {events : List Event} {record : SnapshotRecord}

/-- The record of a new snapshot has no identifier just when the reply leaves it without. -/
lemma CreationEnd.snapshotId_eq_none_iff
    (h : c.CreationEnd peer warehouseId name s reply events (.ok record) s') :
    record.snapshotId = none ↔ LeavesUnidentified reply record.operation := by
  cases h with
  | @made r body hstatus hbody =>
    constructor
    · exact fun hnone => ⟨r, rfl, .inl ⟨hstatus, hnone⟩⟩
    · rintro ⟨_, hr, ⟨-, hnone⟩ | ⟨hother, -⟩⟩
      · exact hnone
      · cases hr
        simp [hstatus] at hother
  | @waited r result _ _ _ hwaits hsnapshot =>
    have hstatus : r.status = 202 := by
      cases hwaits
      assumption
    rw [hsnapshot.eq_none_iff]
    constructor
    · exact fun hnone => ⟨r, rfl, .inr ⟨hstatus, by simpa using hnone⟩⟩
    · rintro ⟨_, hr, ⟨hother, -⟩ | ⟨-, hnone⟩⟩
      · cases hr
        simp [hstatus] at hother
      · simpa using hnone

/-- The exchanges of making a snapshot: the request for it, and what is done with the reply. -/
lemma transcript_createSnapshot (peer : Peer σ) (c : ControlPlaneClient)
    (warehouseId name : String) (s : σ) :
    ∃ body reply s', transcript peer (c.createSnapshot warehouseId name).run s =
        (.post (c.url "warehousesnapshots") body, reply) ::
          transcript peer (c.afterCreation warehouseId name reply) s' ∧
      (run peer (c.createSnapshot warehouseId name).run s).1 =
        (run peer (c.afterCreation warehouseId name reply) s').1 := by
  rw [c.run_createSnapshot_eq]
  exact ⟨_, _, _, rfl, rfl⟩

/-- The record of making a snapshot has no identifier just when the reply to the request for it
leaves it without. -/
lemma createSnapshot_unidentified_iff
    (h : (run peer (c.createSnapshot warehouseId name).run s).1 = .ok record) :
    record.snapshotId = none ↔
      ∃ asked ∈ transcript peer (c.createSnapshot warehouseId name).run s,
        asked.1.method = .post ∧ LeavesUnidentified asked.2 record.operation := by
  obtain ⟨body, reply, s', htranscript, houtcome⟩ :=
    transcript_createSnapshot peer c warehouseId name s
  have hend := c.creationEnd_afterCreation peer warehouseId name s' reply
  dsimp only at hend
  rw [← houtcome, h] at hend
  rw [htranscript, hend.snapshotId_eq_none_iff]
  constructor
  · exact fun hleaves => ⟨_, List.mem_cons_self, rfl, hleaves⟩
  · rintro ⟨asked, hasked, hpost, hleaves⟩
    rcases List.mem_cons.mp hasked with rfl | hlater
    · exact hleaves
    · have hget := (c.reads_afterCreation warehouseId name reply).method_eq peer s' asked hlater
      rw [hget] at hpost
      cases hpost

/-- A call that succeeds ends by bringing a snapshot up to date or by making one, and it only lists
before. -/
lemma orchestrate_cases (h : (run peer (c.orchestrate warehouseName name).run s).1 = .ok record) :
    ∃ before s', (∀ asked ∈ before, asked.1.method = .get) ∧
      ((∃ id, (run peer (c.updateSnapshot id).run s').1 = .ok record ∧
        transcript peer (c.orchestrate warehouseName name).run s =
          before ++ transcript peer (c.updateSnapshot id).run s') ∨
      ∃ warehouseId, (run peer (c.createSnapshot warehouseId name).run s').1 = .ok record ∧
        transcript peer (c.orchestrate warehouseName name).run s =
          before ++ transcript peer (c.createSnapshot warehouseId name).run s') := by
  rw [c.run_orchestrate_eq, transcript]
  rw [c.run_orchestrate_eq, run_send] at h
  generalize peer.answer _ s = answer at h ⊢
  obtain ⟨first, s₁⟩ := answer
  dsimp only at h ⊢
  cases hwarehouses : readListing first with
  | error e => simp [hwarehouses] at h
  | ok warehouses =>
    simp only [hwarehouses] at h ⊢
    cases hwarehouse : findWarehouseId warehouses warehouseName with
    | none => simp [hwarehouse] at h
    | some warehouseId =>
      simp only [hwarehouse, afterLookup] at h ⊢
      -- the warehouses are shown, and then the snapshots are asked for
      rw [run_send] at h
      rw [transcript]
      generalize peer.answer _ s₁ = answer at h ⊢
      obtain ⟨second, s₂⟩ := answer
      dsimp only at h ⊢
      cases hsnapshots : readListing second with
      | error e => simp [hsnapshots] at h
      | ok snapshots =>
        simp only [hsnapshots] at h ⊢
        -- both listings stand before the one change
        refine ⟨[(.get (c.url "warehouses"), first), (.get (c.url "warehousesnapshots"), second)],
          s₂, by simp [HttpRequest.get], ?_⟩
        cases hsnapshot : findSnapshotId snapshots warehouseId name with
        | some id =>
          rw [hsnapshot] at h
          exact .inl ⟨id, h, rfl⟩
        | none =>
          rw [hsnapshot] at h
          exact .inr ⟨warehouseId, h, rfl⟩

/-- The record of bringing a snapshot up to date has an identifier. -/
lemma updateSnapshot_identified {id : String}
    (h : (run peer (c.updateSnapshot id).run s).1 = .ok record) : record.snapshotId ≠ none := by
  rw [c.run_updateSnapshot_eq] at h
  exact snapshotId_ne_none_of_readUpdate h

/-- The record of a call has no identifier just when the call asked for a new snapshot and the reply
to that leaves it without. -/
lemma orchestrate_unidentified_iff
    (h : (run peer (c.orchestrate warehouseName name).run s).1 = .ok record) :
    record.snapshotId = none ↔
      ∃ asked ∈ transcript peer (c.orchestrate warehouseName name).run s,
        asked.1.method = .post ∧ LeavesUnidentified asked.2 record.operation := by
  -- the looks in front make no record, so only the change counts
  have hskip {before after : List (HttpRequest × HttpReply)}
      (hbefore : ∀ asked ∈ before, asked.1.method = .get) :
      (∃ asked ∈ before ++ after, asked.1.method = .post ∧
          LeavesUnidentified asked.2 record.operation) ↔
        ∃ asked ∈ after, asked.1.method = .post ∧
          LeavesUnidentified asked.2 record.operation := by
    constructor
    · rintro ⟨asked, hasked, hpost, hleaves⟩
      rcases List.mem_append.mp hasked with hmem | hmem
      · rw [hbefore asked hmem] at hpost
        cases hpost
      · exact ⟨asked, hmem, hpost, hleaves⟩
    · rintro ⟨asked, hasked, hpost, hleaves⟩
      exact ⟨asked, List.mem_append_right _ hasked, hpost, hleaves⟩
  obtain ⟨before, s', hbefore, ⟨id, hrecord, htranscript⟩ | ⟨warehouseId, hrecord, htranscript⟩⟩ :=
    orchestrate_cases h
  · rw [htranscript, hskip hbefore]
    refine iff_of_false (updateSnapshot_identified hrecord) ?_
    rw [c.run_updateSnapshot_eq]
    simp [transcript, HttpRequest.patch]
  · rw [htranscript, hskip hbefore]
    exact createSnapshot_unidentified_iff hrecord

/-- The records without identifier, whatever the control plane answers.

A record of making a snapshot, or of a call, has none just when a new snapshot was asked for and the
reply leaves it without: it was accepted for later and the result names it in none of three places,
or it was made at once and the body does not name it.  A record of bringing a snapshot up to date,
or of refreshing one, always has one.  And refreshing a record sends nothing just when it has
none. -/
theorem unidentified_records (peer : Peer σ) (c : ControlPlaneClient) (s : σ) :
    (∀ warehouseId name record,
      (run peer (c.createSnapshot warehouseId name).run s).1 = .ok record →
        (record.snapshotId = none ↔
          ∃ asked ∈ transcript peer (c.createSnapshot warehouseId name).run s,
            asked.1.method = .post ∧ LeavesUnidentified asked.2 record.operation)) ∧
    (∀ warehouseName name record,
      (run peer (c.orchestrate warehouseName name).run s).1 = .ok record →
        (record.snapshotId = none ↔
          ∃ asked ∈ transcript peer (c.orchestrate warehouseName name).run s,
            asked.1.method = .post ∧ LeavesUnidentified asked.2 record.operation)) ∧
    (∀ id record, (run peer (c.updateSnapshot id).run s).1 = .ok record →
      record.snapshotId ≠ none) ∧
    (∀ recorded refreshed, (run peer (c.refresh recorded).run s).1 = .ok (some refreshed) →
      refreshed.snapshotId ≠ none) ∧
    ∀ recorded, requests (run peer (c.refresh recorded).run s).2.1 = [] ↔
      recorded.snapshotId = none := by
  refine ⟨fun _ _ _ => createSnapshot_unidentified_iff, fun _ _ _ => orchestrate_unidentified_iff,
    fun _ _ => updateSnapshot_identified, fun recorded refreshed h => ?_, fun recorded => ?_⟩
  · -- a refresh gives a record only for one with an identifier, and keeps that
    rw [c.run_refresh_eq] at h
    cases hid : recorded.snapshotId with
    | none =>
      rw [hid] at h
      cases h
    | some id =>
      rw [hid] at h
      dsimp only [run] at h
      generalize (peer.answer _ _).1 = reply at h
      cases hread : readUpdate id reply with
      | error e =>
        rw [hread] at h
        cases h
      | ok record =>
        rw [hread] at h
        cases h
        exact snapshotId_ne_none_of_readUpdate hread
  · rw [c.run_refresh_eq]
    cases recorded.snapshotId with
    | none => simp [run]
    | some id => simp [run]

end ControlPlaneClient

/-- The snapshot `nightly`, identified as results of operations identify what they made. -/
def snapshotAsResource : Json :=
  .object [("displayName", .text "nightly"), ("resourceId", .text "snap-1")]

/-- The text of it. -/
def namedAsResource : String :=
  "\x7b\"displayName\":\"nightly\",\"resourceId\":\"snap-1\"\x7d"

/-- A snapshot that is made at once, and whose record yet has no identifier: nothing was accepted
for later, and the identifier that the service gives as that of a resource is passed over. -/
theorem unidentified_at_once :
    let replies : List HttpReply := [.response ⟨201, [], namedAsResource⟩,
      .response ⟨200, [], "\x7b\x7d"⟩]
    let create := (salesClient.createSnapshot "wh-1" "nightly").run
    (∃ record, (run (scriptedPeer 0) create replies).1 = .ok record ∧
      record.operation.textAt "resourceId" = some "snap-1" ∧ record.snapshotId = none) ∧
      ∀ asked ∈ transcript (scriptedPeer 0) create replies, ∀ r, asked.2 = .response r →
        r.status ≠ 202 := by
  intro replies create
  have hparse : Json.parse namedAsResource = some snapshotAsResource := by decide +kernel
  have hblank : isBlankText namedAsResource = false := by decide +kernel
  have hbody : Inquiry.body ⟨201, [], namedAsResource⟩ = .ok snapshotAsResource := by
    simp [Inquiry.body, HttpResponse.json?, hblank, hparse]
  have hafter : salesClient.afterCreation "wh-1" "nightly" (.response ⟨201, [], namedAsResource⟩) =
      .done (.ok ⟨none, some "nightly", some "wh-1", .create, snapshotAsResource⟩) := by
    rw [ControlPlaneClient.afterCreation, if_pos rfl, hbody]
    rfl
  simp only [create, replies, salesClient.run_createSnapshot_eq, run, transcript, scriptedPeer,
    hafter]
  refine ⟨⟨_, rfl, by decide, rfl⟩, ?_⟩
  simp

end WarehouseAccess
