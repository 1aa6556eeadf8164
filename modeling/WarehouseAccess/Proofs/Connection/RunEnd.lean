import WarehouseAccess.ControlPlane.Script
import WarehouseAccess.Proofs.Connection.RunOnce
import WarehouseAccess.Proofs.ControlPlane.Snapshots
import WarehouseAccess.Proofs.RunResults

/-!
# The end of a run

At the end of a run the snapshot that was made current at its start is brought up to date once more.
Much can stand in the way of it, and nobody is told: the run may not have begun, its start may have
failed or left no snapshot with an identifier, the hook may be gone, and the results may not tell of
success.  This module says that these are all the ways, and what is sent when there are none.

### Outline

* `RunLifecycle.RefreshDue` says of any calls that they leave a snapshot to be refreshed, and
  `hook_after_eq_some_iff` what this means for the hook that is kept;
* `finish_of_refresh` and `finish_of_skip` are the two ways in which a run can end;
* `RunLifecycle.refresh_at_end` puts them together.
-/

namespace WarehouseAccess

open Exchange

variable {σ τ : Type}

/-! ### The workspace of a link -/

namespace ControlPlaneConnector

/-- Links are to the workspaces that the connector was asked to reach. -/
def ReachesWorkspace (k : ControlPlaneConnector σ τ) : Prop :=
  ∀ p workspaceId w service link, (k.connect p workspaceId w service).1 = .ok link →
    link.client.workspaceId = workspaceId

/-- The connector of a real run reaches the workspaces that it is asked to reach. -/
lemma reachesWorkspace_signingIn (a : TokenAuthority σ)
    (transport : String → Except ControlPlaneError (Peer τ)) :
    (signingIn a transport).ReachesWorkspace := by
  intro p workspaceId w service link h
  unfold signingIn at h
  dsimp only at h
  rcases htoken : a.controlPlaneToken p w with ⟨e | token, w'⟩
  · simp [htoken] at h
  · cases htransport : transport token with
    | error e => simp [htoken, htransport] at h
    | ok peer =>
      simp only [htoken, htransport, Except.ok.injEq] at h
      rw [← h]
      rfl

end ControlPlaneConnector

/-- What the connector is asked during a call is on record with its answer. -/
lemma RunCall.exists_ask {services : Services σ τ} {l : RunLifecycle τ} {call : RunCall σ τ}
    {a : ReachAsk τ} (ha : a ∈ call.asked services l) :
    ∃ w service, a = services.connector.ask a.profile a.workspaceId w service := by
  -- only a call that lets the run begin asks
  have hasks {p : Profile} {w : σ} (ha : a ∈ l.asks services.connector p w) :
      ∃ w service, a = services.connector.ask a.profile a.workspaceId w service := by
    unfold RunLifecycle.asks at ha
    split_ifs at ha
    · obtain ⟨workspaceId, -, rfl⟩ := List.mem_map.mp ha
      exact ⟨w, l.service, rfl⟩
    · simp at ha
  cases call with
  | openBy m c s =>
    rw [RunCall.asked] at ha
    cases hopen : c.isOpen with
    | true =>
      rw [ConnectionManager.openConnection_of_isOpen hopen] at ha
      cases ha
    | false =>
      cases houtcome : (m.openConnection services c { s with lifecycle := some l }).1 with
      | error e =>
        rw [(m.openConnection_of_error services hopen houtcome []).2] at ha
        cases ha
      | ok value =>
        obtain ⟨w, -, hasked⟩ := m.openConnection_of_ok services hopen houtcome rfl []
        rw [hasked, List.nil_append] at ha
        exact hasks ha
  | startOnce p w =>
    rw [RunCall.asked, l.startOnce_recorded services.connector p w [], List.nil_append] at ha
    exact hasks ha
  | takeHook => cases ha
  | finish file => cases ha

/-! ### What the calls leave -/

namespace ReachAsk

/-- The answer leaves a snapshot behind: the link was had, the profile names a snapshot, and making
it current gave a record with the identifier. -/
structure Leaves (a : ReachAsk τ) (link : ControlPlaneLink τ) (id : String) : Prop where
  reached : a.outcome = .ok link
  recorded : ∃ name record, a.profile.warehouseSnapshotName = some name ∧
    (run link.peer (link.client.orchestrate a.profile.database name).run a.service).1 = .ok record ∧
    record.snapshotId = some id

/-- The hook that is kept after an answer has a record with an identifier just when the answer
leaves the snapshot behind. -/
lemma leaves_iff {a : ReachAsk τ} {link : ControlPlaneLink τ} {id : String} :
    a.Leaves link id ↔
      ∃ record, a.hook = some ⟨link, some record⟩ ∧ record.snapshotId = some id := by
  constructor
  · rintro ⟨hreached, name, record, hname, hrecord, hid⟩
    refine ⟨record, ?_, hid⟩
    simp [hook, hreached, hname, hrecord]
  · rintro ⟨record, hhook, hid⟩
    unfold hook at hhook
    cases houtcome : a.outcome with
    | error e => simp [houtcome] at hhook
    | ok link' =>
      cases hname : a.profile.warehouseSnapshotName with
      | none => simp [houtcome, hname] at hhook
      | some name =>
        simp only [houtcome, hname] at hhook
        split at hhook
        · next record' hrecord =>
          cases hhook
          exact ⟨houtcome, name, record, hname, hrecord, hid⟩
        · cases hhook

end ReachAsk

/-! ### Refreshing over a link -/

/-- The reply has what a request that brings a snapshot up to date asks for: a status of success,
and JSON or nothing in its body. -/
def HttpReply.IsUpdate (reply : HttpReply) : Prop :=
  ∃ r, reply = .response r ∧ 200 ≤ r.status ∧ r.status < 300 ∧
    (isBlankText r.body = true ∨ ∃ body, Json.parse r.body = some body)

/-- A record is read from the reply just when the reply has what was asked for. -/
lemma HttpReply.isUpdate_iff {id : String} {reply : HttpReply} :
    reply.IsUpdate ↔ ∃ record, readUpdate id reply = .ok record := by
  have hread : (∃ record, readUpdate id reply = .ok record) ↔
      ∃ body, Operation.requiredResult reply = .ok body := by
    unfold readUpdate
    cases Operation.requiredResult reply <;> simp [Except.map]
  rw [hread]
  cases reply with
  | failure reason => simp [IsUpdate, Operation.requiredResult]
  | response r =>
    have hbody : (isBlankText r.body = true ∨ ∃ body, Json.parse r.body = some body) ↔
        ∃ body, r.json? = some body := by
      unfold HttpResponse.json?
      split_ifs with hblank <;> simp [hblank]
    simp only [IsUpdate, HttpReply.response.injEq, exists_eq_left', hbody, Operation.requiredResult]
    by_cases hstatus : 200 ≤ r.status ∧ r.status < 300
    · rw [if_pos hstatus]
      cases r.json? <;> simp [hstatus]
    · rw [if_neg hstatus]
      refine iff_of_false (fun h => hstatus ⟨h.1, h.2.1⟩) ?_
      simp

namespace ControlPlaneLink

/-- The request that refreshes a snapshot over the link, when the service is as given. -/
def refreshing (link : ControlPlaneLink τ) (id : String) (service : τ) : HttpRequest :=
  .patch (link.client.snapshotUrl id)
    (ControlPlaneClient.updateBody (utcStamp (link.peer.now service).1))

/-- What comes back for it, and the service afterwards. -/
def refreshed (link : ControlPlaneLink τ) (id : String) (service : τ) : HttpReply × τ :=
  link.peer.answer (link.refreshing id service) (link.peer.now service).2

/-- Refreshing a recorded snapshot with an identifier is one request, and the reply to it
decides. -/
lemma run_refresh (link : ControlPlaneLink τ) {record : SnapshotRecord} {id : String}
    (hid : record.snapshotId = some id) (service : τ) :
    run link.peer (link.client.refresh record).run service =
      ((readUpdate id (link.refreshed id service).1).map some,
        [.sent (link.refreshing id service)], (link.refreshed id service).2) := by
  rw [link.client.run_refresh_eq, hid]
  rfl

end ControlPlaneLink

namespace RunLifecycle

variable (services : Services σ τ)

/-- Calls leave the snapshot with the identifier to be refreshed over the link: the answer of the
connector left it behind, and no call handed out the hook. -/
structure RefreshDue (l : RunLifecycle τ) (calls : List (RunCall σ τ)) (a : ReachAsk τ)
    (link : ControlPlaneLink τ) (id : String) : Prop where
  asked : a ∈ l.askedAlong services calls
  leaves : a.Leaves link id
  kept : l.handedAlong services calls = []

variable {services} {l : RunLifecycle τ} {calls : List (RunCall σ τ)} {a : ReachAsk τ}

/-- What is seen of calls is seen of one of them. -/
lemma exists_of_mem_along {α : Type} {view : RunLifecycle τ → RunCall σ τ → List α} {x : α}
    (hx : x ∈ l.along services view calls) : ∃ l' call, x ∈ view l' call := by
  induction calls generalizing l with
  | nil => cases hx
  | cons call calls ih =>
    rcases List.mem_append.mp hx with hx | hx
    · exact ⟨l, call, hx⟩
    · exact ih hx

/-- The link of an answer is to the workspace that was asked for. -/
lemma workspaceId_of_asked (hreaches : services.connector.ReachesWorkspace)
    (ha : a ∈ l.askedAlong services calls) {link : ControlPlaneLink τ}
    (hlink : a.outcome = .ok link) :
    link.client.workspaceId = a.workspaceId := by
  obtain ⟨_, call, hcall⟩ := exists_of_mem_along ha
  obtain ⟨w, service, hask⟩ := RunCall.exists_ask hcall
  rw [hask] at hlink
  exact hreaches _ _ w service link hlink

/-- Along any calls the connector is asked nothing, or once for the workspace of the first profile
with which the run begins. -/
lemma DoesAlong.asked_cases (h : l.DoesAlong services calls) :
    l.askedAlong services calls = [] ∨ ∃ a, l.askedAlong services calls = [a] ∧
      (l.starters services calls).head? = some a.profile ∧
      a.profile.workspaceId = some a.workspaceId := by
  have hasked := h.asked
  split_ifs at hasked
  · cases hfirst : (l.starters services calls).head? with
    | none => exact .inl (by simpa [hfirst] using hasked)
    | some p =>
      cases hworkspace : p.workspaceId with
      | none => exact .inl (by simpa [hfirst, hworkspace] using hasked)
      | some workspaceId =>
        simp only [hfirst, hworkspace, Option.bind_some, Option.map_some, Option.toList_some,
          List.map_eq_singleton_iff, Prod.mk.injEq] at hasked
        obtain ⟨a, ha, rfl, rfl⟩ := hasked
        exact .inr ⟨a, ha, rfl, hworkspace⟩
  · exact .inl (by simpa using hasked)

/-- The hook that is kept after calls comes from the answer of the connector, and is kept as long as
no call hands it out. -/
lemma DoesAlong.hook_after_eq_some_iff (h : l.DoesAlong services calls) (hnone : l.hook = none)
    {hook : PostRunHook τ} :
    (l.after services calls).hook = some hook ↔
      l.handedAlong services calls = [] ∧
        ∃ a ∈ l.askedAlong services calls, a.hook = some hook := by
  have hhooks := h.hooks
  rw [hnone, Option.toList_none, List.nil_append] at hhooks
  rcases h.asked_cases with hasked | ⟨a, hasked, -, -⟩
  · rw [hasked, List.flatMap_nil, List.append_eq_nil_iff] at hhooks
    simp [hasked, Option.toList_eq_nil_iff.mp hhooks.2]
  · rw [hasked, List.flatMap_singleton] at hhooks
    simp only [hasked, List.mem_singleton, exists_eq_left]
    constructor
    · intro hkept
      rw [hkept, Option.toList_some] at hhooks
      cases ha : a.hook with
      | none => simp [ha] at hhooks
      | some hook' =>
        rw [ha, Option.toList_some, List.append_eq_singleton_iff] at hhooks
        rcases hhooks with ⟨hhanded, hsame⟩ | ⟨-, hsame⟩
        · exact ⟨hhanded, by simpa using hsame.symm⟩
        · cases hsame
    · rintro ⟨hhanded, ha⟩
      rw [hhanded, ha, List.nil_append] at hhooks
      simpa using hhooks

/-- A refresh is due just when the hook is kept and has a record with an identifier. -/
lemma exists_refreshDue_iff (h : l.DoesAlong services calls) (hnone : l.hook = none)
    {link : ControlPlaneLink τ} {id : String} :
    (∃ a, l.RefreshDue services calls a link id) ↔ ∃ record,
      (l.after services calls).hook = some ⟨link, some record⟩ ∧ record.snapshotId = some id := by
  simp only [h.hook_after_eq_some_iff hnone]
  constructor
  · rintro ⟨a, hasked, hleaves, hkept⟩
    obtain ⟨record, hhook, hid⟩ := ReachAsk.leaves_iff.mp hleaves
    exact ⟨record, ⟨hkept, a, hasked, hhook⟩, hid⟩
  · rintro ⟨record, ⟨hkept, a, hasked, hhook⟩, hid⟩
    exact ⟨a, hasked, ReachAsk.leaves_iff.mpr ⟨record, hhook, hid⟩, hkept⟩

/-! ### Ending -/

section Finish

variable {link : ControlPlaneLink τ} {record : SnapshotRecord} {id : String}
  {file file' : Option (List UInt8)}

/-- A run that succeeded, with a snapshot to refresh, ends with one request for it. -/
lemma finish_of_refresh (hhook : l.hook = some ⟨link, some record⟩)
    (hid : record.snapshotId = some id) (htells : RunResults.TellsSuccess file) :
    l.finish file = ((readUpdate id (link.refreshed id l.service).1).toOption,
      { l with
        hook := none
        service := (link.refreshed id l.service).2
        events := l.events ++ [.sent (link.refreshing id l.service)] }) := by
  have hsuccess := (RunResults.statusOfFile_eq_success_iff file).mpr htells
  simp only [finish, takeHook, hhook, runHook, if_pos hsuccess, perform, link.run_refresh hid]
  cases readUpdate id (link.refreshed id l.service).1 <;> rfl

/-- Any other run ends without a word. -/
lemma finish_of_skip (hskip : ¬ ((∃ link record id, l.hook = some ⟨link, some record⟩ ∧
      record.snapshotId = some id) ∧ RunResults.TellsSuccess file)) :
    l.finish file = (none, { l with hook := none }) := by
  unfold finish takeHook
  cases hhook : l.hook with
  | none => rfl
  | some hook =>
    obtain ⟨link, recorded⟩ := hook
    cases recorded with
    | none => rfl
    | some record =>
      dsimp only [runHook]
      split_ifs with hsuccess
      · have htells := (RunResults.statusOfFile_eq_success_iff file).mp hsuccess
        have hid : record.snapshotId = none := by
          rw [Option.eq_none_iff_forall_ne_some]
          exact fun id hid => hskip ⟨⟨link, record, id, hhook, hid⟩, htells⟩
        simp [perform, ControlPlaneClient.run_refresh_eq, hid]
      · rfl

/-- All that counts of the file is whether it tells of success. -/
lemma finish_congr (l : RunLifecycle τ)
    (h : RunResults.TellsSuccess file ↔ RunResults.TellsSuccess file') :
    l.finish file = l.finish file' := by
  have hstatus : RunResults.statusOfFile file = .success ↔
      RunResults.statusOfFile file' = .success := by
    rw [RunResults.statusOfFile_eq_success_iff, h, RunResults.statusOfFile_eq_success_iff]
  unfold finish runHook
  simp only [hstatus]

end Finish

section Due

variable {link : ControlPlaneLink τ} {id : String} {file : Option (List UInt8)}

/-- Where a refresh is due, the run began with the profile whose workspace the connector was asked
to reach. -/
lemma RefreshDue.begun (h : l.RefreshDue services calls a link id)
    (hdoes : l.DoesAlong services calls) :
    (l.starters services calls).head? = some a.profile ∧
      a.profile.workspaceId = some a.workspaceId := by
  have hmem := h.asked
  rcases hdoes.asked_cases with hasked | ⟨first, hasked, hstarter, hworkspace⟩
  · rw [hasked] at hmem
    cases hmem
  · rw [hasked, List.mem_singleton] at hmem
    subst hmem
    exact ⟨hstarter, hworkspace⟩

/-- The refresh that is due is of a snapshot in the workspace that the connector was asked to
reach. -/
lemma RefreshDue.url_refreshing (h : l.RefreshDue services calls a link id)
    (hreaches : services.connector.ReachesWorkspace) (service : τ) :
    (link.refreshing id service).url = link.client.baseUrl ++ "/workspaces/" ++ a.workspaceId ++
      "/" ++ ("warehousesnapshots/" ++ id) := by
  rw [← workspaceId_of_asked hreaches h.asked h.leaves.reached]
  rfl

/-- Where a refresh is due and the file tells of success, the refresh is sent. -/
lemma RefreshDue.finish_eq (h : l.RefreshDue services calls a link id)
    (hdoes : l.DoesAlong services calls) (hnone : l.hook = none)
    (htells : RunResults.TellsSuccess file) :
    let final := l.after services calls
    final.finish file = ((readUpdate id (link.refreshed id final.service).1).toOption,
      { final with
        hook := none
        service := (link.refreshed id final.service).2
        events := final.events ++ [.sent (link.refreshing id final.service)] }) := by
  obtain ⟨record, hhook, hid⟩ := (exists_refreshDue_iff hdoes hnone).mp ⟨a, h⟩
  exact finish_of_refresh hhook hid htells

/-- Where no refresh is due or the file does not tell of success, the hook goes and that is all. -/
lemma finish_eq_of_not_due (hdoes : l.DoesAlong services calls) (hnone : l.hook = none)
    (h : ¬ ((∃ a link id, l.RefreshDue services calls a link id) ∧ RunResults.TellsSuccess file)) :
    (l.after services calls).finish file =
      (none, { l.after services calls with hook := none }) := by
  refine finish_of_skip fun ⟨⟨link, record, id, hhook, hid⟩, htells⟩ => h ⟨?_, htells⟩
  obtain ⟨a, hdue⟩ := (exists_refreshDue_iff hdoes hnone).mpr ⟨record, hhook, hid⟩
  exact ⟨a, link, id, hdue⟩

end Due

/-- The end of a run after any calls, by any managers and hosts, whatever the connector and the
control plane answer and whatever the file of results holds.

The hook is gone.  A request is sent just when a refresh is due and the file tells of success.  It
is then the only one: it brings the snapshot that the start left behind up to date, in the workspace
of the profile with which the run began, as far as the connector reaches the workspaces it is asked
to reach.  A record is given back just when the reply has what was asked for, and never without a
request.  And the end is the same for all files with nodes between which lie any number of edits
that leave nodes alone that failed or cannot be read. -/
theorem refresh_at_end (services : Services σ τ) (command : Option String) (service : τ)
    (calls : List (RunCall σ τ)) (file : Option (List UInt8)) :
    let start : RunLifecycle τ := { command, service }
    let l := start.after services calls
    let record := (l.finish file).1
    let final := (l.finish file).2
    final.hook = none ∧
    (∃ sent, final.events = l.events ++ sent ∧
      (requests sent ≠ [] ↔
        (∃ a link id, start.RefreshDue services calls a link id) ∧ RunResults.TellsSuccess file) ∧
      (requests sent = [] → record = none) ∧
      ∀ a link id, start.RefreshDue services calls a link id → RunResults.TellsSuccess file →
        sent = [.sent (link.refreshing id l.service)] ∧
        (record ≠ none ↔ (link.refreshed id l.service).1.IsUpdate) ∧
        (start.starters services calls).head? = some a.profile ∧
        a.profile.workspaceId = some a.workspaceId ∧
        (services.connector.ReachesWorkspace →
          (link.refreshing id l.service).url = link.client.baseUrl ++ "/workspaces/" ++
            a.workspaceId ++ "/" ++ ("warehousesnapshots/" ++ id))) ∧
    ∀ file' items items', RunResults.HoldsItems file items → RunResults.HoldsItems file' items' →
      items ≠ [] → items' ≠ [] → Relation.ReflTransGen RunResults.Edit items items' →
        l.finish file' = l.finish file := by
  intro start l record final
  have hdoes := doesAlong_after services calls (l := start) fun _ => rfl
  have hnone : start.hook = none := rfl
  -- the file counts only by whether it tells of success, and edits do not change that
  have hedits : ∀ file' items items', RunResults.HoldsItems file items →
      RunResults.HoldsItems file' items' → items ≠ [] → items' ≠ [] →
        Relation.ReflTransGen RunResults.Edit items items' → l.finish file' = l.finish file :=
    fun file' items items' h h' hsome hsome' hedits =>
      (l.finish_congr (RunResults.tellsSuccess_iff_of_edits h h' hsome hsome' hedits)).symm
  by_cases hrefresh : (∃ a link id, start.RefreshDue services calls a link id) ∧
      RunResults.TellsSuccess file
  · obtain ⟨⟨a, link, id, hdue⟩, htells⟩ := hrefresh
    have hfinish := hdue.finish_eq hdoes hnone htells
    have hevents : final.events = l.events ++ [.sent (link.refreshing id l.service)] :=
      congrArg (fun result => result.2.events) hfinish
    refine ⟨congrArg (fun result => result.2.hook) hfinish, ⟨_, hevents, ?_, ?_, ?_⟩, hedits⟩
    · -- a request is sent
      simp only [requests_sent]
      exact iff_of_true (List.cons_ne_nil _ _) ⟨⟨a, link, id, hdue⟩, htells⟩
    · intro hempty
      simp [requests_sent] at hempty
    · -- any refresh that is due is this one: both are what the end of the run sends
      intro a' link' id' hdue' _
      have hfinish' := hdue'.finish_eq hdoes hnone htells
      have hevents' : final.events = l.events ++ [.sent (link'.refreshing id' l.service)] :=
        congrArg (fun result => result.2.events) hfinish'
      have hrecord : record = (readUpdate id' (link'.refreshed id' l.service).1).toOption :=
        congrArg Prod.fst hfinish'
      obtain ⟨hstarter, hworkspace⟩ := hdue'.begun hdoes
      refine ⟨List.append_cancel_left (hevents.symm.trans hevents'), ?_, hstarter, hworkspace,
        fun hreaches => hdue'.url_refreshing hreaches l.service⟩
      rw [hrecord, HttpReply.isUpdate_iff]
      cases readUpdate id' (link'.refreshed id' l.service).1 <;> simp [Except.toOption]
  · -- nothing is due, or the file does not tell of success
    have hfinish := finish_eq_of_not_due hdoes hnone hrefresh
    have hevents : final.events = l.events ++ [] :=
      (congrArg (fun result => result.2.events) hfinish).trans (List.append_nil _).symm
    refine ⟨congrArg (fun result => result.2.hook) hfinish, ⟨[], hevents, ?_, ?_, ?_⟩, hedits⟩
    · exact iff_of_false (fun hsent => hsent rfl) hrefresh
    · exact fun _ => congrArg Prod.fst hfinish
    · exact fun a link id hdue htells => absurd ⟨⟨a, link, id, hdue⟩, htells⟩ hrefresh

end RunLifecycle

/-! ### A run that refreshes the snapshot `nightly` -/

open SnapshotService

/-- A start that succeeds keeps the record of the snapshot. -/
lemma RunLifecycle.startOnce_of_run {l : RunLifecycle τ} {k : ControlPlaneConnector σ τ}
    {p : Profile} {w w' : σ} {workspaceId name : String} {link : ControlPlaneLink τ}
    {record : SnapshotRecord} {events : List Event} {service service' : τ}
    (hruns : (l.shouldRun && !l.started) = true) (hworkspace : p.workspaceId = some workspaceId)
    (hname : p.warehouseSnapshotName = some name)
    (hconnect : k.connect p workspaceId w l.service = (.ok link, w', service))
    (hrun : run link.peer (link.client.orchestrate p.database name).run service =
      (.ok record, events, service')) :
    (l.startOnce k p w).1 = { l with
      started := true
      hook := some ⟨link, some record⟩
      service := service'
      events := l.events ++ events } := by
  simp only [startOnce, hruns, if_true, reach, hworkspace, hconnect, begin, hname, perform, hrun]

/-- A profile with a token of its own, for the snapshot. -/
def nightlyProfile : Profile :=
  { Profile.new "warehouse.example" "sales" "dbo" with
    authentication := .activeDirectoryAccessToken
    accessToken := some "token"
    workspaceId := some "ws-1"
    warehouseSnapshotName := some "nightly" }

/-- Services with a control plane that plays back replies, and without any provider of tokens. -/
def scriptedServices : Services Unit (List HttpReply) :=
  let authority : TokenAuthority Unit := {
    now := fun w => (0, w)
    provider? := fun _ => none
    principal := ⟨"none", fun _ _ w => (.error (.noProvider "none"), w)⟩ }
  ⟨authority, .signingIn authority fun _ => .ok (scriptedPeer 0)⟩

/-- The link that is had with the profile. -/
def nightlyLink : ControlPlaneLink (List HttpReply) :=
  ⟨.ofProfile nightlyProfile "ws-1", scriptedPeer 0⟩

/-- A call that finds the snapshot listed, and brings it up to date. -/
lemma run_orchestrate_nightly (c : ControlPlaneClient) (rest : List HttpReply) :
    ∃ record events, run (scriptedPeer 0) (c.orchestrate "sales" "nightly").run
      (.response ⟨200, [], salesListing⟩ :: .response ⟨200, [], nightlyListing⟩ ::
        .response ⟨200, [], ""⟩ :: rest) = (.ok record, events, rest) ∧
      record.snapshotId = some "snap-1" := by
  have hwarehouse : findWarehouseId [salesWarehouse] "sales" = some "wh-1" := by decide
  have hsnapshot : findSnapshotId [nightlySnapshot] "wh-1" "nightly" = some "snap-1" := by decide
  simp only [c.run_orchestrate_eq, run, scriptedPeer, readListing_salesListing, hwarehouse,
    ControlPlaneClient.afterLookup, readListing_nightlyListing, hsnapshot, c.run_updateSnapshot_eq]
  exact ⟨_, _, rfl, rfl⟩

/-- The snapshot is refreshed at the end of a run that began with the profile and succeeded. -/
theorem nightly_refreshed_at_end :
    let start : RunLifecycle (List HttpReply) :=
      { command := some "run"
        service := [.response ⟨200, [], salesListing⟩, .response ⟨200, [], nightlyListing⟩,
          .response ⟨200, [], ""⟩, .response ⟨200, [], ""⟩] }
    let calls : List (RunCall Unit (List HttpReply)) := [.startOnce nightlyProfile ()]
    let file := some (encodeUtf8 "\x7b\"results\":[\x7b\"status\":\"pass\"\x7d]\x7d")
    (∃ a, start.RefreshDue scriptedServices calls a nightlyLink "snap-1") ∧
      RunResults.TellsSuccess file ∧ scriptedServices.connector.ReachesWorkspace ∧
      ((start.after scriptedServices calls).finish file).1 ≠ none := by
  intro start calls file
  obtain ⟨record, events, hrun, hid⟩ :=
    run_orchestrate_nightly nightlyLink.client [.response ⟨200, [], ""⟩]
  have htells : RunResults.TellsSuccess file :=
    (RunResults.statusOfFile_eq_success_iff file).mp (by decide +kernel)
  have hdue : start.RefreshDue scriptedServices calls
      ⟨nightlyProfile, "ws-1", .ok nightlyLink, start.service⟩ nightlyLink "snap-1" := by
    refine ⟨?_, ⟨rfl, "nightly", record, rfl, congrArg Prod.fst hrun, hid⟩, rfl⟩
    exact List.mem_singleton_self _
  -- the start of the run takes the first three replies, and one is left for its end
  have hafter : (start.after scriptedServices calls).service = [.response ⟨200, [], ""⟩] := by
    have hstart := RunLifecycle.startOnce_of_run (l := start) (k := scriptedServices.connector)
      (w := ()) (p := nightlyProfile) (by decide) rfl rfl rfl hrun
    simp only [calls, RunLifecycle.after, List.foldl_cons, List.foldl_nil, RunCall.perform, hstart]
  have hreply : (nightlyLink.refreshed "snap-1" [.response ⟨200, [], ""⟩]).1 =
      .response ⟨200, [], ""⟩ := by
    simp only [ControlPlaneLink.refreshed, nightlyLink, scriptedPeer]
  have hreaches : scriptedServices.connector.ReachesWorkspace :=
    ControlPlaneConnector.reachesWorkspace_signingIn scriptedServices.authority
      fun _ => .ok (scriptedPeer 0)
  obtain ⟨-, ⟨sent, -, -, -, hsent⟩, -⟩ :=
    RunLifecycle.refresh_at_end scriptedServices (some "run") start.service calls file
  refine ⟨⟨_, hdue⟩, htells, hreaches, (hsent _ _ _ hdue htells).2.1.mpr ?_⟩
  rw [hafter, hreply]
  exact ⟨⟨200, [], ""⟩, rfl, by decide, by decide, .inl (by decide)⟩

end WarehouseAccess
