import Mathlib.Data.List.Nodup
import WarehouseAccess.Proofs.ControlPlane.Requests

/-!
# One snapshot for each pair

`ControlPlaneClient.orchestrate` decides between making a snapshot and updating one from what the
service lists.  Against a service that lists what it has made, calls for a pair of a warehouse name
and a snapshot name therefore make one snapshot at most, however often and in whatever order they
come, and whatever becomes of the operations behind them.

### Outline

* `SnapshotService` says what is relied on: the warehouses stay as they are, an accepted request
  adds one snapshot as it was asked for, and a listing that succeeds shows all of them;
* `CallEffect` lists what one call can ask for and what it leaves behind, and `effect_orchestrate`
  shows that there is nothing else;
* `SnapshotEntry.Distinct` is what all calls keep: no two snapshots share an identifier, and no two
  share both warehouse and name;
* `one_snapshot_for_each_pair` puts the calls of a run together.
-/

namespace WarehouseAccess

open Exchange

variable {σ : Type}

/-- The service accepts what it was asked for. -/
def HttpReply.isAccepted : HttpReply → Bool
  | .response r => r.status == 201 || r.status == 202
  | .failure _ => false

/-- A request for something new that was accepted. -/
def isAcceptedPost (exchange : HttpRequest × HttpReply) : Bool :=
  exchange.1.method == .post && exchange.2.isAccepted

/-- A snapshot as the service keeps it. -/
structure SnapshotEntry where
  id : String
  warehouseId : String
  name : String
deriving DecidableEq, Repr

namespace SnapshotEntry

/-- The item is how the snapshot is listed.  It may say more than is asked for here. -/
def IsListedAs (e : SnapshotEntry) (item : Json) : Prop :=
  item.textAt "id" = some e.id ∧ item.textAt "type" = some "WarehouseSnapshot" ∧
    item.textAt "displayName" = some e.name ∧
    item.textUnder "properties" "parentWarehouseId" = some e.warehouseId

/-- No two snapshots share an identifier, and no two share both warehouse and name. -/
structure Distinct (entries : List SnapshotEntry) : Prop where
  ids : (entries.map (·.id)).Nodup
  keys : (entries.map fun e => (e.warehouseId, e.name)).Nodup

end SnapshotEntry

/-- A service that keeps snapshots, as the client of an address meets it.  Nothing is said of when
it answers with success, of what becomes of the operations behind its answers, or of the order of a
listing.  A request may make a snapshot without its answer getting through. -/
structure SnapshotService {σ : Type} (c : ControlPlaneClient) (peer : Peer σ) where
  /-- The warehouses, which stay as they are. -/
  warehouses : List Json
  /-- The snapshots made so far. -/
  snapshots : σ → List SnapshotEntry
  /-- No two warehouses share an identifier. -/
  nodup_ids : (warehouses.map (Json.textAt "id")).Nodup
  /-- A listing of the warehouses that succeeds shows them. -/
  warehouses_listed : ∀ s items,
    readListing (peer.answer (.get (c.url "warehouses")) s).1 = .ok items → items = warehouses
  /-- A listing of the snapshots that succeeds shows them all, in some order. -/
  snapshots_listed : ∀ s items,
    readListing (peer.answer (.get (c.url "warehousesnapshots")) s).1 = .ok items →
      ∃ entries, entries.Perm (snapshots s) ∧ List.Forall₂ SnapshotEntry.IsListedAs entries items
  /-- A request for a new snapshot is refused and changes nothing, or adds what it names under an
  identifier that is not in use. -/
  snapshot_added : ∀ s body warehouseId name, body.textAt "displayName" = some name →
    body.textUnder "creationPayload" "parentWarehouseId" = some warehouseId →
      let (reply, s') := peer.answer (.post (c.url "warehousesnapshots") body) s
      (reply.isAccepted = false ∧ snapshots s' = snapshots s) ∨
        ∃ id, (∀ e ∈ snapshots s, e.id ≠ id) ∧ snapshots s' = ⟨id, warehouseId, name⟩ :: snapshots s
  /-- Other requests make no snapshot and take none away. -/
  snapshots_kept : ∀ r s, r.method ≠ .post → snapshots (peer.answer r s).2 = snapshots s
  /-- Neither does the clock. -/
  snapshots_kept_now : ∀ s, snapshots (peer.now s).2 = snapshots s

/-! ### Looking things up -/

/-- A listed item is the snapshot of a warehouse and name just when the snapshot is. -/
lemma SnapshotEntry.IsListedAs.isSnapshot_iff {e : SnapshotEntry} {item : Json}
    (h : e.IsListedAs item) (warehouseId name : String) :
    isSnapshot warehouseId name item = true ↔ e.warehouseId = warehouseId ∧ e.name = name := by
  obtain ⟨-, htype, hname, hwarehouse⟩ := h
  simp [isSnapshot, htype, hname, hwarehouse]

/-- Looking a snapshot up in a listing finds the first listed snapshot of the warehouse and name. -/
lemma findSnapshotId_eq {entries : List SnapshotEntry} {items : List Json}
    (h : List.Forall₂ SnapshotEntry.IsListedAs entries items) (warehouseId name : String) :
    findSnapshotId items warehouseId name =
      (entries.find? fun e => e.warehouseId = warehouseId ∧ e.name = name).map (·.id) := by
  induction h with
  | nil => rfl
  | @cons e item entries items hitem _ ih =>
    by_cases hfound : e.warehouseId = warehouseId ∧ e.name = name
    · have hitem' := (hitem.isSnapshot_iff warehouseId name).mpr hfound
      simp [findSnapshotId, hitem', hfound, hitem.1]
    · have hitem' : isSnapshot warehouseId name item = false :=
        Bool.eq_false_iff.mpr fun h => hfound ((hitem.isSnapshot_iff warehouseId name).mp h)
      rw [List.find?_cons_of_neg (by simpa using hfound), ← ih]
      simp [findSnapshotId, hitem']

/-- What is found under a name is the identifier of a listed warehouse of that name. -/
lemma exists_of_findWarehouseId {warehouses : List Json} {name id : String}
    (h : findWarehouseId warehouses name = some id) :
    ∃ item ∈ warehouses, item.textAt "displayName" = some name ∧ item.textAt "id" = some id := by
  obtain ⟨item, hfind, hid⟩ := Option.bind_eq_some_iff.mp h
  have hwarehouse : isWarehouse name item = true := List.find?_some hfind
  refine ⟨item, List.mem_of_find?_eq_some hfind, ?_, hid⟩
  simp only [isWarehouse, Bool.and_eq_true, beq_iff_eq] at hwarehouse
  exact hwarehouse.1

namespace SnapshotService

variable {c : ControlPlaneClient} {peer : Peer σ} (S : SnapshotService c peer)

/-- Different names never lead to the same warehouse. -/
lemma name_eq_of_findWarehouseId {name name' id : String}
    (h : findWarehouseId S.warehouses name = some id)
    (h' : findWarehouseId S.warehouses name' = some id) : name = name' := by
  obtain ⟨item, hmem, hname, hid⟩ := exists_of_findWarehouseId h
  obtain ⟨item', hmem', hname', hid'⟩ := exists_of_findWarehouseId h'
  have hsame : item = item' :=
    List.inj_on_of_nodup_map S.nodup_ids hmem hmem' (hid.trans hid'.symm)
  subst hsame
  exact Option.some.inj (hname.symm.trans hname')

/-! ### One call -/

/-- What one call asks to change, with what came back, and the snapshots it leaves where there were
those before. -/
inductive CallEffect (warehouseName name : String) (before : List SnapshotEntry) :
    List (HttpRequest × HttpReply) → List SnapshotEntry → Prop
  /-- The call asks for no change. -/
  | nothing : CallEffect warehouseName name before [] before
  /-- The call asks to bring the snapshot of its pair up to date. -/
  | updated (e : SnapshotEntry) (he : e ∈ before)
      (hwarehouse : findWarehouseId S.warehouses warehouseName = some e.warehouseId)
      (hname : e.name = name) (body : Json) (reply : HttpReply) :
      CallEffect warehouseName name before [(.patch (c.snapshotUrl e.id) body, reply)] before
  /-- The call asks for a snapshot of its pair, which is not there, and is refused. -/
  | refused (warehouseId : String)
      (hwarehouse : findWarehouseId S.warehouses warehouseName = some warehouseId)
      (hnew : ∀ e ∈ before, ¬ (e.warehouseId = warehouseId ∧ e.name = name))
      (body : Json) (reply : HttpReply) (hreply : reply.isAccepted = false) :
      CallEffect warehouseName name before
        [(.post (c.url "warehousesnapshots") body, reply)] before
  /-- The call asks for a snapshot of its pair, which is not there, and it is made. -/
  | made (warehouseId id : String)
      (hwarehouse : findWarehouseId S.warehouses warehouseName = some warehouseId)
      (hnew : ∀ e ∈ before, ¬ (e.warehouseId = warehouseId ∧ e.name = name))
      (hfresh : ∀ e ∈ before, e.id ≠ id) (body : Json) (reply : HttpReply) :
      CallEffect warehouseName name before
        [(.post (c.url "warehousesnapshots") body, reply)] (⟨id, warehouseId, name⟩ :: before)

/-- Reading leaves the snapshots as they are. -/
lemma snapshots_get (r : HttpRequest) (s : σ) (h : r.method = .get) :
    S.snapshots (peer.answer r s).2 = S.snapshots s :=
  S.snapshots_kept r s (by rw [h]; decide)

/-- Bringing a snapshot up to date is one of the effects a call can have. -/
lemma effect_updateSnapshot {warehouseName name : String} {s : σ} {e : SnapshotEntry}
    (he : e ∈ S.snapshots s)
    (hwarehouse : findWarehouseId S.warehouses warehouseName = some e.warehouseId)
    (hname : e.name = name) :
    S.CallEffect warehouseName name (S.snapshots s)
      (changes (transcript peer (c.updateSnapshot e.id).run s))
      (S.snapshots (run peer (c.updateSnapshot e.id).run s).2.2) := by
  obtain ⟨hchanges, hafter⟩ := (c.changesBy_updateSnapshot e.id).spec
    (fun _ => HttpMethod.noConfusion) peer S.snapshots S.snapshots_get S.snapshots_kept_now s
  rw [hchanges, hafter, S.snapshots_kept _ _ HttpMethod.noConfusion,
    S.snapshots_kept_now]
  exact .updated e he hwarehouse hname _ _

/-- Making a snapshot that is not there is one of the effects a call can have. -/
lemma effect_createSnapshot {warehouseName name warehouseId : String} {s : σ}
    (hwarehouse : findWarehouseId S.warehouses warehouseName = some warehouseId)
    (hnew : ∀ e ∈ S.snapshots s, ¬ (e.warehouseId = warehouseId ∧ e.name = name)) :
    S.CallEffect warehouseName name (S.snapshots s)
      (changes (transcript peer (c.createSnapshot warehouseId name).run s))
      (S.snapshots (run peer (c.createSnapshot warehouseId name).run s).2.2) := by
  obtain ⟨hchanges, hafter⟩ := (c.changesBy_createSnapshot warehouseId name).spec
    (fun _ => HttpMethod.noConfusion) peer S.snapshots S.snapshots_get S.snapshots_kept_now s
  rw [hchanges, hafter]
  have hadded := S.snapshot_added (peer.now s).2 _ warehouseId name
    (ControlPlaneClient.textAt_creationBody warehouseId name (utcStamp (peer.now s).1))
    (ControlPlaneClient.textUnder_creationBody warehouseId name (utcStamp (peer.now s).1))
  rw [S.snapshots_kept_now] at hadded
  rcases hadded with ⟨hreply, hkept⟩ | ⟨id, hfresh, hadds⟩
  · rw [hkept]
    exact .refused warehouseId hwarehouse hnew _ _ hreply
  · rw [hadds]
    exact .made warehouseId id hwarehouse hnew hfresh _ _

/-- Once the warehouse is found, what is listed of its snapshots decides between the effects. -/
lemma effect_afterLookup {warehouseName name warehouseId : String}
    (hwarehouse : findWarehouseId S.warehouses warehouseName = some warehouseId) (s : σ) :
    S.CallEffect warehouseName name (S.snapshots s)
      (changes (transcript peer (c.afterLookup warehouseId name) s))
      (S.snapshots (run peer (c.afterLookup warehouseId name) s).2.2) := by
  unfold ControlPlaneClient.afterLookup
  rw [transcript, run_send]
  have hsnapshots := S.snapshots_listed s
  rw [← S.snapshots_get (.get (c.url "warehousesnapshots")) s rfl] at hsnapshots ⊢
  generalize peer.answer (.get (c.url "warehousesnapshots")) s = answer at hsnapshots ⊢
  obtain ⟨reply, s⟩ := answer
  rw [changes, List.filter_cons_of_neg (by simp [HttpRequest.get]), ← changes]
  dsimp only at hsnapshots ⊢
  cases hlisting : readListing reply with
  | error e => exact .nothing
  | ok items =>
    obtain ⟨entries, hperm, hlisted⟩ := hsnapshots items hlisting
    dsimp only
    rw [findSnapshotId_eq hlisted]
    cases hfind : entries.find? fun e => e.warehouseId = warehouseId ∧ e.name = name with
    -- the pair is new, also among the snapshots that the listing shows in another order
    | none =>
      have hnew : ∀ e ∈ S.snapshots s, ¬ (e.warehouseId = warehouseId ∧ e.name = name) :=
        fun e he => by simpa using List.find?_eq_none.mp hfind e (hperm.mem_iff.mpr he)
      exact S.effect_createSnapshot hwarehouse hnew
    | some e =>
      obtain ⟨rfl, hname⟩ : e.warehouseId = warehouseId ∧ e.name = name := by
        simpa using List.find?_some hfind
      have he : e ∈ S.snapshots s := hperm.mem_iff.mp (List.mem_of_find?_eq_some hfind)
      exact S.effect_updateSnapshot he hwarehouse hname

/-- A call has one of the effects listed, whatever the service answers. -/
theorem effect_orchestrate (warehouseName name : String) (s : σ) :
    S.CallEffect warehouseName name (S.snapshots s)
      (changes (transcript peer (c.orchestrate warehouseName name).run s))
      (S.snapshots (run peer (c.orchestrate warehouseName name).run s).2.2) := by
  rw [c.run_orchestrate_eq, transcript, run_send]
  have hkept := S.snapshots_get (.get (c.url "warehouses")) s rfl
  rw [← hkept]
  have hwarehouses := S.warehouses_listed s
  generalize peer.answer (.get (c.url "warehouses")) s = answer at hwarehouses ⊢
  obtain ⟨reply, s⟩ := answer
  rw [changes, List.filter_cons_of_neg (by simp [HttpRequest.get]), ← changes]
  dsimp only at hwarehouses ⊢
  cases hlisting : readListing reply with
  | error e => exact .nothing
  | ok warehouses =>
    obtain rfl := hwarehouses warehouses hlisting
    dsimp only
    cases hwarehouse : findWarehouseId S.warehouses warehouseName with
    | none => exact .nothing
    | some warehouseId => exact S.effect_afterLookup hwarehouse s

variable {warehouseName name : String} {before after : List SnapshotEntry}
  {asked : List (HttpRequest × HttpReply)}

/-- A call neither makes two snapshots of a warehouse and name nor uses an identifier twice. -/
lemma CallEffect.distinct (h : S.CallEffect warehouseName name before asked after)
    (hbefore : SnapshotEntry.Distinct before) : SnapshotEntry.Distinct after := by
  cases h with
  | nothing => exact hbefore
  | updated => exact hbefore
  | refused => exact hbefore
  | made warehouseId id _ hnew hfresh =>
    constructor
    · refine List.nodup_cons.mpr ⟨fun hmem => ?_, hbefore.ids⟩
      obtain ⟨e, he, hid⟩ := List.mem_map.mp hmem
      exact hfresh e he hid
    · refine List.nodup_cons.mpr ⟨fun hmem => ?_, hbefore.keys⟩
      obtain ⟨e, he, hkey⟩ := List.mem_map.mp hmem
      exact hnew e he (Prod.mk.inj hkey)

/-- A call takes no snapshot away. -/
lemma CallEffect.subset (h : S.CallEffect warehouseName name before asked after) :
    before ⊆ after := by
  cases h with
  | nothing => exact List.Subset.refl _
  | updated => exact List.Subset.refl _
  | refused => exact List.Subset.refl _
  | made => exact List.subset_cons_self _ _

/-- A call has one accepted request for something new at most, and with one it makes a snapshot of
its pair. -/
lemma CallEffect.acceptedPosts (h : S.CallEffect warehouseName name before asked after) :
    (asked.filter isAcceptedPost).length ≤ 1 ∧ (asked.filter isAcceptedPost ≠ [] →
      ∃ id warehouseId, findWarehouseId S.warehouses warehouseName = some warehouseId ∧
        after = ⟨id, warehouseId, name⟩ :: before) := by
  cases h with
  | nothing => simp
  | updated => simp [isAcceptedPost, HttpRequest.patch]
  | refused warehouseId hwarehouse hnew body reply hreply => simp [isAcceptedPost, hreply]
  | made warehouseId id hwarehouse hnew hfresh body reply =>
    exact ⟨List.length_filter_le _ _, fun _ => ⟨id, warehouseId, hwarehouse, rfl⟩⟩

/-- A call that finds the snapshot of its pair asks for nothing, or to bring just that one up to
date. -/
lemma CallEffect.eq_patch_of_mem (h : S.CallEffect warehouseName name before asked after)
    (hbefore : SnapshotEntry.Distinct before) {e : SnapshotEntry} (he : e ∈ before)
    (hname : e.name = name)
    (hwarehouse : findWarehouseId S.warehouses warehouseName = some e.warehouseId) :
    asked = [] ∨ ∃ body reply, asked = [(.patch (c.snapshotUrl e.id) body, reply)] := by
  -- The pair has one warehouse, so a snapshot that is not there yet cannot be of that pair.
  have hthere : ∀ warehouseId, findWarehouseId S.warehouses warehouseName = some warehouseId →
      e.warehouseId = warehouseId ∧ e.name = name :=
    fun warehouseId h' => ⟨Option.some.inj (hwarehouse.symm.trans h'), hname⟩
  cases h with
  | nothing => exact Or.inl rfl
  | updated e' he' hwarehouse' hname' body reply =>
    obtain ⟨hid, -⟩ := hthere e'.warehouseId hwarehouse'
    have hsame : e' = e := List.inj_on_of_nodup_map hbefore.keys he' he
      (Prod.ext hid.symm (hname'.trans hname.symm))
    subst hsame
    exact Or.inr ⟨body, reply, rfl⟩
  | refused warehouseId hwarehouse' hnew => exact absurd (hthere _ hwarehouse') (hnew e he)
  | made warehouseId id hwarehouse' hnew => exact absurd (hthere _ hwarehouse') (hnew e he)

/-- What a call asks to change at the address of a snapshot is a snapshot of its pair that was
there. -/
lemma CallEffect.mem_of_url_eq (h : S.CallEffect warehouseName name before asked after)
    {id : String} {exchange : HttpRequest × HttpReply} (hasked : exchange ∈ asked)
    (hurl : exchange.1.url = c.snapshotUrl id) :
    ∃ e ∈ before, e.id = id ∧ e.name = name ∧
      findWarehouseId S.warehouses warehouseName = some e.warehouseId := by
  cases h with
  | nothing => simp at hasked
  | updated e he hwarehouse hname body reply =>
    obtain rfl := List.mem_singleton.mp hasked
    exact ⟨e, he, ControlPlaneClient.snapshotUrl_injective hurl, hname, hwarehouse⟩
  | refused warehouseId hwarehouse hnew body reply =>
    obtain rfl := List.mem_singleton.mp hasked
    exact absurd hurl (c.snapshotUrl_ne id)
  | made warehouseId id' hwarehouse hnew hfresh body reply =>
    obtain rfl := List.mem_singleton.mp hasked
    exact absurd hurl (c.snapshotUrl_ne id)

end SnapshotService

/-! ### Runs of calls -/

/-- When every member yields one thing at most, and none after one that yields something, all
members together yield one thing at most. -/
lemma length_flatMap_le_one {α β : Type} {f : α → List β} {l : List α}
    (hone : ∀ a ∈ l, (f a).length ≤ 1) (hafter : l.Pairwise fun a b => f a ≠ [] → f b = []) :
    (l.flatMap f).length ≤ 1 := by
  induction hafter with
  | nil => exact Nat.zero_le 1
  | @cons a rest hrest _ ih =>
    rw [List.flatMap_cons, List.length_append]
    by_cases hnone : f a = []
    · have hle := ih fun b hb => hone b (List.mem_cons_of_mem a hb)
      rw [hnone, List.length_nil]
      omega
    · have hrest' : rest.flatMap f = [] :=
        List.flatMap_eq_nil_iff.mpr fun b hb => hrest b hb hnone
      have hle := hone a List.mem_cons_self
      rw [hrest', List.length_nil]
      omega

/-- A call as it went: the pair it was for, the requests it sent with what came back, and the
snapshots before and after it. -/
structure SnapshotCall where
  /-- The names of the warehouse and of the snapshot. -/
  pair : String × String
  exchanges : List (HttpRequest × HttpReply)
  before : List SnapshotEntry
  after : List SnapshotEntry

namespace SnapshotCall

/-- What the call asked to change. -/
def changes (call : SnapshotCall) : List (HttpRequest × HttpReply) :=
  Exchange.changes call.exchanges

/-- The requests for something new that were accepted. -/
def acceptedPosts (call : SnapshotCall) : List (HttpRequest × HttpReply) :=
  call.exchanges.filter isAcceptedPost

/-- Accepted requests for something new are among the changes asked for. -/
lemma acceptedPosts_eq (call : SnapshotCall) :
    call.acceptedPosts = call.changes.filter isAcceptedPost := by
  rw [acceptedPosts, changes, Exchange.changes, List.filter_filter]
  refine List.filter_congr fun e _ => ?_
  unfold isAcceptedPost
  cases e.1.method <;> simp

end SnapshotCall

namespace SnapshotService

variable {c : ControlPlaneClient} {peer : Peer σ} (S : SnapshotService c peer)

/-- A call for a pair. -/
def call (pair : String × String) (s : σ) : SnapshotCall where
  pair
  exchanges := transcript peer (c.orchestrate pair.1 pair.2).run s
  before := S.snapshots s
  after := S.snapshots (run peer (c.orchestrate pair.1 pair.2).run s).2.2

/-- Calls for several pairs, one after the other. -/
def calls : List (String × String) → σ → List SnapshotCall
  | [], _ => []
  | pair :: rest, s =>
    S.call pair s :: calls rest (run peer (c.orchestrate pair.1 pair.2).run s).2.2

/-- The call made the snapshot of an identifier for its pair. -/
def Makes (call : SnapshotCall) (id : String) : Prop :=
  ∃ warehouseId, findWarehouseId S.warehouses call.pair.1 = some warehouseId ∧
    call.after = ⟨id, warehouseId, call.pair.2⟩ :: call.before

/-- What holds of a call in a run that began with distinct snapshots. -/
structure Sound (call : SnapshotCall) : Prop where
  effect : S.CallEffect call.pair.1 call.pair.2 call.before call.changes call.after
  distinct : SnapshotEntry.Distinct call.before

/-- Every call of a run has one of the effects listed, finds distinct snapshots, and finds all those
of the beginning. -/
lemma sound_of_mem_calls (pairs : List (String × String)) (s : σ)
    (h : SnapshotEntry.Distinct (S.snapshots s)) :
    ∀ call ∈ S.calls pairs s, S.Sound call ∧ S.snapshots s ⊆ call.before := by
  induction pairs generalizing s with
  | nil => simp [calls]
  | cons pair rest ih =>
    have heffect := S.effect_orchestrate pair.1 pair.2 s
    intro call hcall
    rcases List.mem_cons.mp hcall with rfl | hcall
    · exact ⟨⟨heffect, h⟩, List.Subset.refl _⟩
    · obtain ⟨hsound, hsubset⟩ := ih _ (heffect.distinct S h) call hcall
      exact ⟨hsound, List.Subset.trans (heffect.subset S) hsubset⟩

/-- What a call of a run leaves, each later call finds. -/
lemma pairwise_calls (pairs : List (String × String)) (s : σ)
    (h : SnapshotEntry.Distinct (S.snapshots s)) :
    (S.calls pairs s).Pairwise fun earlier later => earlier.after ⊆ later.before := by
  induction pairs generalizing s with
  | nil => exact .nil
  | cons pair rest ih =>
    have hdistinct := (S.effect_orchestrate pair.1 pair.2 s).distinct S h
    refine .cons (fun later hlater => ?_) (ih _ hdistinct)
    exact (S.sound_of_mem_calls rest _ hdistinct later hlater).2

/-- The snapshot that a call makes is there afterwards, and its identifier was not in use before. -/
lemma Sound.of_makes {call : SnapshotCall} (h : S.Sound call) {id : String}
    (hmakes : S.Makes call id) :
    (∃ e ∈ call.after, e.id = id ∧ e.name = call.pair.2 ∧
      findWarehouseId S.warehouses call.pair.1 = some e.warehouseId) ∧
    ∀ e ∈ call.before, e.id ≠ id := by
  obtain ⟨warehouseId, hwarehouse, hafter⟩ := hmakes
  refine ⟨⟨⟨id, warehouseId, call.pair.2⟩, ?_, rfl, rfl, hwarehouse⟩, ?_⟩
  · rw [hafter]
    exact List.mem_cons_self
  · have hdistinct := (h.effect.distinct S h.distinct).ids
    rw [hafter, List.map_cons, List.nodup_cons] at hdistinct
    intro e he hid
    exact hdistinct.1 (List.mem_map.mpr ⟨e, he, hid⟩)

/-- A call whose request for something new is accepted makes a snapshot, and sends one such request
only. -/
lemma Sound.of_acceptedPosts {call : SnapshotCall} (h : S.Sound call) :
    call.acceptedPosts.length ≤ 1 ∧ (call.acceptedPosts ≠ [] → ∃ id, S.Makes call id) := by
  rw [SnapshotCall.acceptedPosts_eq]
  exact h.effect.acceptedPosts

/-- An earlier call for the same pair that made a snapshot leaves a later one nothing to ask for but
to bring that snapshot up to date. -/
lemma Sound.changes_of_makes {earlier later : SnapshotCall} (hearlier : S.Sound earlier)
    (hlater : S.Sound later) (hfound : earlier.after ⊆ later.before)
    (hpair : earlier.pair = later.pair) (id : String) (hmakes : S.Makes earlier id) :
    later.changes = [] ∨
      ∃ body reply, later.changes = [(.patch (c.snapshotUrl id) body, reply)] := by
  obtain ⟨⟨e, he, rfl, hname, hwarehouse⟩, -⟩ := hearlier.of_makes S hmakes
  rw [hpair] at hname hwarehouse
  exact hlater.effect.eq_patch_of_mem S hlater.distinct (hfound he) hname hwarehouse

/-- Of two calls for one pair, one after the other, only the first can have a request for something
new accepted. -/
lemma Sound.acceptedPosts_eq_nil {earlier later : SnapshotCall} (hearlier : S.Sound earlier)
    (hlater : S.Sound later) (hfound : earlier.after ⊆ later.before)
    (hpair : earlier.pair = later.pair) (haccepted : earlier.acceptedPosts ≠ []) :
    later.acceptedPosts = [] := by
  obtain ⟨id, hmakes⟩ := (hearlier.of_acceptedPosts S).2 haccepted
  rw [SnapshotCall.acceptedPosts_eq]
  rcases hearlier.changes_of_makes S hlater hfound hpair id hmakes with
    hnone | ⟨body, reply, hpatch⟩
  · rw [hnone, List.filter_nil]
  · rw [hpatch]
    simp [isAcceptedPost, HttpRequest.patch]

/-- Calls for one pair have one accepted request for something new at most, all of them together. -/
lemma length_acceptedPosts_le_one {calls : List SnapshotCall}
    (hsound : ∀ call ∈ calls, S.Sound call)
    (hfound : calls.Pairwise fun earlier later => earlier.after ⊆ later.before)
    (pair : String × String) :
    ((calls.filter (·.pair = pair)).flatMap SnapshotCall.acceptedPosts).length ≤ 1 := by
  have hpair : ∀ call ∈ calls.filter (·.pair = pair), call.pair = pair := fun call hcall => by
    simpa using List.of_mem_filter hcall
  have hsound' : ∀ call ∈ calls.filter (·.pair = pair), S.Sound call := fun call hcall =>
    hsound call (List.mem_of_mem_filter hcall)
  refine length_flatMap_le_one (fun call hcall => ((hsound' call hcall).of_acceptedPosts S).1) ?_
  refine (hfound.filter _).imp_of_mem fun {earlier later} hearlier hlater h => ?_
  exact (hsound' earlier hearlier).acceptedPosts_eq_nil S (hsound' later hlater) h
    ((hpair earlier hearlier).trans (hpair later hlater).symm)

/-- Of two calls for different pairs, one after the other, neither asks to change a snapshot that
the other made. -/
lemma Sound.url_ne_of_makes {earlier later : SnapshotCall} (hearlier : S.Sound earlier)
    (hlater : S.Sound later) (hfound : earlier.after ⊆ later.before)
    (hpair : earlier.pair ≠ later.pair) :
    (∀ id, S.Makes earlier id → ∀ asked ∈ later.changes, asked.1.url ≠ c.snapshotUrl id) ∧
      ∀ id, S.Makes later id → ∀ asked ∈ earlier.changes, asked.1.url ≠ c.snapshotUrl id := by
  constructor
  · intro id hmakes asked hasked hurl
    obtain ⟨⟨e, he, hid, hname, hwarehouse⟩, -⟩ := hearlier.of_makes S hmakes
    obtain ⟨e', he', hid', hname', hwarehouse'⟩ := hlater.effect.mem_of_url_eq S hasked hurl
    have hsame : e = e' := List.inj_on_of_nodup_map hlater.distinct.ids (hfound he) he'
      (hid.trans hid'.symm)
    subst hsame
    exact hpair (Prod.ext (S.name_eq_of_findWarehouseId hwarehouse hwarehouse')
      (hname.symm.trans hname'))
  · intro id hmakes asked hasked hurl
    obtain ⟨-, hfresh⟩ := hlater.of_makes S hmakes
    obtain ⟨e, he, hid, -⟩ := hearlier.effect.mem_of_url_eq S hasked hurl
    exact hfresh e (hfound (hearlier.effect.subset S he)) hid

/-- Calls for any pairs, in any order and any number, against a service that begins without
snapshots.

For each pair at most one request for a new snapshot is accepted, in all calls together.  A call
with an accepted request made a snapshot.  Once a call has made the snapshot of a pair, a later call
for the pair that asks for a change asks for just one, which is to bring that snapshot up to date.
No call for one pair asks for a change at the address of a snapshot that was made for another. -/
theorem one_snapshot_for_each_pair (pairs : List (String × String)) (s : σ)
    (hs : S.snapshots s = []) :
    (∀ pair, (((S.calls pairs s).filter (·.pair = pair)).flatMap
      SnapshotCall.acceptedPosts).length ≤ 1) ∧
    (∀ call ∈ S.calls pairs s, call.acceptedPosts ≠ [] → ∃ id, S.Makes call id) ∧
    ((S.calls pairs s).Pairwise fun earlier later =>
      earlier.pair = later.pair → ∀ id, S.Makes earlier id →
        later.changes = [] ∨
          ∃ body reply, later.changes = [(.patch (c.snapshotUrl id) body, reply)]) ∧
    ∀ call ∈ S.calls pairs s, ∀ other ∈ S.calls pairs s, call.pair ≠ other.pair →
      ∀ id, S.Makes other id → ∀ asked ∈ call.changes, asked.1.url ≠ c.snapshotUrl id := by
  have hdistinct : SnapshotEntry.Distinct (S.snapshots s) := by
    rw [hs]
    exact ⟨List.nodup_nil, List.nodup_nil⟩
  have hsound : ∀ call ∈ S.calls pairs s, S.Sound call := fun call hcall =>
    (S.sound_of_mem_calls pairs s hdistinct call hcall).1
  have hfound := S.pairwise_calls pairs s hdistinct
  have hsame := hfound.imp_of_mem fun {earlier later} hearlier hlater h hpair =>
    (hsound earlier hearlier).changes_of_makes S (hsound later hlater) h hpair
  have hother := hfound.imp_of_mem fun {earlier later} hearlier hlater h hpair =>
    (hsound earlier hearlier).url_ne_of_makes S (hsound later hlater) h hpair
  refine ⟨S.length_acceptedPosts_le_one hsound hfound,
    fun call hcall => ((hsound call hcall).of_acceptedPosts S).2, hsame, ?_⟩
  refine List.Pairwise.forall_of_forall_of_flip (fun call _ hpair => absurd rfl hpair) ?_ ?_
  · exact hother.imp fun h hpair => (h hpair).2
  · exact hother.imp fun h hpair => (h hpair.symm).1

/-! ### A service with one warehouse -/

/-- A listing is read from a response with status 200 and a text that is not blank. -/
lemma readListing_of_parse {text : String} {body : Json} (hblank : isBlankText text = false)
    (hparse : Json.parse text = some body) :
    readListing (.response ⟨200, [], text⟩) = .ok (ControlPlaneClient.listed body) := by
  simp [readListing, Inquiry.checkStatus, HttpResponse.isSuccess, Inquiry.body,
    HttpResponse.json?, hblank, hparse, Except.bind, Except.map]

/-- A client of the service. -/
def salesClient : ControlPlaneClient := { workspaceId := "ws-1" }

/-- The one warehouse. -/
def salesWarehouse : Json :=
  .object [("displayName", .text "sales"), ("id", .text "wh-1"), ("type", .text "Warehouse")]

/-- The one snapshot, as it is listed. -/
def nightlySnapshot : Json :=
  .object [("displayName", .text "nightly"), ("id", .text "snap-1"),
    ("properties", .object [("parentWarehouseId", .text "wh-1")]),
    ("type", .text "WarehouseSnapshot")]

/-- The text of the listing of the warehouse. -/
def salesListing : String :=
  "\x7b\"value\":[\x7b\"id\":\"wh-1\",\"type\":\"Warehouse\",\"displayName\":\"sales\"\x7d]\x7d"

/-- The text of the listing of the snapshot. -/
def nightlyListing : String :=
  "\x7b\"value\":[\x7b\"id\":\"snap-1\",\"type\":\"WarehouseSnapshot\"," ++
    "\"displayName\":\"nightly\",\"properties\":\x7b\"parentWarehouseId\":\"wh-1\"\x7d\x7d]\x7d"

/-- The text of a listing without items. -/
def emptyListing : String := "\x7b\"value\":[]\x7d"

/-- The request asks for the snapshot `nightly` of the warehouse. -/
def asksForNightly (r : HttpRequest) : Bool :=
  r.body.bind (Json.textAt "displayName") == some "nightly" &&
    r.body.bind (Json.textUnder "creationPayload" "parentWarehouseId") == some "wh-1"

/-- The service.  It makes the snapshot `nightly` once, and says so without an address to ask at; it
refuses everything else, and requests to bring the snapshot up to date do not get through.  Its
state is whether the snapshot is there. -/
def salesPeer : Peer Bool where
  answer r made :=
    match r.method with
    | .get =>
      if r.url = salesClient.url "warehouses" then (.response ⟨200, [], salesListing⟩, made)
      else (.response ⟨200, [], if made then nightlyListing else emptyListing⟩, made)
    | .post =>
      if !made && asksForNightly r then (.response ⟨202, [], ""⟩, true)
      else (.response ⟨409, [], ""⟩, made)
    | .patch => (.failure "connection reset", made)
  now made := (0, made)

/-- The warehouse is read from its listing. -/
lemma readListing_salesListing :
    readListing (.response ⟨200, [], salesListing⟩) = .ok [salesWarehouse] := by
  have hparse : Json.parse salesListing = some (.object [("value", .array [salesWarehouse])]) := by
    decide +kernel
  rw [readListing_of_parse (by decide +kernel) hparse]
  rfl

/-- The snapshot is read from its listing. -/
lemma readListing_nightlyListing :
    readListing (.response ⟨200, [], nightlyListing⟩) = .ok [nightlySnapshot] := by
  have hparse : Json.parse nightlyListing =
      some (.object [("value", .array [nightlySnapshot])]) := by
    decide +kernel
  rw [readListing_of_parse (by decide +kernel) hparse]
  rfl

/-- Nothing is read from the empty listing. -/
lemma readListing_emptyListing :
    readListing (.response ⟨200, [], emptyListing⟩) = .ok [] := by
  have hparse : Json.parse emptyListing = some (.object [("value", .array [])]) := by
    decide +kernel
  rw [readListing_of_parse (by decide +kernel) hparse]
  rfl

/-- The service keeps to what is relied on. -/
def salesService : SnapshotService salesClient salesPeer where
  warehouses := [salesWarehouse]
  snapshots made := if made then [⟨"snap-1", "wh-1", "nightly"⟩] else []
  nodup_ids := List.nodup_singleton _
  warehouses_listed made items h := by
    have hanswer : (salesPeer.answer (.get (salesClient.url "warehouses")) made).1 =
        .response ⟨200, [], salesListing⟩ := by
      simp [salesPeer, HttpRequest.get]
    rw [hanswer, readListing_salesListing] at h
    exact (Except.ok.inj h).symm
  snapshots_listed made items h := by
    have hurl : salesClient.url "warehousesnapshots" ≠ salesClient.url "warehouses" := by
      simp [ControlPlaneClient.url]
    have hanswer : (salesPeer.answer (.get (salesClient.url "warehousesnapshots")) made).1 =
        .response ⟨200, [], if made then nightlyListing else emptyListing⟩ := by
      simp [salesPeer, HttpRequest.get, hurl]
    rw [hanswer] at h
    cases made with
    | false =>
      rw [if_neg Bool.false_ne_true, readListing_emptyListing] at h
      obtain rfl := Except.ok.inj h
      exact ⟨[], .refl _, .nil⟩
    | true =>
      rw [if_pos rfl, readListing_nightlyListing] at h
      obtain rfl := Except.ok.inj h
      exact ⟨[⟨"snap-1", "wh-1", "nightly"⟩], .refl _, .cons ⟨rfl, rfl, rfl, rfl⟩ .nil⟩
  snapshot_added made body warehouseId name hname hwarehouse := by
    by_cases hmakes : made = false ∧ name = "nightly" ∧ warehouseId = "wh-1"
    · obtain ⟨rfl, rfl, rfl⟩ := hmakes
      have hanswer : salesPeer.answer (.post (salesClient.url "warehousesnapshots") body) false =
          (.response ⟨202, [], ""⟩, true) := by
        simp [salesPeer, HttpRequest.post, asksForNightly, hname, hwarehouse]
      rw [hanswer]
      exact Or.inr ⟨"snap-1", by simp, rfl⟩
    · have hanswer : salesPeer.answer (.post (salesClient.url "warehousesnapshots") body) made =
          (.response ⟨409, [], ""⟩, made) := by
        simpa [salesPeer, HttpRequest.post, asksForNightly, hname, hwarehouse] using hmakes
      rw [hanswer]
      exact Or.inl ⟨rfl, rfl⟩
  snapshots_kept r made h := by
    cases hmethod : r.method with
    | get =>
      simp only [salesPeer, hmethod]
      split_ifs <;> rfl
    | post => exact absurd hmethod h
    | patch => simp [salesPeer, hmethod]
  snapshots_kept_now made := rfl

/-- Two calls for one pair against the service with one warehouse: one request for the snapshot is
accepted, and after it the snapshot is brought up to date. -/
theorem one_snapshot_of_two_calls :
    salesService.snapshots false = [] ∧
      let calls := salesService.calls [("sales", "nightly"), ("sales", "nightly")] false
      (∀ pair, ((calls.filter (·.pair = pair)).flatMap SnapshotCall.acceptedPosts).length ≤ 1) ∧
        calls.Pairwise fun earlier later =>
          earlier.pair = later.pair → ∀ id, salesService.Makes earlier id →
            later.changes = [] ∨
              ∃ body reply, later.changes = [(.patch (salesClient.snapshotUrl id) body, reply)] :=
  have h := salesService.one_snapshot_for_each_pair [("sales", "nightly"), ("sales", "nightly")]
    false rfl
  ⟨rfl, h.1, h.2.2.1⟩

end SnapshotService

end WarehouseAccess
