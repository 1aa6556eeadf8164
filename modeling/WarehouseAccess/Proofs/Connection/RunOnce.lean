import WarehouseAccess.Proofs.Connection.Asks
import WarehouseAccess.Proofs.ControlPlane.Requests

/-!
# The life of a run happens once

The life of a run is shared: managers let it begin when they open connections, a host may let it
begin itself, take the hook, and end the run, in any order and as often as it likes.  A `RunCall` is
any of these, and every call finds the life of the run as the call before it left it.

### Outline

* `ReachAsk.sent` and `ReachAsk.hook` are what one answer of the connector leads to: the exchange
  that makes the snapshot current, and the hook that is kept;
* `RunLifecycle.Does` says what one call does, and `does_perform` that every call does it;
* `run_happens_once` puts the calls of a run together.  Everything hangs on the one ask of the
  connector that the first start leads to, or on none.
-/

namespace WarehouseAccess

open Exchange

variable {σ τ : Type}

/-! ### What an answer leads to -/

namespace ReachAsk

/-- What goes to the control plane after an answer: the exchange that makes the snapshot current, if
the control plane was reached and the profile names a snapshot. -/
def sent (a : ReachAsk τ) : List Event :=
  match a.outcome, a.profile.warehouseSnapshotName with
  | .ok link, some name =>
    (run link.peer (link.client.orchestrate a.profile.database name).run a.service).2.1
  | _, _ => []

/-- The hook that is kept after an answer: none unless the control plane was reached, and without a
record where the profile names no snapshot.  Where it names one, the snapshot has to be made
current, and the hook keeps the record of it. -/
def hook (a : ReachAsk τ) : Option (PostRunHook τ) :=
  match a.outcome, a.profile.warehouseSnapshotName with
  | .error _, _ => none
  | .ok link, none => some ⟨link, none⟩
  | .ok link, some name =>
    match (run link.peer (link.client.orchestrate a.profile.database name).run a.service).1 with
    | .ok record => some ⟨link, some record⟩
    | .error _ => none

/-- One answer leads to one hook at most. -/
lemma length_hooks_le {asked : List (ReachAsk τ)} (h : asked.length ≤ 1) :
    (asked.flatMap fun a => a.hook.toList).length ≤ 1 := by
  rcases asked with _ | ⟨a, _ | ⟨b, rest⟩⟩
  · exact Nat.zero_le 1
  · rw [List.flatMap_singleton]
    exact Option.length_toList_le
  · simp at h

end ReachAsk

/-! ### Calls -/

/-- A call that concerns the life of a run. -/
inductive RunCall (σ τ : Type) where
  /-- A manager opens a connection.  Managers that share the life of a run need not share anything
  else, so the session is one of its own. -/
  | openBy (m : ConnectionManager) (c : Connection) (s : Session σ τ)
  | startOnce (p : Profile) (w : σ)
  | takeHook
  | finish (results : Option (List UInt8))

namespace RunCall

variable (services : Services σ τ) (l : RunLifecycle τ)

/-- The life of the run after a call. -/
def perform : RunCall σ τ → RunLifecycle τ
  | openBy m c s =>
    (m.openConnection services c { s with lifecycle := some l }).2.2.lifecycle.getD l
  | startOnce p w => (l.startOnce services.connector p w).1
  | takeHook => l.takeHook.2
  | finish results => (l.finish results).2

/-- The profile with which the call lets the life of the run begin, whether it begins or not: that
of the manager where a connection was newly opened. -/
def starter : RunCall σ τ → Option Profile
  | openBy m c s =>
    match c.isOpen, (m.openConnection services c { s with lifecycle := some l }).1 with
    | false, .ok _ => some m.profile
    | _, _ => none
  | startOnce p _ => some p
  | _ => none

/-- What the connector is asked during the call. -/
def asked : RunCall σ τ → List (ReachAsk τ)
  | openBy m c s =>
    (m.openConnection services.recorded c
      ({ s with lifecycle := some l }.beside [])).2.2.world.2
  | startOnce p w => (l.startOnce services.connector.recorded p (w, [])).2.2
  | _ => []

/-- The hook that the call hands out, to its caller or to the end of the run. -/
def handed : RunCall σ τ → Option (PostRunHook τ)
  | takeHook => l.takeHook.1
  | finish _ => l.takeHook.1
  | _ => none

/-- The call ends the run. -/
def ends : RunCall σ τ → Bool
  | finish _ => true
  | _ => false

/-- What goes to the control plane during the call. -/
def sent (call : RunCall σ τ) : List Event :=
  (call.perform services l).events.drop l.events.length

/-- Ending the run does not ask the connector. -/
lemma asked_of_ends (call : RunCall σ τ) (h : call.ends = true) : call.asked services l = [] := by
  cases call with
  | finish results => rfl
  | _ => simp [ends] at h

end RunCall

/-! ### What one call does -/

namespace RunLifecycle

/-- What one call does to the life of a run. -/
structure Does (services : Services σ τ) (l : RunLifecycle τ) (call : RunCall σ τ) : Prop where
  /-- The command stays. -/
  command : (call.perform services l).command = l.command
  /-- The run has begun when it had, or when the command asks for it and the call lets it begin. -/
  started : (call.perform services l).started =
    (l.started || l.shouldRun && (call.starter services l).isSome)
  /-- The connector is asked for the workspace of the profile with which the run begins. -/
  asked : (call.asked services l).map (fun a => (a.profile, a.workspaceId)) =
    if l.shouldRun && !l.started then
      ((call.starter services l).bind fun p => p.workspaceId.map (p, ·)).toList
    else []
  /-- A hook comes from an answer, and is there until it is handed out. -/
  hook : (call.handed l).toList ++ (call.perform services l).hook.toList =
    l.hook.toList ++ (call.asked services l).flatMap fun a => a.hook.toList
  /-- Unless the call ends the run, it sends what the answers lead to. -/
  sent : call.ends = false → call.sent services l = (call.asked services l).flatMap ReachAsk.sent
  /-- A call that ends the run sends one request at most, and that only for a hook. -/
  sent_of_ends : call.ends = true →
    (requests (call.sent services l)).length ≤ (call.handed l).toList.length

/-- There is no hook before the run has begun. -/
def Fresh (l : RunLifecycle τ) : Prop := l.started = false → l.hook = none

/-- Beginning over a link sends and keeps what the answer leads to. -/
lemma begin_eq (l : RunLifecycle τ) (a : ReachAsk τ) {link : ControlPlaneLink τ}
    (h : a.outcome = .ok link) :
    let l' := begin { l with service := a.service } link a.profile
    l'.command = l.command ∧ l'.started = l.started ∧ l'.hook = a.hook.or l.hook ∧
      l'.events = l.events ++ a.sent := by
  unfold begin ReachAsk.hook ReachAsk.sent
  rw [h]
  cases a.profile.warehouseSnapshotName with
  | none => simp
  | some name =>
    dsimp only [perform]
    rcases run link.peer (link.client.orchestrate a.profile.database name).run a.service with
      ⟨outcome, events, service⟩
    cases outcome <;> exact ⟨rfl, rfl, rfl, rfl⟩

/-- What letting the run begin does. -/
lemma startOnce_eq {l : RunLifecycle τ} (hfresh : l.Fresh) (k : ControlPlaneConnector σ τ)
    (p : Profile) (w : σ) :
    let l' := (l.startOnce k p w).1
    let asked := l.asks k p w
    l'.command = l.command ∧ l'.started = (l.started || l.shouldRun) ∧
      asked.map (fun a => (a.profile, a.workspaceId)) =
        (if l.shouldRun && !l.started then (p.workspaceId.map (p, ·)).toList else []) ∧
      l'.hook.toList = (l.hook.toList ++ asked.flatMap fun a => a.hook.toList) ∧
      l'.events = l.events ++ asked.flatMap ReachAsk.sent := by
  unfold startOnce asks
  cases hrun : l.shouldRun && !l.started with
  -- the run has begun already, or the command does not ask for it
  | false =>
    have hstarted : l.started = (l.started || l.shouldRun) := by
      revert hrun
      cases l.started <;> cases l.shouldRun <;> decide
    simp [← hstarted]
  | true =>
    obtain ⟨hshould, hstarted⟩ : l.shouldRun = true ∧ l.started = false := by simpa using hrun
    have hnone := hfresh hstarted
    unfold reach
    cases p.workspaceId with
    | none => simp [hshould, hnone]
    | some workspaceId =>
      have hask : k.ask p workspaceId w l.service = ⟨p, workspaceId,
        (k.connect p workspaceId w l.service).1, (k.connect p workspaceId w l.service).2.2⟩ := rfl
      simp only [Option.toList_some, List.map_cons, List.map_nil, Option.map_some, if_true]
      rw [hask]
      rcases hconnect : k.connect p workspaceId w l.service with ⟨outcome, w', service⟩
      cases outcome with
      | error e => simp [hshould, hnone, ReachAsk.hook, ReachAsk.sent]
      | ok link =>
        -- the hook is kept and the exchange sent only now that the control plane was reached
        obtain ⟨hcommand, hstarted', hhook, hevents⟩ :=
          begin_eq { l with started := true } ⟨p, workspaceId, .ok link, service⟩ rfl
        refine ⟨hcommand, hstarted'.trans (by simp [hshould]), rfl, ?_, ?_⟩
        · change (begin _ link p).hook.toList = _
          rw [hhook]
          simp [hnone]
        · change (begin _ link p).events = _
          rw [hevents]
          simp

/-- What ending the run does: the hook is gone, and what is sent is one request at most, and that
only if there was a hook. -/
lemma finish_eq (l : RunLifecycle τ) (results : Option (List UInt8)) :
    let l' := (l.finish results).2
    l'.command = l.command ∧ l'.started = l.started ∧ l'.hook = none ∧
      ∃ events, l'.events = l.events ++ events ∧
        (requests events).length ≤ l.hook.toList.length := by
  unfold finish takeHook
  cases hhook : l.hook with
  | none => exact ⟨rfl, rfl, rfl, [], by simp, Nat.le_refl 0⟩
  | some hook =>
    dsimp only
    unfold runHook
    split
    · exact ⟨rfl, rfl, rfl, [], by simp, Nat.zero_le 1⟩
    · next record _ =>
      split_ifs
      · have hone := hook.link.client.length_requests_run_refresh_le record hook.link.peer l.service
        dsimp only [perform]
        rcases hrun : run hook.link.peer (hook.link.client.refresh record).run l.service with
          ⟨outcome, events, service⟩
        rw [hrun] at hone
        cases outcome with
        | ok updated => exact ⟨rfl, rfl, rfl, events, rfl, hone⟩
        | error e => exact ⟨rfl, rfl, rfl, events, rfl, hone⟩
      · exact ⟨rfl, rfl, rfl, [], by simp, Nat.zero_le 1⟩

section Does

variable {services : Services σ τ} {l : RunLifecycle τ} {call : RunCall σ τ}

/-- A call that leaves the life of the run alone. -/
lemma does_of_eq (hperform : call.perform services l = l)
    (hstarter : call.starter services l = none)
    (hasked : call.asked services l = []) (hhanded : call.handed l = none)
    (hends : call.ends = false) : l.Does services call where
  command := by rw [hperform]
  started := by simp [hperform, hstarter]
  asked := by simp [hasked, hstarter]
  hook := by simp [hperform, hasked, hhanded]
  sent _ := by simp [RunCall.sent, hperform, hasked]
  sent_of_ends h := by simp [hends] at h

/-- A call that lets the run begin. -/
lemma does_of_startOnce (hfresh : l.Fresh) {p : Profile} {w : σ}
    (hperform : call.perform services l = (l.startOnce services.connector p w).1)
    (hstarter : call.starter services l = some p)
    (hasked : call.asked services l = l.asks services.connector p w)
    (hhanded : call.handed l = none) (hends : call.ends = false) : l.Does services call := by
  obtain ⟨hcommand, hstarted, hprofile, hhook, hevents⟩ :=
    startOnce_eq hfresh services.connector p w
  constructor
  case command => rw [hperform, hcommand]
  case started => simp [hperform, hstarted, hstarter]
  case asked => rw [hasked, hprofile, hstarter, Option.bind_some]
  case hook => rw [hperform, hasked, hhanded, hhook, Option.toList_none, List.nil_append]
  case sent =>
    intro _
    rw [RunCall.sent, hperform, hasked, hevents, List.drop_left]
  case sent_of_ends =>
    intro h
    simp [hends] at h

/-- Opening a connection lets the run begin where it was newly opened, and else leaves it alone. -/
lemma does_openBy (hfresh : l.Fresh) (m : ConnectionManager) (c : Connection) (s : Session σ τ) :
    l.Does services (.openBy m c s) := by
  cases hopen : c.isOpen with
  | true =>
    refine does_of_eq ?_ (by simp [RunCall.starter, hopen]) ?_ rfl rfl
    · rw [RunCall.perform, ConnectionManager.openConnection_of_isOpen hopen, Option.getD_some]
    · rw [RunCall.asked, ConnectionManager.openConnection_of_isOpen hopen]
      rfl
  | false =>
    cases houtcome : (m.openConnection services c { s with lifecycle := some l }).1 with
    | error e =>
      obtain ⟨hlifecycle, hasked⟩ := m.openConnection_of_error services hopen houtcome []
      exact does_of_eq (by simp [RunCall.perform, hlifecycle])
        (by simp [RunCall.starter, hopen, houtcome]) hasked rfl rfl
    | ok value =>
      obtain ⟨w, hlifecycle, hasked⟩ := m.openConnection_of_ok services hopen houtcome rfl []
      exact does_of_startOnce hfresh (by simp [RunCall.perform, hlifecycle])
        (by simp [RunCall.starter, hopen, houtcome]) hasked rfl rfl

/-- Taking the hook hands it out, and does nothing else. -/
lemma does_takeHook : l.Does services .takeHook where
  command := rfl
  started := by simp [RunCall.perform, RunCall.starter, takeHook]
  asked := by simp [RunCall.asked, RunCall.starter]
  hook := by simp [RunCall.handed, RunCall.perform, RunCall.asked, takeHook]
  sent _ := by simp [RunCall.sent, RunCall.perform, RunCall.asked, takeHook]
  sent_of_ends h := by simp [RunCall.ends] at h

/-- Ending the run hands the hook to its end. -/
lemma does_finish (results : Option (List UInt8)) : l.Does services (.finish results) := by
  obtain ⟨hcommand, hstarted, hhook, events, hevents, hone⟩ := l.finish_eq results
  constructor
  case command => exact hcommand
  case started => simp [RunCall.perform, RunCall.starter, hstarted]
  case asked => simp [RunCall.asked, RunCall.starter]
  case hook => simp [RunCall.handed, RunCall.perform, RunCall.asked, takeHook, hhook]
  case sent =>
    intro h
    simp [RunCall.ends] at h
  case sent_of_ends =>
    intro _
    rw [RunCall.sent, RunCall.perform, hevents, List.drop_left]
    exact hone

/-- Every call does what `Does` says. -/
lemma does_perform (services : Services σ τ) (hfresh : l.Fresh) (call : RunCall σ τ) :
    l.Does services call := by
  cases call with
  | openBy m c s => exact does_openBy hfresh m c s
  | startOnce p w =>
    have hrecorded := l.startOnce_recorded services.connector p w []
    refine does_of_startOnce hfresh rfl rfl ?_ rfl rfl
    rw [RunCall.asked, hrecorded, List.nil_append]
  | takeHook => exact does_takeHook
  | finish results => exact does_finish results

/-- There is no hook before the run has begun, also after a call. -/
lemma Does.fresh (h : l.Does services call) (hfresh : l.Fresh) :
    (call.perform services l).Fresh := by
  intro hstarted
  rw [h.started, Bool.or_eq_false_iff, Bool.and_eq_false_iff] at hstarted
  obtain ⟨hbefore, hstart⟩ := hstarted
  have hasked : call.asked services l = [] := by
    have hmap := h.asked
    rcases hstart with hshould | hstarter
    · simpa [hshould] using hmap
    · rw [Option.isSome_eq_false_iff, Option.isNone_iff_eq_none] at hstarter
      simpa [hstarter] using hmap
  have hhook := h.hook
  rw [hasked, hfresh hbefore] at hhook
  simpa using (List.append_eq_nil_iff.mp hhook).2

end Does

/-! ### Runs of calls -/

variable (services : Services σ τ)

/-- The life of a run after calls, one after the other. -/
def after (l : RunLifecycle τ) (calls : List (RunCall σ τ)) : RunLifecycle τ :=
  calls.foldl (fun l call => call.perform services l) l

/-- What is seen of calls, one after the other, where each finds the life of the run as the one
before left it. -/
def along {α : Type} (view : RunLifecycle τ → RunCall σ τ → List α) :
    RunLifecycle τ → List (RunCall σ τ) → List α
  | _, [] => []
  | l, call :: rest => view l call ++ along view (call.perform services l) rest

/-- The profiles with which calls let the life of the run begin, in order. -/
def starters (l : RunLifecycle τ) (calls : List (RunCall σ τ)) : List Profile :=
  l.along services (fun l call => (call.starter services l).toList) calls

/-- What the connector is asked during calls. -/
def askedAlong (l : RunLifecycle τ) (calls : List (RunCall σ τ)) : List (ReachAsk τ) :=
  l.along services (fun l call => call.asked services l) calls

/-- The hooks that calls hand out. -/
def handedAlong (l : RunLifecycle τ) (calls : List (RunCall σ τ)) : List (PostRunHook τ) :=
  l.along services (fun l call => (call.handed l).toList) calls

/-- What goes to the control plane during those calls that end the run, or during the others. -/
def sentAlong (ends : Bool) (l : RunLifecycle τ) (calls : List (RunCall σ τ)) : List Event :=
  l.along services (fun l call => if call.ends = ends then call.sent services l else []) calls

/-- What calls do to the life of a run, one after the other. -/
structure DoesAlong (l : RunLifecycle τ) (calls : List (RunCall σ τ)) : Prop where
  /-- There is no hook before the run has begun. -/
  fresh : (l.after services calls).Fresh
  /-- The run has begun when it had, or when the command asks for it and a call let it begin. -/
  started : (l.after services calls).started =
    (l.started || l.shouldRun && !(l.starters services calls).isEmpty)
  /-- The connector is asked once at most, for the workspace of the first profile. -/
  asked : (l.askedAlong services calls).map (fun a => (a.profile, a.workspaceId)) =
    if l.shouldRun && !l.started then
      ((l.starters services calls).head?.bind fun p => p.workspaceId.map (p, ·)).toList
    else []
  /-- All hooks come from answers. -/
  hooks : l.handedAlong services calls ++ (l.after services calls).hook.toList =
    l.hook.toList ++ (l.askedAlong services calls).flatMap fun a => a.hook.toList
  /-- Before the end only that is sent which the answers lead to. -/
  sent : l.sentAlong services false calls = (l.askedAlong services calls).flatMap ReachAsk.sent
  /-- At the end a request is sent only for a hook. -/
  sent_of_ends : (requests (l.sentAlong services true calls)).length ≤
    (l.handedAlong services calls).length

variable {services}

/-- Without calls nothing is done. -/
lemma DoesAlong.nil {l : RunLifecycle τ} (hfresh : l.Fresh) : l.DoesAlong services [] where
  fresh := hfresh
  started := by simp [after, starters, along]
  asked := by simp [askedAlong, starters, along]
  hooks := by simp [handedAlong, askedAlong, after, along]
  sent := rfl
  sent_of_ends := Nat.le_refl 0

/-- One call, and then the others. -/
lemma DoesAlong.cons {l : RunLifecycle τ} {call : RunCall σ τ} {calls : List (RunCall σ τ)}
    (hone : l.Does services call) (hrest : (call.perform services l).DoesAlong services calls) :
    l.DoesAlong services (call :: calls) := by
  have hshould : (call.perform services l).shouldRun = l.shouldRun := by
    rw [shouldRun, hone.command, shouldRun]
  constructor
  case fresh => exact hrest.fresh
  -- where this call lets the run begin, no later one does: the run has begun then
  case started =>
    have hstarted := hrest.started
    rw [hone.started, hshould] at hstarted
    rw [after, List.foldl_cons]
    refine hstarted.trans ?_
    simp only [starters, along]
    cases call.starter services l <;> cases l.started <;> cases l.shouldRun <;> simp
  case asked =>
    have hasked := hrest.asked
    rw [hone.started, hshould] at hasked
    simp only [askedAlong, starters, along, List.map_append] at hasked ⊢
    rw [hone.asked, hasked]
    cases call.starter services l <;> cases l.started <;> cases l.shouldRun <;> simp
  -- what is handed out and sent adds up
  case hooks =>
    have hhooks := hrest.hooks
    simp only [handedAlong, askedAlong, along, after, List.foldl_cons, List.append_assoc,
      List.flatMap_append] at hhooks ⊢
    rw [hhooks, ← List.append_assoc, hone.hook, List.append_assoc]
  case sent =>
    have hsent := hrest.sent
    simp only [sentAlong, askedAlong, along, List.flatMap_append] at hsent ⊢
    rw [hsent]
    cases hends : call.ends with
    | false => rw [if_pos rfl, hone.sent hends]
    | true => simp [call.asked_of_ends services l hends]
  case sent_of_ends =>
    have hsent := hrest.sent_of_ends
    simp only [sentAlong, handedAlong, along, requests_append, List.length_append] at hsent ⊢
    refine Nat.add_le_add ?_ hsent
    cases hends : call.ends with
    | false => simp
    | true => simpa using hone.sent_of_ends hends

variable (services)

/-- Calls do what `DoesAlong` says. -/
lemma doesAlong_after (calls : List (RunCall σ τ)) {l : RunLifecycle τ} (hfresh : l.Fresh) :
    l.DoesAlong services calls := by
  induction calls generalizing l with
  | nil => exact .nil hfresh
  | cons call calls ih =>
    have hone := does_perform services hfresh call
    exact .cons hone (ih (hone.fresh hfresh))

/-- A run that has begun stays begun. -/
lemma started_after {l : RunLifecycle τ} (hstarted : l.started = true)
    (calls : List (RunCall σ τ)) : (l.after services calls).started = true := by
  have hfresh : l.Fresh := fun h => by simp [hstarted] at h
  rw [(doesAlong_after services calls hfresh).started, hstarted, Bool.true_or]

/-- The command asks for the snapshot just when it is one of three. -/
lemma shouldRun_iff (l : RunLifecycle τ) :
    l.shouldRun = true ↔ l.command ∈ targetCommands.map some := by
  rw [shouldRun]
  cases l.command with
  | none => simp
  | some name => simp [eq_comm]

/-- Any calls on the life of a run, in any order, by any managers and hosts, whatever the connector
and the control plane answer.

The connector is asked once at most: for the profile with which the first call lets the run begin,
and its workspace, and only when the command is one of the three.  From that call on the run has
begun, whatever came of it.  All that goes to the control plane before the end is the one exchange
that the answer leads to, and all hooks, kept or handed out, are the one that the answer leads to;
so one hook is handed out at most, and the calls that end the run send one request at most. -/
theorem run_happens_once (command : Option String) (service : τ) (calls : List (RunCall σ τ)) :
    let l : RunLifecycle τ := { command, service }
    let starters := l.starters services calls
    let asked := l.askedAlong services calls
    let handed := l.handedAlong services calls
    let final := l.after services calls
    asked.length ≤ 1 ∧
    asked.map (fun a => (a.profile, a.workspaceId)) =
      (if command ∈ targetCommands.map some then
        (starters.head?.bind fun p => p.workspaceId.map (p, ·)).toList
      else []) ∧
    (final.started = true ↔ command ∈ targetCommands.map some ∧ starters ≠ []) ∧
    (∀ more, final.started = true → (final.after services more).started = true) ∧
    l.sentAlong services false calls = asked.flatMap ReachAsk.sent ∧
    handed ++ final.hook.toList = (asked.flatMap fun a => a.hook.toList) ∧
    handed.length ≤ 1 ∧
    (requests (l.sentAlong services true calls)).length ≤ 1 := by
  intro l starters asked handed final
  have hfresh : l.Fresh := fun _ => rfl
  have hdoes := doesAlong_after services calls hfresh
  have hshould : l.shouldRun = true ↔ command ∈ targetCommands.map some := l.shouldRun_iff
  have hasked : asked.map (fun a => (a.profile, a.workspaceId)) =
      (if command ∈ targetCommands.map some then
        (starters.head?.bind fun p => p.workspaceId.map (p, ·)).toList
      else []) := by
    rw [← if_congr hshould rfl rfl]
    simpa [l] using hdoes.asked
  -- there is one profile at most to ask for, so one ask, and so one hook
  have hone : asked.length ≤ 1 := by
    have hlength := congrArg List.length hasked
    rw [List.length_map] at hlength
    rw [hlength]
    split_ifs
    · exact Option.length_toList_le
    · exact Nat.zero_le 1
  have hhooks : handed ++ final.hook.toList = asked.flatMap fun a => a.hook.toList := by
    simpa [l] using hdoes.hooks
  have hhanded : handed.length ≤ 1 := by
    have hlength := congrArg List.length hhooks
    rw [List.length_append] at hlength
    have hsum := ReachAsk.length_hooks_le hone
    omega
  refine ⟨hone, hasked, ?_, fun more hstarted => started_after services hstarted more, hdoes.sent,
    hhooks, hhanded, Nat.le_trans hdoes.sent_of_ends hhanded⟩
  rw [hdoes.started, ← hshould]
  simp [l, starters]

end RunLifecycle

end WarehouseAccess
