import WarehouseAccess.Proofs.ControlPlane.Exchange

/-!
# Transcripts of exchanges

A run tells which requests were sent.  Its transcript tells more: what came back for each of them.
`Reads` is the property of an exchange that it never asks for a change, whatever comes back; waiting
for an operation is such an exchange.
-/

namespace WarehouseAccess

namespace Exchange

variable {σ α β : Type}

/-- The requests of a run in order, each with what came back. -/
def transcript (peer : Peer σ) : Exchange α → σ → List (HttpRequest × HttpReply)
  | .done _, _ => []
  | .send r next, s =>
    (r, (peer.answer r s).1) :: transcript peer (next (peer.answer r s).1) (peer.answer r s).2
  | .pause _ next, s => transcript peer next s
  | .clock next, s => transcript peer (next (peer.now s).1) (peer.now s).2

/-- The requests of a transcript are those of the run. -/
theorem map_fst_transcript (peer : Peer σ) (x : Exchange α) (s : σ) :
    (transcript peer x s).map Prod.fst = requests (run peer x s).2.1 := by
  induction x generalizing s with
  | done a => rfl
  | send r next ih => rw [transcript, List.map_cons, ih, run_send, requests_sent]
  | pause d next ih => rw [transcript, ih, run_pause, requests_paused]
  | clock next ih => rw [transcript, ih, run]

/-- The exchange asks for no change, whatever comes back and whatever the time is. -/
def Reads : Exchange α → Prop
  | .done _ => True
  | .send r next => r.method = .get ∧ ∀ reply, Reads (next reply)
  | .pause _ next => Reads next
  | .clock next => ∀ now, Reads (next now)

/-- What is done asks for no change. -/
@[simp]
lemma reads_done (a : α) : Reads (.done a) := trivial

/-- Two exchanges one after the other ask for no change when neither does. -/
lemma Reads.bind {x : Exchange α} {f : α → Exchange β} (hx : Reads x) (hf : ∀ a, Reads (f a)) :
    Reads (Exchange.bind x f) := by
  induction x with
  | done a => exact hf a
  | send r next ih => exact ⟨hx.1, fun reply => ih reply (hx.2 reply)⟩
  | pause d next ih => exact ih hx
  | clock next ih => exact fun now => ih now (hx now)

/-- The transcript of an exchange that asks for no change has such requests only. -/
lemma Reads.method_eq {x : Exchange α} (hx : Reads x) (peer : Peer σ) (s : σ) :
    ∀ e ∈ transcript peer x s, e.1.method = .get := by
  induction x generalizing s with
  | done a => simp [transcript]
  | send r next ih =>
    intro e he
    rcases List.mem_cons.mp he with rfl | he
    · exact hx.1
    · exact ih _ (hx.2 _) _ e he
  | pause d next ih => exact ih hx s
  | clock next ih => exact ih _ (hx _) _

/-- What such requests and the clock leave as it is, an exchange that asks for no change leaves as
it is. -/
lemma Reads.keeps {τ : Type} {x : Exchange α} (hx : Reads x) (peer : Peer σ) (view : σ → τ)
    (hanswer : ∀ r s, r.method = .get → view (peer.answer r s).2 = view s)
    (hnow : ∀ s, view (peer.now s).2 = view s) (s : σ) :
    view (run peer x s).2.2 = view s := by
  induction x generalizing s with
  | done a => rfl
  | send r next ih =>
    rw [run_send]
    exact (ih _ (hx.2 _) _).trans (hanswer r s hx.1)
  | pause d next ih => exact ih hx s
  | clock next ih => exact (ih _ (hx _) _).trans (hnow s)

/-- The exchange reads the clock, sends one request made from the time, and asks for no change after
it. -/
def ChangesBy (x : Exchange α) (request : Int → HttpRequest) : Prop :=
  ∃ rest : HttpReply → Exchange α, (∀ reply, Reads (rest reply)) ∧
    x = .clock fun now => .send (request now) rest

/-- The requests of a transcript that are more than reading, each with what came back. -/
def changes (exchanges : List (HttpRequest × HttpReply)) : List (HttpRequest × HttpReply) :=
  exchanges.filter fun e => e.1.method != .get

/-- An exchange that asks for no change has none in its transcript. -/
lemma Reads.changes_eq {x : Exchange α} (hx : Reads x) (peer : Peer σ) (s : σ) :
    changes (transcript peer x s) = [] := by
  refine List.filter_eq_nil_iff.mpr fun e he => ?_
  simp [hx.method_eq peer s e he]

/-- An exchange that asks for one change has just that in its transcript, and leaves behind what the
request left, as far as reading changes nothing. -/
lemma ChangesBy.spec {τ : Type} {x : Exchange α} {request : Int → HttpRequest}
    (hx : ChangesBy x request) (hmethod : ∀ now, (request now).method ≠ .get) (peer : Peer σ)
    (view : σ → τ) (hanswer : ∀ r s, r.method = .get → view (peer.answer r s).2 = view s)
    (hnow : ∀ s, view (peer.now s).2 = view s) (s : σ) :
    let (now, s') := peer.now s
    let (reply, s'') := peer.answer (request now) s'
    changes (transcript peer x s) = [(request now, reply)] ∧
      view (run peer x s).2.2 = view s'' := by
  obtain ⟨rest, hrest, rfl⟩ := hx
  refine ⟨?_, (hrest _).keeps peer view hanswer hnow _⟩
  have hchange : ((request (peer.now s).1).method != .get) = true := bne_iff_ne.mpr (hmethod _)
  simp only [transcript, changes, List.filter_cons, hchange, if_true]
  rw [← changes, (hrest _).changes_eq]

end Exchange

namespace Inquiry

open Exchange

variable {α β : Type}

/-- An inquiry that begins with a request. -/
lemma send_bind (r : HttpRequest) (f : HttpResponse → Inquiry α) :
    (Inquiry.send r >>= f).run = .send r fun
      | .response response => (f response).run
      | .failure reason => .done (.error (.transport reason)) := by
  change Exchange.send r _ = _
  congr 1
  funext reply
  cases reply <;> rfl

/-- An inquiry that begins with an outcome. -/
lemma settle_bind (r : Except ControlPlaneError α) (f : α → Inquiry β) :
    (ControlPlaneClient.settle r >>= f).run = match r with
      | .ok a => (f a).run
      | .error e => .done (.error e) := by
  cases r <;> rfl

/-- An inquiry that begins with the clock. -/
lemma clock_bind (f : Int → Inquiry α) :
    (Inquiry.clock >>= f).run = .clock fun now => (f now).run := rfl

/-- An inquiry that goes on asks for no change when neither part does. -/
lemma reads_bind {x : Inquiry α} {f : α → Inquiry β} (hx : Reads x.run)
    (hf : ∀ a, Reads (f a).run) : Reads (x >>= f).run :=
  hx.bind fun outcome => match outcome with
    | .ok a => hf a
    | .error _ => reads_done _

/-- A request that asks for no change. -/
lemma reads_send {r : HttpRequest} (hr : r.method = .get) : Reads (Inquiry.send r).run :=
  ⟨hr, fun reply => by cases reply <;> exact reads_done _⟩

end Inquiry

namespace Operation

open Exchange

/-- Fetching a result asks for no change. -/
lemma reads_fetchResult (o : Operation) : Reads o.fetchResult.run :=
  Inquiry.reads_bind (Inquiry.reads_send rfl) fun _ =>
    Inquiry.reads_bind (reads_done _) fun _ => reads_done _

/-- Going on after a response to a look asks for no change. -/
lemma reads_onResponse (o : Operation) (r : HttpResponse) : Reads (o.onResponse r) := by
  unfold onResponse
  split_ifs
  · exact (reads_fetchResult _).bind fun _ => reads_done _
  · cases Inquiry.body r with
    | error e => exact reads_done _
    | ok body =>
      dsimp only
      split
      · exact ⟨rfl, fun _ => reads_done _⟩
      · exact reads_done _
      · exact reads_done _
  all_goals exact reads_done _

/-- A look at an operation asks for no change. -/
lemma reads_look (o : Operation) : Reads o.look := by
  refine ⟨rfl, fun reply => ?_⟩
  cases reply with
  | response r => exact o.reads_onResponse r
  | failure reason => exact reads_done _

/-- Looking at an operation several times asks for no change. -/
lemma reads_pollFrom (delay : Duration) (limit left : Nat) (o : Operation) :
    Reads (pollFrom delay limit left o) := by
  induction left generalizing o with
  | zero => exact reads_done _
  | succ left ih =>
    refine o.reads_look.bind fun (outcome, o) => ?_
    match outcome with
    | .error e => exact reads_done _
    | .ok (.ended result) => exact reads_done _
    | .ok .wait => exact ih o

/-- Waiting for an operation to end asks for no change. -/
theorem reads_pollUntilDone (url id : String) (delay : Duration) (limit : Nat) :
    Reads (pollUntilDone url id delay limit).run :=
  (reads_pollFrom delay limit limit _).bind fun _ => reads_done _

end Operation

end WarehouseAccess
