import Mathlib.Tactic.Common
import WarehouseAccess.ControlPlane.Client

/-!
# Runs of exchanges

The laws by which the run of an exchange is computed from its parts.  `Inquiry.run_bind` is the main
one: an inquiry goes on where the one before it succeeds, and ends where that one fails.

`Peer.reply` and `Peer.after` speak of the same request sent again and again: what comes back the
`k`-th time, and the peer after `k` times.
-/

namespace WarehouseAccess

namespace Exchange

variable {σ α β : Type}

/-! ### Events -/

/-- No events, no requests. -/
@[simp]
lemma requests_nil : requests [] = [] := rfl

/-- A sent request is the next of the requests. -/
@[simp]
lemma requests_sent (r : HttpRequest) (events : List Event) :
    requests (.sent r :: events) = r :: requests events := rfl

/-- A pause is no request. -/
@[simp]
lemma requests_paused (d : Duration) (events : List Event) :
    requests (.paused d :: events) = requests events := rfl

/-- The requests of two lists of events are those of the first and then those of the second. -/
@[simp]
lemma requests_append (events more : List Event) :
    requests (events ++ more) = requests events ++ requests more :=
  List.filterMap_append

/-- The requests of events that are only requests. -/
@[simp]
lemma requests_map_sent (rs : List HttpRequest) : requests (rs.map .sent) = rs := by
  induction rs with
  | nil => rfl
  | cons r rs ih => rw [List.map_cons, requests_sent, ih]

/-- No events, no pauses. -/
@[simp]
lemma pauses_nil : pauses [] = [] := rfl

/-- A sent request is no pause. -/
@[simp]
lemma pauses_sent (r : HttpRequest) (events : List Event) :
    pauses (.sent r :: events) = pauses events := rfl

/-- A pause is the next of the pauses. -/
@[simp]
lemma pauses_paused (d : Duration) (events : List Event) :
    pauses (.paused d :: events) = d :: pauses events := rfl

/-- The pauses of two lists of events are those of the first and then those of the second. -/
@[simp]
lemma pauses_append (events more : List Event) :
    pauses (events ++ more) = pauses events ++ pauses more :=
  List.filterMap_append

/-- Events that are only requests have no pauses. -/
@[simp]
lemma pauses_map_sent (rs : List HttpRequest) : pauses (rs.map .sent) = [] := by
  induction rs with
  | nil => rfl
  | cons r rs ih => rw [List.map_cons, pauses_sent, ih]

/-! ### Runs -/

/-- A run of what is done. -/
@[simp]
lemma run_done (peer : Peer σ) (a : α) (s : σ) : run peer (.done a) s = (a, [], s) := rfl

/-- A run that begins with a request. -/
lemma run_send (peer : Peer σ) (r : HttpRequest) (next : HttpReply → Exchange α) (s : σ) :
    run peer (.send r next) s =
      ((run peer (next (peer.answer r s).1) (peer.answer r s).2).1,
        .sent r :: (run peer (next (peer.answer r s).1) (peer.answer r s).2).2.1,
        (run peer (next (peer.answer r s).1) (peer.answer r s).2).2.2) := rfl

/-- A run that begins with a pause. -/
lemma run_pause (peer : Peer σ) (d : Duration) (next : Exchange α) (s : σ) :
    run peer (.pause d next) s =
      ((run peer next s).1, .paused d :: (run peer next s).2.1, (run peer next s).2.2) := rfl

/-! ### The same request again and again -/

/-- The peer after it was sent the same request so many times. -/
def Peer.after (peer : Peer σ) (r : HttpRequest) : Nat → σ → σ
  | 0, s => s
  | k + 1, s => peer.after r k (peer.answer r s).2

/-- What comes back when the same request is sent again and again, counted from zero. -/
def Peer.reply (peer : Peer σ) (r : HttpRequest) (k : Nat) (s : σ) : HttpReply :=
  (peer.answer r (peer.after r k s)).1

/-- The first reply. -/
lemma Peer.reply_zero (peer : Peer σ) (r : HttpRequest) (s : σ) :
    peer.reply r 0 s = (peer.answer r s).1 := rfl

/-- The later replies are those of the peer after the first request. -/
lemma Peer.reply_succ (peer : Peer σ) (r : HttpRequest) (k : Nat) (s : σ) :
    peer.reply r (k + 1) s = peer.reply r k (peer.answer r s).2 := rfl

end Exchange

namespace Inquiry

open Exchange

variable {σ α β : Type}

/-- A run of a request: its response, or the reason why none came. -/
lemma run_send (peer : Peer σ) (r : HttpRequest) (s : σ) :
    run peer (Inquiry.send r).run s =
      (match (peer.answer r s).1 with
        | .response response => .ok response
        | .failure reason => .error (.transport reason), [.sent r], (peer.answer r s).2) := by
  change run peer (.send r _) s = _
  rw [Exchange.run_send]
  cases (peer.answer r s).1 <;> rfl

/-- An inquiry goes on where the one before it succeeds, and ends where that one fails. -/
lemma run_bind (peer : Peer σ) (x : Inquiry α) (f : α → Inquiry β) (s : σ) :
    run peer (x >>= f).run s =
      match run peer x.run s with
      | (.ok a, events, s) =>
        let (b, more, s) := run peer (f a).run s
        (b, events ++ more, s)
      | (.error e, events, s) => (.error e, events, s) := by
  change run peer (Exchange.bind x.run _) s = _
  rw [Exchange.run_bind]
  obtain ⟨outcome, events, s'⟩ := run peer x.run s
  cases outcome with
  | ok a => rfl
  | error e => simp [ExceptT.bindCont, pure]

end Inquiry

end WarehouseAccess
