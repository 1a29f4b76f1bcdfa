/-
What can be seen of a run from outside: the requests that are sent, and
the waits between them.

`Dialogue.run` keeps the requests only. Here a run is read event by
event, and the requests of `run` are the events that were sent
(`requests_run`), so a statement about events is one about requests, too.

The servers are scripts without an end: `inOrder outcomes` answers the
request with the number `n` with `outcomes n`, whatever it asks for.
-/
import Sdwan.Http.Dialogue

namespace Sdwan.Http.Dialogue

variable {α σ : Type}

/-- One thing that a run does. -/
inductive Event where
  | sent (request : Request)
  | waited (millis : Nat)
deriving BEq, Repr

/-- The request of an event, if it is one that was sent. -/
def Event.request? : Event → Option Request
  | .sent r => some r
  | .waited _ => none

/-- What a run does, in order. -/
def events (serve : Server σ) : Dialogue α → σ → List Event
  | done _, _ => []
  | send r next, s => .sent r :: events serve (next (serve r s).1) (serve r s).2
  | pause ms next, s => .waited ms :: events serve next s

/-- The requests of a run are what it sent. -/
theorem requests_run (serve : Server σ) (d : Dialogue α) (s : σ) :
    (run serve d s).requests = (events serve d s).filterMap Event.request? := by
  induction d generalizing s with
  | done a => rfl
  | send r next ih =>
      show r :: (run serve (next (serve r s).1) (serve r s).2).requests
        = r :: (events serve (next (serve r s).1) (serve r s).2).filterMap Event.request?
      rw [ih]
  | pause ms next ih =>
      rw [run_pause, ih]
      rfl

-- ============================================== scripts without an end

/-- The server that answers the requests with these outcomes, one after
the other. Its state is the number of requests so far. -/
def inOrder (outcomes : Nat → Outcome) : Server Nat := fun _ n => (outcomes n, n + 1)

variable (outcomes : Nat → Outcome)

theorem run_send_inOrder (r : Request) (next : Outcome → Dialogue α) (n : Nat) :
    run (inOrder outcomes) (send r next) n =
      let rest := run (inOrder outcomes) (next (outcomes n)) (n + 1)
      ⟨rest.value, r :: rest.requests, rest.server⟩ := rfl

theorem run_inOrder_send (r : Request) (next : Outcome → Dialogue α) (n : Nat) :
    (run (inOrder outcomes) (send r next) n).value
      = (run (inOrder outcomes) (next (outcomes n)) (n + 1)).value := rfl

theorem events_inOrder_send (r : Request) (next : Outcome → Dialogue α) (n : Nat) :
    events (inOrder outcomes) (send r next) n
      = .sent r :: events (inOrder outcomes) (next (outcomes n)) (n + 1) := rfl

end Sdwan.Http.Dialogue
