/-
Computations that talk to a server. A `Dialogue` is the whole tree of
what may happen: it is done, or it sends a request and goes on with each
outcome in its own way, or it waits.

What the server does is not part of it. Given a server, a dialogue runs
to its end and leaves a record of the requests.
-/
import Sdwan.Http.Message

namespace Sdwan.Http

/-- A computation that may send requests on its way to an `α`. -/
inductive Dialogue (α : Type) where
  | done (value : α)
  | send (request : Request) (next : Outcome → Dialogue α)
  /-- Waits so many milliseconds. -/
  | pause (millis : Nat) (next : Dialogue α)

namespace Dialogue

variable {α β σ : Type}

/-- Goes on with the value. -/
def bind : Dialogue α → (α → Dialogue β) → Dialogue β
  | done a, f => f a
  | send r next, f => send r fun o => bind (next o) f
  | pause ms next, f => pause ms (bind next f)

instance : Monad Dialogue where
  pure := done
  bind := bind

/-- Sends one request. -/
def ask (r : Request) : Dialogue Outcome := send r done

/-- A server: how it answers a request, and its state behind it. -/
abbrev Server (σ : Type) := Request → σ → Outcome × σ

/-- What a run leaves behind: the value, the requests in order, and the
state of the server. -/
structure Run (σ α : Type) where
  value : α
  requests : List Request
  server : σ

/-- Runs a dialogue with a server. -/
def run (serve : Server σ) : Dialogue α → σ → Run σ α
  | done a, s => ⟨a, [], s⟩
  | send r next, s =>
    let (o, s) := serve r s
    let rest := run serve (next o) s
    { rest with requests := r :: rest.requests }
  | pause _ next, s => run serve next s

-- ============================================== small laws

@[simp] theorem run_done (serve : Server σ) (a : α) (s : σ) :
    run serve (done a) s = ⟨a, [], s⟩ := rfl

@[simp] theorem run_pause (serve : Server σ) (ms : Nat) (next : Dialogue α) (s : σ) :
    run serve (pause ms next) s = run serve next s := rfl

theorem run_send (serve : Server σ) (r : Request) (next : Outcome → Dialogue α) (s : σ) :
    run serve (send r next) s =
      let o := serve r s
      let rest := run serve (next o.1) o.2
      ⟨rest.value, r :: rest.requests, rest.server⟩ := rfl

/-- A run of two dialogues in a row is a run of the one and then of the
other. -/
theorem run_bind (serve : Server σ) (d : Dialogue α) (f : α → Dialogue β) (s : σ) :
    run serve (bind d f) s =
      let first := run serve d s
      let second := run serve (f first.value) first.server
      ⟨second.value, first.requests ++ second.requests, second.server⟩ := by
  induction d generalizing s with
  | done a => simp [bind]
  | send r next ih => simp [bind, run_send, ih]
  | pause ms next ih => simp [bind, ih]

end Dialogue

end Sdwan.Http
