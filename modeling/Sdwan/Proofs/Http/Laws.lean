/-
Dialogues one behind the other: they obey the laws of a monad, and the
agent carries them to the wire one behind the other, too.

To a dialogue, the agent and what is behind it are a server of their own
(`Agent.relay`). So what holds for all servers holds on the wire, with the
outcomes that the agent brings back in the end.
-/
import Sdwan.Http.Agent

namespace Sdwan.Http

variable {α β γ σ : Type}

namespace Dialogue

theorem bind_done (d : Dialogue α) : d.bind done = d := by
  induction d with
  | done a => rfl
  | send r next ih => exact congrArg (send r) (funext ih)
  | pause ms next ih => exact congrArg (pause ms) ih

theorem bind_assoc (d : Dialogue α) (f : α → Dialogue β) (g : β → Dialogue γ) :
    (d.bind f).bind g = d.bind fun a => (f a).bind g := by
  induction d with
  | done a => rfl
  | send r next ih => exact congrArg (send r) (funext ih)
  | pause ms next ih => exact congrArg (pause ms) ih

instance : LawfulMonad Dialogue :=
  LawfulMonad.mk' Dialogue bind_done (fun _ _ => rfl) bind_assoc

end Dialogue

open Dialogue

/-- On the wire, what follows a dialogue follows it with the cookies that
the agent has by then. -/
theorem Agent.speak_bind [Url.Idna] (a : Agent) (d : Dialogue α) (f : α → Dialogue β) :
    a.speak (d.bind f) = (a.speak d).bind fun (x, a) => a.speak (f x) := by
  induction d generalizing a with
  | done x => rfl
  | send r next ih =>
      show (exchange redirectLimit a r).bind (fun x => x.2.speak ((next x.1).bind f)) = _
      simp only [ih]
      exact (bind_assoc _ _ _).symm
  | pause ms next ih => exact congrArg (pause ms) (ih a)

/-- The agent with a server behind it, as a server. -/
def Agent.relay [Url.Idna] (serve : Server σ) : Server (Agent × σ) := fun r (a, s) =>
  let exchanged := run serve (exchange redirectLimit a r) s
  (exchanged.value.1, exchanged.value.2, exchanged.server)

/-- On the wire a dialogue comes to the value that it has with the relay. -/
theorem Agent.value_speak [Url.Idna] (serve : Server σ) (a : Agent) (d : Dialogue α) (s : σ) :
    (run serve (a.speak d) s).value.1 = (run (relay serve) d (a, s)).value := by
  induction d generalizing a s with
  | done x => rfl
  | send r next ih =>
      rw [speak, run_bind, run_send]
      exact ih _ _ _
  | pause ms next ih => exact ih a s

end Sdwan.Http
