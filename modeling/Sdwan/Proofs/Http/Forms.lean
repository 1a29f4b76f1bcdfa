/-
Forms on the wire.

# One form for another

The agent looks at what a request carries twice: for its media type, and for
whether it can be sent again. All forms are alike in this. So posts of
different forms go the same way: the same answers lead to the same outcome,
and what is sent differs in the form alone (`alike_exchange`).

# Where a form goes

A form is sent again only where a reply with one of two codes names another
place for it (`Moves`). All other redirects fetch the new place, with nothing
in the request.
-/
import Sdwan.Http.Agent
import Sdwan.Proofs.Http.Events

namespace Sdwan.Http

open Dialogue

/-- The request with this form in it. -/
def Request.withForm (r : Request) (pairs : List (String × String)) : Request :=
  { r with body := .form pairs }

/-- Posts of one form, the first of them to the URL. Each of the others goes
to the place that the answer to the one before names, with a code that asks
for the same request there. The answers are counted from `n`. -/
inductive Moves [Url.Idna] (outcomes : Nat → Outcome) : (n : Nat) → Url → List Request → Prop where
  | none {n : Nat} {u : Url} : Moves outcomes n u []
  | last {n : Nat} {r : Request} (post : r.method = .post) : Moves outcomes n r.url [r]
  | moved {n : Nat} {r : Request} {reply : Reply} {place : String} {u : Url}
      {posts : List Request} (post : r.method = .post) (answer : outcomes n = .reply reply)
      (code : reply.status.code = 307 ∨ reply.status.code = 308)
      (named : reply.headers.lookup "location" = some place) (leads : r.url.join place = .ok u)
      (further : Moves outcomes (n + 1) u posts) : Moves outcomes n r.url (r :: posts)

/-- Dialogues, one for each form, that run alike from the answer `n` on: they
come to the same value, and what they send differs in the form alone, in these
posts at the beginning. -/
structure Alike [Url.Idna] {α : Type} (outcomes : Nat → Outcome) (n : Nat) (u : Url)
    (posts : List Request) (d : List (String × String) → Dialogue α) : Prop where
  moves : Moves outcomes n u posts
  run_eq : ∃ rest : Run Nat α, ∀ pairs, run (inOrder outcomes) (d pairs) n
    = ⟨rest.value, posts.map (·.withForm pairs) ++ rest.requests, rest.server⟩

section Alike

variable {α β : Type} {outcomes : Nat → Outcome} {n : Nat} {u : Url} {posts : List Request}

/-- A dialogue that has no form. -/
theorem alike_const [Url.Idna] (d : Dialogue α) : Alike outcomes n u [] fun _ => d where
  moves := .none
  run_eq := ⟨run (inOrder outcomes) d n, fun _ => rfl⟩

theorem Alike.bind [Url.Idna] {d : List (String × String) → Dialogue α}
    (h : Alike outcomes n u posts d)
    (f : α → Dialogue β) : Alike outcomes n u posts fun pairs => (d pairs).bind f where
  moves := h.moves
  run_eq := by
    obtain ⟨first, hfirst⟩ := h.run_eq
    let second := run (inOrder outcomes) (f first.value) first.server
    refine ⟨⟨second.value, first.requests ++ second.requests, second.server⟩, fun pairs => ?_⟩
    rw [run_bind, hfirst]
    dsimp only
    rw [List.append_assoc]

variable {r : Request} {next : List (String × String) → Outcome → Dialogue α}

/-- A post behind which the form does not matter. -/
theorem alike_send_last [Url.Idna] (hpost : r.method = .post) {d : Dialogue α}
    (hnext : ∀ pairs, next pairs (outcomes n) = d) :
    Alike outcomes n r.url [r] fun pairs => .send (r.withForm pairs) (next pairs) where
  moves := .last hpost
  run_eq := by
    refine ⟨run (inOrder outcomes) d (n + 1), fun pairs => ?_⟩
    rw [run_send_inOrder, hnext]
    rfl

/-- A post that the answer moves on. -/
theorem Alike.send_moved [Url.Idna] {reply : Reply} {place : String} (hpost : r.method = .post)
    (hanswer : outcomes n = .reply reply)
    (hcode : reply.status.code = 307 ∨ reply.status.code = 308)
    (hnamed : reply.headers.lookup "location" = some place) (hleads : r.url.join place = .ok u)
    (h : Alike outcomes (n + 1) u posts fun pairs => next pairs (outcomes n)) :
    Alike outcomes n r.url (r :: posts) fun pairs => .send (r.withForm pairs) (next pairs) where
  moves := .moved hpost hanswer hcode hnamed hleads h.moves
  run_eq := by
    obtain ⟨rest, hrest⟩ := h.run_eq
    refine ⟨rest, fun pairs => ?_⟩
    rw [run_send_inOrder, hrest]
    rfl

end Alike

namespace Agent

-- ============================================== dressing

/-- What the agent adds is the same for all forms. -/
theorem exists_dress_withForm (a : Agent) (r : Request) :
    ∃ r' : Request, r'.url = r.url ∧ r'.method = r.method
      ∧ ∀ pairs, a.dress (r.withForm pairs) = r'.withForm pairs := by
  refine ⟨a.dress (r.withForm []), ?_⟩
  have hheader : ∀ pairs, (r.withForm pairs).header? "accept" = r.header? "accept" := fun _ => rfl
  simp only [dress, hheader]
  cases (r.header? "accept").isSome <;> cases a.compression <;>
    cases hjar : a.jar.header? r.url <;>
    simp [Request.withForm, Request.withHeader, Request.withHeaderIf, Body.mediaType, hjar]

-- ============================================== redirects

theorem code_of_same {s : Status} (h : Redirect.ofStatus? .post s = some .same) :
    s.code = 307 ∨ s.code = 308 := by
  unfold Redirect.ofStatus? at h
  split at h
  · cases h
  · split at h
    · cases h
    · split at h
      · next hcode => simpa using hcode
      · cases h

/-- A form can be sent again, so the reply alone decides. -/
theorem redirected?_eq [Url.Idna] (r : Request) (pairs : List (String × String)) (reply : Reply) :
    redirected? (r.withForm pairs) reply
      = (Redirect.ofStatus? r.method reply.status).bind fun d =>
        (reply.headers.lookup "location").bind fun place =>
          (r.url.join place).toOption.bind fun u => some (d.apply (r.withForm pairs) u) := by
  refine congrArg (Option.bind _) (funext fun d => ?_)
  cases d <;> rfl

/-- A reply to a post does the same for every form in it: it ends the matter,
or leads to a request without the form, or names another place for it. -/
theorem redirected?_withForm [Url.Idna] {r : Request} (hpost : r.method = .post) (reply : Reply) :
    (∀ pairs, redirected? (r.withForm pairs) reply = none)
      ∨ (∃ r', ∀ pairs, redirected? (r.withForm pairs) reply = some r')
      ∨ ∃ place u, (reply.status.code = 307 ∨ reply.status.code = 308)
        ∧ reply.headers.lookup "location" = some place ∧ r.url.join place = .ok u
        ∧ ∀ pairs, redirected? (r.withForm pairs) reply
          = some ({ r with url := u }.withForm pairs) := by
  obtain ⟨method, url, headers, body⟩ := r
  obtain rfl : method = .post := hpost
  simp only [redirected?_eq]
  cases hstatus : Redirect.ofStatus? .post reply.status with
  | none => exact Or.inl fun _ => rfl
  | some d =>
      cases reply.headers.lookup "location" with
      | none => exact Or.inl fun _ => rfl
      | some place =>
          cases hjoin : url.join place with
          | error e =>
              refine Or.inl fun _ => ?_
              simp only [Option.bind_some, hjoin]
              rfl
          | ok u =>
              simp only [Option.bind_some, hjoin]
              cases d with
              | plain => exact Or.inr (Or.inl ⟨⟨.get, u, headers, .empty⟩, fun _ => rfl⟩)
              | same =>
                  exact Or.inr (Or.inr ⟨place, u, code_of_same hstatus, rfl, hjoin, fun _ => rfl⟩)

-- ============================================== exchanges

/-- How an exchange goes on with an outcome. -/
def follow [Url.Idna] (left : Nat) (a : Agent) (r : Request) : Outcome → Dialogue (Outcome × Agent)
  | .reply reply =>
    let a := { a with jar := a.jar.learn r.url reply.headers }
    match redirected? r reply, left with
    | none, _ => .done (.reply reply, a)
    | some _, 0 => .done (.broken, a)
    | some r, left + 1 => exchange left a r
  | o => .done (o, a)

theorem exchange_of_sendable [Url.Idna] (left : Nat) (a : Agent) {r : Request}
    (h : r.isSendable = true) :
    exchange left a r = .send (a.dress r) (follow left a r) := by
  cases left <;>
    · rw [exchange, if_pos h]
      refine congrArg (Dialogue.send _) (funext fun o => ?_)
      cases o with
      | reply reply =>
          dsimp only [follow]
          cases redirected? r reply <;> rfl
      | refused | unreachable | timedOut | broken => rfl

theorem exchange_of_not_sendable [Url.Idna] (left : Nat) (a : Agent) {r : Request}
    (h : ¬ r.isSendable = true) : exchange left a r = .done (.broken, a) := by
  cases left <;> rw [exchange, if_neg h]

/-- Behind a post the form does not matter, or it is posted again. -/
theorem follow_withForm [Url.Idna] (left : Nat) (a : Agent) {r : Request} (hpost : r.method = .post)
    (o : Outcome) :
    (∃ d, ∀ pairs, follow left a (r.withForm pairs) o = d)
      ∨ ∃ further reply place u, left = further + 1 ∧ o = .reply reply
        ∧ (reply.status.code = 307 ∨ reply.status.code = 308)
        ∧ reply.headers.lookup "location" = some place ∧ r.url.join place = .ok u
        ∧ ∀ pairs, follow left a (r.withForm pairs) o
          = exchange further { a with jar := a.jar.learn r.url reply.headers }
              ({ r with url := u }.withForm pairs) := by
  cases o with
  | reply reply =>
      let learned := { a with jar := a.jar.learn r.url reply.headers }
      rcases redirected?_withForm hpost reply with
        hnone | ⟨q, hfetch⟩ | ⟨place, u, hcode, hnamed, hleads, hmoved⟩
      · refine Or.inl ⟨.done (.reply reply, learned), fun pairs => ?_⟩
        simp only [follow, hnone]
        rfl
      · cases left with
        | zero =>
            refine Or.inl ⟨.done (.broken, learned), fun pairs => ?_⟩
            simp only [follow, hfetch]
            rfl
        | succ left =>
            refine Or.inl ⟨exchange left learned q, fun pairs => ?_⟩
            simp only [follow, hfetch]
            rfl
      · cases left with
        | zero =>
            refine Or.inl ⟨.done (.broken, learned), fun pairs => ?_⟩
            simp only [follow, hmoved]
            rfl
        | succ left =>
            refine Or.inr ⟨left, reply, place, u, rfl, rfl, hcode, hnamed, hleads, fun pairs => ?_⟩
            simp only [follow, hmoved]
            rfl
  | refused | unreachable | timedOut | broken => exact Or.inl ⟨_, fun _ => rfl⟩

/-- Forms that are posted run alike. -/
theorem alike_exchange [Url.Idna] (outcomes : Nat → Outcome) (left : Nat) (a : Agent) {r : Request}
    (hpost : r.method = .post) (n : Nat) :
    ∃ posts, (r.isSendable = true → posts ≠ [])
      ∧ Alike outcomes n r.url posts fun pairs => exchange left a (r.withForm pairs) := by
  -- the induction is on the redirects that are left, one of which a form that is moved takes
  induction left using Nat.strongRecOn generalizing a r n with
  | ind left ih =>
    by_cases hsend : r.isSendable = true
    · obtain ⟨r', hurl, hmethod, hdress⟩ := exists_dress_withForm a r
      have hpost' : r'.method = .post := hmethod.trans hpost
      have hexchange : ∀ pairs, exchange left a (r.withForm pairs)
          = .send (r'.withForm pairs) (follow left a (r.withForm pairs)) := by
        intro pairs
        rw [← hdress]
        exact exchange_of_sendable left a hsend
      simp only [hexchange]
      rw [← hurl]
      rcases follow_withForm left a hpost (outcomes n) with
        ⟨d, hd⟩ | ⟨further, reply, place, u, hleft, hanswer, hcode, hnamed, hleads, hmoved⟩
      · exact ⟨[r'], fun _ => List.cons_ne_nil _ _, alike_send_last hpost' hd⟩
      · obtain ⟨posts, -, hposts⟩ := ih further (hleft ▸ Nat.lt_succ_self further)
          { a with jar := a.jar.learn r.url reply.headers } (r := { r with url := u }) hpost (n + 1)
        refine ⟨r' :: posts, fun _ => List.cons_ne_nil _ _, ?_⟩
        refine .send_moved hpost' hanswer hcode hnamed (hurl ▸ hleads) ?_
        simp only [hmoved]
        exact hposts
    · refine ⟨[], fun h => absurd h hsend, ?_⟩
      have hexchange : ∀ pairs, exchange left a (r.withForm pairs) = .done (.broken, a) :=
        fun pairs => exchange_of_not_sendable left a hsend
      simp only [hexchange]
      exact alike_const _

end Agent

end Sdwan.Http
