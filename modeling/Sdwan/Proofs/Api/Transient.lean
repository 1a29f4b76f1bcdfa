/-
Errors that are worth a second attempt, and outcomes that get one.

Whether a request is repeated is decided from the outcome, before there is an
error. The error that is left in the end says on its own whether the request
may be sent again (`Error.isTransient`). A reply is judged by its status both
times; but an error keeps only the kind of the status, and the kind of a
failed exchange is shared by failures on the way, which are repeated, and by
all statuses without a kind of their own, which are not (`IsUnnamed`). There,
and nowhere else, the two answers differ (`isTransient_iff`).

What would have come of one attempt more is read off a second run with the
same outcomes (`GoesOn`), and the end of that run off the end of the first
(`isLast_of_isFinal`, `isLast_of_not_isFinal`).
-/
import Sdwan.Proofs.Api.Attempts
import Sdwan.Proofs.Api.Requests

namespace Sdwan.Client

open Http Http.Dialogue

variable {v : Verb} {o : Outcome} {outcomes : Nat → Outcome} {left last : Nat}

-- ============================================== errors of outcomes

/-- A reply that failed, with a status that no error is made for. -/
def IsUnnamed (o : Outcome) : Prop :=
  ∃ r, o = .reply r ∧ r.status.isSuccess = false
    ∧ r.status.code ∉ [400, 401, 403, 404, 409, 429] ∧ r.status.isServerError = false

/-- All errors of replies may be gone the next time but those about the request
itself, the caller or the subject. -/
theorem isTransient_ofReply (s : Status) (body : String) :
    (Error.ofReply s body).isTransient = true ↔ s.code ∉ [400, 401, 403, 404, 409] := by
  unfold Error.ofReply
  dsimp only
  split
  case h_1 h | h_2 h | h_3 h | h_4 h | h_5 h =>
    rw [h]
    exact iff_of_false Bool.false_ne_true (by decide)
  case h_6 h | h_7 h | h_8 h | h_9 h =>
    rw [h]
    exact iff_of_true rfl (by decide)
  case h_10 =>
    refine iff_of_true ?_ (by simp_all)
    split <;> rfl

/-- Every failure on the way may be gone the next time. -/
theorem isTransient_ofFailure [Platform] (h : ∀ r, o ≠ .reply r) :
    (Error.ofFailure o).isTransient = true := by
  cases o with
  | reply r => exact absurd rfl (h r)
  | refused | unreachable | timedOut | broken => rfl

/-- The failures on the way are final for no verb that may be repeated. -/
theorem not_isFinal_of_failure (hv : v ≠ .post) (h : ∀ r, o ≠ .reply r) : ¬ IsFinal v o := by
  intro hf
  rcases hf with ⟨r, hr, -⟩ | hf
  · exact h r hr
  · cases v with
    | post => exact hv rfl
    | get | put | delete =>
        obtain ⟨r, hr, -⟩ := hf
        exact h r hr

/-- A failed reply is repeated when the controller is too busy or at fault. -/
theorem not_isFinal_reply (hv : v ≠ .post) {r : Reply} (hr : r.status.isSuccess = false) :
    ¬ IsFinal v (.reply r) ↔ r.status.code = 429 ∨ r.status.isServerError = true := by
  have hretry : isRetryable r.status (v != .post) = true
      ↔ r.status.code = 429 ∨ r.status.isServerError = true := by
    rw [bne_iff_ne.mpr hv, isRetryable, if_pos rfl, Bool.or_eq_true, beq_iff_eq]
  rw [← isRetryable_iff hr, hretry]

theorem isUnnamed_reply {r : Reply} (hr : r.status.isSuccess = false) :
    IsUnnamed (.reply r)
      ↔ r.status.code ∉ [400, 401, 403, 404, 409, 429] ∧ r.status.isServerError = false := by
  constructor
  · intro h
    obtain ⟨r', heq, -, hrest⟩ := h
    cases heq
    exact hrest
  · intro hrest
    exact ⟨r, rfl, hr, hrest⟩

/-- Where no error is made for the status, no other attempt is made either. -/
theorem isFinal_of_isUnnamed (hv : v ≠ .post) (h : IsUnnamed o) : IsFinal v o := by
  obtain ⟨r, rfl, hfailed, hcode, hserver⟩ := h
  by_contra hf
  rcases (not_isFinal_reply hv hfailed).mp hf with hbusy | hfault
  · exact hcode (by simp [hbusy])
  · rw [hserver] at hfault
    cases hfault

theorem isTransient_reply (hv : v ≠ .post) {r : Reply} (hr : r.status.isSuccess = false)
    (body : String) :
    (Error.ofReply r.status body).isTransient = true
      ↔ ¬ IsFinal v (.reply r) ∨ IsUnnamed (.reply r) := by
  rw [isTransient_ofReply, not_isFinal_reply hv hr, isUnnamed_reply hr]
  simp only [Status.isServerError, List.mem_cons, List.not_mem_nil, or_false,
    Bool.and_eq_true, Bool.and_eq_false_iff, decide_eq_true_eq, decide_eq_false_iff_not]
  omega

/-- The error of an outcome may be gone the next time exactly when the outcome
is repeated or has no error of its own. -/
theorem isTransient_iff [Platform] (hv : v ≠ .post) {e : Error} (h : answer o = .error e) :
    e.isTransient = true ↔ ¬ IsFinal v o ∨ IsUnnamed o := by
  by_cases hreply : ∃ r, o = .reply r
  · obtain ⟨r, rfl⟩ := hreply
    cases hr : r.status.isSuccess with
    | true =>
        rw [answer, if_pos hr] at h
        cases h
    | false =>
        rw [answer, if_neg (by simp [hr])] at h
        rw [← Except.error.inj h]
        exact isTransient_reply hv hr _
  · have hfailure : ∀ r, o ≠ .reply r := fun r hr => hreply ⟨r, hr⟩
    have herror : Error.ofFailure o = e := by
      cases o with
      | reply r => exact absurd rfl (hfailure r)
      | refused | unreachable | timedOut | broken => exact Except.error.inj h
    rw [← herror]
    exact iff_of_true (isTransient_ofFailure hfailure)
      (Or.inl (not_isFinal_of_failure hv hfailure))

-- ============================================== one attempt more

/-- Behind a final outcome an attempt that is left is not made. -/
theorem isLast_of_isFinal (h : IsLast v outcomes left last) (hf : IsFinal v (outcomes last)) :
    IsLast v outcomes (left + 1) last := by
  refine ⟨Or.inr hf, ?_⟩
  intro n hn
  rcases hn with hn | hn
  · have : last ≤ left := h.2 (Or.inl rfl)
    omega
  · exact h.2 (Or.inr hn)

/-- Behind any other outcome it is. -/
theorem isLast_of_not_isFinal (h : IsLast v outcomes left last)
    (hf : ¬ IsFinal v (outcomes last)) : IsLast v outcomes (left + 1) (last + 1) := by
  obtain rfl : last = left := h.1.resolve_right hf
  refine ⟨Or.inl rfl, ?_⟩
  intro n hn
  rcases hn with hn | hn
  · omega
  · have hle : last ≤ n := h.2 (Or.inr hn)
    have hne : n ≠ last := fun heq => hf (heq ▸ hn)
    omega

/-- The attempts at a request up to the last one. -/
theorem exists_isLast [Platform] (p : RetryPolicy) {r : Request} (hm : r.method = v.method)
    (outcomes : Nat → Outcome) (left : Nat) :
    ∃ last, IsLast v outcomes left last
      ∧ (run (inOrder outcomes) (attempts p r 0 left) 0).requests.length = last + 1
      ∧ (run (inOrder outcomes) (attempts p r 0 left) 0).value = answer (outcomes last) := by
  obtain ⟨last, hlast, hevents, hvalue⟩ := run_attempts p hm outcomes left 0 0
  simp only [Nat.zero_add] at hlast hvalue
  refine ⟨last, hlast, ?_, hvalue⟩
  rw [requests_run, hevents, requests_course, List.length_replicate]

/-- With one attempt more to spare, and the same outcomes, the request is sent
once more. -/
def GoesOn [Platform] (p : RetryPolicy) (r : Request) (outcomes : Nat → Outcome) (left : Nat) :
    Prop :=
  (run (inOrder outcomes) (attempts p r 0 (left + 1)) 0).requests.length
    = (run (inOrder outcomes) (attempts p r 0 left) 0).requests.length + 1

theorem goesOn_iff [Platform] {p : RetryPolicy} {r : Request} (hm : r.method = v.method)
    (h : IsLast v outcomes left last) :
    GoesOn p r outcomes left ↔ ¬ IsFinal v (outcomes last) := by
  obtain ⟨now, hnow, hnowSent, -⟩ := exists_isLast p hm outcomes left
  obtain ⟨more, hmore, hmoreSent, -⟩ := exists_isLast p hm outcomes (left + 1)
  obtain rfl : now = last := hnow.unique h
  unfold GoesOn
  rw [hnowSent, hmoreSent]
  by_cases hf : IsFinal v (outcomes now)
  · obtain rfl : more = now := hmore.unique (isLast_of_isFinal h hf)
    exact iff_of_false (by omega) (not_not_intro hf)
  · obtain rfl : more = now + 1 := hmore.unique (isLast_of_not_isFinal h hf)
    exact iff_of_true rfl hf

-- ============================================== requests to a path

/-- When a request that may be repeated ends with an error, whatever the
policy and the outcomes, that error may be gone the next time exactly when the
request would have been sent again after its last outcome, had an attempt been
left, or this outcome was a status without an error of its own: these are never
repeated. A path that leads nowhere is no such error, and nothing is sent. -/
theorem transient_as_repeated [Platform] (c : Client) (path : String) (hv : v ≠ .post)
    (params : List (String × String)) (payload : Payload) (outcomes : Nat → Outcome) {e : Error}
    (he : (run (inOrder outcomes) (c.execute v.method path params payload).run 0).value
      = .error e) :
    let p := c.settings.retry
    let sent := (run (inOrder outcomes) (c.execute v.method path params payload).run 0).requests
    (c.buildUrl path = .error e ∧ sent = [] ∧ e.isTransient = false)
      ∨ ∃ url last, c.buildUrl path = .ok url ∧ sent.length = last + 1
          ∧ answer (outcomes last) = .error e
          ∧ (e.isTransient = true
              ↔ GoesOn p (c.request v.method url params payload) outcomes p.maxRetries.toNat
                ∨ IsUnnamed (outcomes last))
          ∧ (IsUnnamed (outcomes last) →
              ¬ GoesOn p (c.request v.method url params payload) outcomes
                p.maxRetries.toNat) := by
  intro p sent
  cases hurl : c.buildUrl path with
  | error err =>
      have hrun : (c.execute v.method path params payload).run = .done (.error err) := by
        unfold execute
        rw [hurl]
        rfl
      obtain rfl : err = e := by
        rw [hrun] at he
        exact Except.error.inj he
      obtain ⟨text, rfl⟩ := eq_invalidEndpoint_of_buildUrl hurl
      refine Or.inl ⟨rfl, ?_, rfl⟩
      show (run _ (c.execute v.method path params payload).run 0).requests = []
      rw [hrun]
      rfl
  | ok url =>
      have hexecute : (c.execute v.method path params payload).run
          = attempts p (c.request v.method url params payload) 0 p.maxRetries.toNat :=
        execute_of_buildUrl hurl v.method params payload
      have hm := method_request c v.method url params payload
      obtain ⟨last, hlast, hsent, hvalue⟩ := exists_isLast p hm outcomes p.maxRetries.toNat
      have hanswer : answer (outcomes last) = .error e := by
        rw [← hvalue, ← hexecute]
        exact he
      refine Or.inr ⟨url, last, rfl, ?_, hanswer, ?_, ?_⟩
      · show (run _ (c.execute v.method path params payload).run 0).requests.length = _
        rw [hexecute, hsent]
      · rw [goesOn_iff hm hlast]
        exact isTransient_iff hv hanswer
      · rw [goesOn_iff hm hlast, not_not]
        exact isFinal_of_isUnnamed hv

section Stock

attribute [local instance] Stock.platform

/-- A controller that is a teapot is asked once, with all retries left, and its
error says that it may be asked again. -/
theorem transient_as_repeated_teapot :
    let url : Url := { onThisMachine.apiUrl with path := .segments ["dataservice".toList, ['x']] }
    let outcomes : Nat → Outcome := fun _ => .reply ⟨⟨418⟩, [], none⟩
    let e := Error.http "vManage error 418 I'm a teapot: Unknown error"
    Verb.get ≠ .post
      ∧ (run (inOrder outcomes) (onThisMachine.execute .get "x" [] {}).run 0).value = .error e
      ∧ e.isTransient = true
      ∧ ¬ GoesOn onThisMachine.settings.retry
          (onThisMachine.request .get url [] {}) outcomes 3 := by
  intro url outcomes e
  have hurl : onThisMachine.buildUrl "x" = .ok url := by rfl
  have herror : Error.ofReply ⟨418⟩ "Unknown error" = e := by decide +kernel
  have hvalue : (run (inOrder outcomes) (onThisMachine.execute .get "x" [] {}).run 0).value
      = .error e := by
    rw [← herror]
    have hexecute := execute_of_buildUrl hurl .get [] {}
    rw [show (onThisMachine.execute .get "x" [] {}).run = _ from hexecute]
    rfl
  have hunnamed : ∀ n, IsUnnamed (outcomes n) := fun n => ⟨_, rfl, rfl, by decide, rfl⟩
  rcases transient_as_repeated (v := .get) onThisMachine "x" (by decide) [] {} outcomes hvalue with
    ⟨-, -, hfinal⟩ | ⟨url', last, hurl', -, -, htransient, hnever⟩
  · cases hfinal
  · rw [hurl] at hurl'
    cases hurl'
    exact ⟨by decide, hvalue, htransient.mpr (Or.inr (hunnamed last)), hnever (hunnamed last)⟩

end Stock

end Sdwan.Client
