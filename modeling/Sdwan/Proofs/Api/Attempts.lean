/-
How often a request is sent, and when.

# The rule

An outcome is *final* for a verb when the verb may not be repeated after
it (`IsFinal`): a success always; for a post everything but the two
statuses by which a controller turns a request away and the failures that
leave it unsent; for the other verbs every other status. The attempts end
with the first final outcome, or with the one that uses up the retries.

# The induction

`attempts` counts down the retries that are left while the server counts
up its outcomes. The run lemma (`run_attempts`) therefore starts at any
outcome `n` and with any number of attempts behind it, and shifts both by
one from each attempt to the next. What one attempt does depends on
`judge` alone, and `judge_of_isFinal` and `judge_of_not_isFinal` are all
that is said about it.
-/
import Mathlib.Algebra.Group.Nat.Defs
import Mathlib.Order.Bounds.Basic
import Sdwan.Api.Client
import Sdwan.Proofs.Http.Events
import Sdwan.Stock

namespace Sdwan.Client

open Http Http.Dialogue

-- ============================================== outcomes

/-- No attempt follows an outcome that is final for the verb. -/
def IsFinal (v : Verb) (o : Outcome) : Prop :=
  (∃ r, o = .reply r ∧ r.status.isSuccess = true)
    ∨ match v with
      | .post =>
        o ≠ .refused ∧ o ≠ .unreachable
          ∧ ∀ r, o = .reply r → r.status.code ≠ 429 ∧ r.status.code ≠ 503
      | .get | .put | .delete =>
        ∃ r, o = .reply r ∧ r.status.code ≠ 429
          ∧ ¬ (500 ≤ r.status.code ∧ r.status.code ≤ 599)

/-- What a call gives when an outcome is its last: the reply of a success,
else the error that the outcome is mapped to. -/
def answer [Platform] : Outcome → Result Reply
  | .reply r =>
    if r.status.isSuccess then .ok r
    else .error (.ofReply r.status (r.text?.getD "Unknown error"))
  | o => .error (.ofFailure o)

/-- The controller has turned the request away, or has not seen it. -/
def Untouched (o : Outcome) : Prop :=
  o = .refused ∨ o = .unreachable
    ∨ ∃ r, o = .reply r ∧ (r.status.code = 429 ∨ r.status.code = 503)

theorem isIdempotent_method (v : Verb) : isIdempotent v.method = (v != .post) := by
  cases v <;> rfl

/-- A post that is not over was turned away or never arrived. -/
theorem untouched_of_not_isFinal {o : Outcome} (h : ¬ IsFinal .post o) : Untouched o := by
  unfold IsFinal at h
  rw [not_or] at h
  by_contra hn
  unfold Untouched at hn
  rw [not_or, not_or] at hn
  refine h.2 ⟨hn.1, hn.2.1, fun r hr => ?_⟩
  by_contra hc
  refine hn.2.2 ⟨r, hr, ?_⟩
  by_cases h429 : r.status.code = 429
  · exact Or.inl h429
  · refine Or.inr (by_contra fun h503 => hc ⟨h429, h503⟩)

-- ============================================== one attempt

/-- The statuses that are worth another attempt, in terms of `IsFinal`. -/
theorem isRetryable_iff {v : Verb} {r : Reply} (hr : r.status.isSuccess = false) :
    isRetryable r.status (v != .post) = true ↔ ¬ IsFinal v (.reply r) := by
  have hsucc : ¬ ∃ r', Outcome.reply r = .reply r' ∧ r'.status.isSuccess = true := by
    rintro ⟨r', hr', h⟩
    injection hr' with hr'
    rw [← hr', hr] at h
    cases h
  unfold IsFinal
  rw [or_iff_right hsucc]
  cases v with
  | post =>
      simp [isRetryable]
      omega
  | get | put | delete =>
      simp [isRetryable, Status.isServerError]
      omega

/-- A final outcome ends the attempts with its answer. -/
theorem judge_of_isFinal [Platform] {v : Verb} {o : Outcome} (h : IsFinal v o) :
    (∃ r, judge (v != .post) o = .success r ∧ answer o = .ok r)
      ∨ ∃ e, judge (v != .post) o = .final e ∧ answer o = .error e := by
  cases o with
  | reply r =>
      cases hs : r.status.isSuccess with
      | true => exact Or.inl ⟨r, by simp [judge, hs], by simp [answer, hs]⟩
      | false =>
          have hretry : isRetryable r.status (v != .post) = false := by
            rw [← Bool.not_eq_true, isRetryable_iff hs]
            exact not_not_intro h
          refine Or.inr ⟨.ofReply r.status (r.text?.getD "Unknown error"), ?_, ?_⟩
          · simp [judge, hs, hretry]
          · simp [answer, hs]
  | refused | unreachable => cases v <;> simp [IsFinal] at h
  | timedOut | broken =>
      cases v with
      | post => exact Or.inr ⟨_, rfl, rfl⟩
      | get | put | delete => simp [IsFinal] at h

/-- Any other outcome leaves room for another attempt; without one, its
answer is the error. -/
theorem judge_of_not_isFinal [Platform] {v : Verb} {o : Outcome} (h : ¬ IsFinal v o) :
    ∃ e, judge (v != .post) o = .again e ∧ answer o = .error e := by
  cases o with
  | reply r =>
      have hs : r.status.isSuccess = false := by
        rw [← Bool.not_eq_true]
        exact fun hs => h (Or.inl ⟨r, rfl, hs⟩)
      refine ⟨.ofReply r.status (r.text?.getD "Unknown error"), ?_, ?_⟩
      · simp [judge, hs, (isRetryable_iff hs).mpr h]
      · simp [answer, hs]
  | refused | unreachable => exact ⟨_, rfl, rfl⟩
  | timedOut | broken =>
      cases v with
      | post => exact absurd (by simp [IsFinal]) h
      | get | put | delete => exact ⟨_, rfl, rfl⟩

-- ============================================== all attempts

/-- What is seen of a request that is sent once more `again` times, after
`attempt` attempts. -/
def course (p : RetryPolicy) (r : Request) (attempt again : Nat) : List Event :=
  .sent r :: (List.range again).flatMap fun i => [.waited (p.delay (attempt + i + 1)), .sent r]

/-- One attempt more in front. -/
theorem course_succ (p : RetryPolicy) (r : Request) (attempt again : Nat) :
    course p r attempt (again + 1)
      = .sent r :: .waited (p.delay (attempt + 1)) :: course p r (attempt + 1) again := by
  unfold course
  rw [List.range_succ_eq_map, List.flatMap_cons, List.flatMap_map]
  simp only [Nat.add_zero, List.cons_append, List.nil_append, List.cons.injEq, true_and]
  refine congrArg (fun f => (List.range again).flatMap f) (funext fun i => ?_)
  rw [show attempt + (i + 1) + 1 = attempt + 1 + i + 1 by omega]

/-- How many attempts come after the first: as many as are left, or fewer
if an outcome before is final. -/
def IsLast (v : Verb) (outcomes : Nat → Outcome) (left last : Nat) : Prop :=
  IsLeast {n | n = left ∨ IsFinal v (outcomes n)} last

/-- A final outcome at the start is the last one. -/
theorem isLast_zero {v : Verb} {outcomes : Nat → Outcome} {left : Nat}
    (h : left = 0 ∨ IsFinal v (outcomes 0)) : IsLast v outcomes left 0 :=
  ⟨h.imp_left Eq.symm, fun _ _ => Nat.zero_le _⟩

/-- Behind an outcome that is not final, the last one is that of the
attempts that follow. -/
theorem isLast_succ {v : Verb} {outcomes : Nat → Outcome} {left last : Nat}
    (h₀ : ¬ IsFinal v (outcomes 0)) (h : IsLast v (fun i => outcomes (i + 1)) left last) :
    IsLast v outcomes (left + 1) (last + 1) := by
  refine ⟨?_, ?_⟩
  · rcases h.1 with hl | hf
    · exact Or.inl (by rw [hl])
    · exact Or.inr hf
  · rintro (_ | n) hn
    · rcases hn with hl | hf
      · omega
      · exact absurd hf h₀
    · refine Nat.succ_le_succ (h.2 ?_)
      rcases hn with hl | hf
      · exact Or.inl (by omega)
      · exact Or.inr hf

/-- The attempts at a request with a server whose next outcome is the one
with the number `n`: how many there are, what is seen of them, and that
only the last outcome decides what they give. -/
theorem run_attempts [Platform] (p : RetryPolicy) {r : Request} {v : Verb}
    (hm : r.method = v.method) (outcomes : Nat → Outcome) :
    ∀ (left attempt n : Nat), ∃ last,
      IsLast v (fun i => outcomes (n + i)) left last
        ∧ events (inOrder outcomes) (attempts p r attempt left) n = course p r attempt last
        ∧ (run (inOrder outcomes) (attempts p r attempt left) n).value
            = answer (outcomes (n + last)) := by
  intro left
  induction left with
  | zero =>
      intro attempt n
      refine ⟨0, isLast_zero (Or.inl rfl), ?_⟩
      rw [attempts, events_inOrder_send, run_inOrder_send, hm, isIdempotent_method]
      by_cases hf : IsFinal v (outcomes n)
      · rcases judge_of_isFinal hf with ⟨reply, hj, ha⟩ | ⟨e, hj, ha⟩
        · rw [hj]
          exact ⟨rfl, ha.symm⟩
        · rw [hj]
          exact ⟨rfl, ha.symm⟩
      · obtain ⟨e, hj, ha⟩ := judge_of_not_isFinal hf
        rw [hj]
        exact ⟨rfl, ha.symm⟩
  | succ left ih =>
      intro attempt n
      rw [attempts, events_inOrder_send, run_inOrder_send, hm, isIdempotent_method]
      by_cases hf : IsFinal v (outcomes n)
      · refine ⟨0, isLast_zero (Or.inr hf), ?_⟩
        rcases judge_of_isFinal hf with ⟨reply, hj, ha⟩ | ⟨e, hj, ha⟩
        · rw [hj]
          exact ⟨rfl, ha.symm⟩
        · rw [hj]
          exact ⟨rfl, ha.symm⟩
      · obtain ⟨e, hj, -⟩ := judge_of_not_isFinal hf
        obtain ⟨last, hlast, hev, hval⟩ := ih (attempt + 1) (n + 1)
        have hshift : ∀ i, n + 1 + i = n + (i + 1) := fun i => by omega
        simp only [hshift] at hlast hval
        refine ⟨last + 1, isLast_succ hf hlast, ?_, ?_⟩
        · rw [hj, course_succ, ← hev]
          rfl
        · rw [hj, ← hval]
          rfl

-- ============================================== requests to a path

/-- Behind its path, a request is its attempts. -/
theorem execute_of_buildUrl [Platform] {c : Client} {path : String} {url : Url}
    (hurl : c.buildUrl path = .ok url) (m : Method) (params : List (String × String))
    (payload : Payload) :
    c.execute m path params payload
      = attempts c.settings.retry (c.request m url params payload) 0
          c.settings.retry.maxRetries.toNat := by
  unfold execute
  rw [hurl]
  rfl

theorem method_request (c : Client) (m : Method) (url : Url) (params : List (String × String))
    (payload : Payload) : (c.request m url params payload).method = m := by
  unfold request
  cases c.session.xsrfToken <;> cases c.session.vsessionId <;> cases payload.accept <;> rfl

theorem url_request (c : Client) (m : Method) (url : Url) (params : List (String × String))
    (payload : Payload) :
    (c.request m url params payload).url = url.appendQuery params := by
  unfold request
  cases c.session.xsrfToken <;> cases c.session.vsessionId <;> cases payload.accept <;> rfl

/-- A course sends its request once and then as often as it says. -/
theorem requests_course (p : RetryPolicy) (r : Request) (attempt again : Nat) :
    (course p r attempt again).filterMap Event.request? = List.replicate (again + 1) r := by
  induction again generalizing attempt with
  | zero => rfl
  | succ again ih =>
      rw [course_succ, List.replicate_succ, ← ih (attempt + 1)]
      rfl

/-- The number of attempts, counted from one: the retries and the first
attempt together, or the place of the first final outcome if that is
smaller. -/
theorem isLeast_of_isLast {v : Verb} {outcomes : Nat → Outcome} {left last : Nat}
    (h : IsLast v outcomes left last) :
    IsLeast {n | n = left + 1 ∨ 0 < n ∧ IsFinal v (outcomes (n - 1))} (last + 1) := by
  refine ⟨?_, ?_⟩
  · rcases h.1 with hl | hf
    · exact Or.inl (by rw [hl])
    · exact Or.inr ⟨Nat.succ_pos _, hf⟩
  · rintro n (hl | ⟨hpos, hf⟩)
    · have := h.2 (Or.inl rfl : left ∈ {n | n = left ∨ IsFinal v (outcomes n)})
      omega
    · have := h.2 (Or.inr hf : n - 1 ∈ {n | n = left ∨ IsFinal v (outcomes n)})
      omega

/-- Whatever a controller answers, a request to a path is sent `k` times:
once more than there are retries, or up to the first final outcome. It is
the same request every time, the wait before each repetition is that of
the policy, the outcome with the number `k` alone decides the result, and
a post that the controller may have carried out is never repeated. -/
theorem execute_course [Platform] {c : Client} {path : String} {url : Url}
    (hurl : c.buildUrl path = .ok url)
    (hmax : c.settings.retry.maxRetries.toNat < 2 ^ 32 - 1)
    (v : Verb) (params : List (String × String)) (payload : Payload)
    (outcomes : Nat → Outcome) :
    let p := c.settings.retry
    let r := c.request v.method url params payload
    let d := (c.execute v.method path params payload).run
    r.method = v.method ∧ r.url = url.appendQuery params
      ∧ ∃ k,
        IsLeast {n | n = p.maxRetries.toNat + 1 ∨ 0 < n ∧ IsFinal v (outcomes (n - 1))} k
          ∧ k < UInt32.size
          ∧ events (inOrder outcomes) d 0
              = .sent r :: (List.range (k - 1)).flatMap (fun i =>
                  [.waited (p.delay (i + 1)), .sent r])
          ∧ (run (inOrder outcomes) d 0).requests = List.replicate k r
          ∧ (run (inOrder outcomes) d 0).value = answer (outcomes (k - 1))
          ∧ (v = .post → ∀ i, i + 1 < k → Untouched (outcomes i)) := by
  intro p r d
  have hd : d = attempts p r 0 p.maxRetries.toNat := execute_of_buildUrl hurl _ params payload
  have hm : r.method = v.method := method_request c _ url params payload
  refine ⟨hm, url_request c _ url params payload, ?_⟩
  obtain ⟨last, hlast, hev, hval⟩ := run_attempts p hm outcomes p.maxRetries.toNat 0 0
  simp only [Nat.zero_add] at hlast hval
  have hleast := isLeast_of_isLast hlast
  refine ⟨last + 1, hleast, ?_, ?_, ?_, ?_, ?_⟩
  · have hle : last ≤ p.maxRetries.toNat := hlast.2 (Or.inl rfl)
    have hlt : p.maxRetries.toNat < 2 ^ 32 - 1 := hmax
    show last + 1 < 2 ^ 32
    omega
  · rw [hd, hev, Nat.add_sub_cancel]
    unfold course
    simp only [Nat.zero_add]
  · rw [hd, requests_run, hev, requests_course]
  · rw [hd, hval, Nat.add_sub_cancel]
  · rintro rfl i hi
    refine untouched_of_not_isFinal fun hf => ?_
    have : last ≤ i := hlast.2 (Or.inr hf)
    omega

/-- A client of a controller on this machine, with the usual retries. -/
def onThisMachine : Client where
  hostUrl := { scheme := "http".toList, host := some (.domain "localhost".toList)
               path := .segments [[]] }
  apiUrl := { scheme := "http".toList, host := some (.domain "localhost".toList)
              path := .segments ["dataservice".toList, []] }
  settings := {}
  userAgent := "tests"
  pinnedVersion := none
  session := {}

section Stock

attribute [local instance] Stock.platform

/-- A post that meets a busy controller twice, and then one that carries
it out. -/
theorem execute_course_busy :
    let url : Url := { onThisMachine.apiUrl with path := .segments ["dataservice".toList, ['x']] }
    let outcomes : Nat → Outcome := fun n => .reply ⟨⟨if n < 2 then 503 else 200⟩, [], some []⟩
    let r := onThisMachine.request .post url [] {}
    let d := (onThisMachine.execute .post "x" [] {}).run
    onThisMachine.buildUrl "x" = .ok url
      ∧ onThisMachine.settings.retry.maxRetries.toNat < 2 ^ 32 - 1
      ∧ events (inOrder outcomes) d 0
          = [.sent r, .waited 500, .sent r, .waited 1000, .sent r]
      ∧ (run (inOrder outcomes) d 0).value = .ok ⟨⟨200⟩, [], some []⟩ := by
  intro url outcomes r d
  have hurl : onThisMachine.buildUrl "x" = .ok url := by rfl
  have hmax : onThisMachine.settings.retry.maxRetries.toNat < 2 ^ 32 - 1 := by decide
  obtain ⟨-, -, k, hk, -, hev, -, hval, -⟩ := execute_course hurl hmax .post [] {} outcomes
  have hthree : k = 3 := by
    have hle : k ≤ 3 := hk.2 (Or.inr ⟨by decide, Or.inl ⟨_, rfl, rfl⟩⟩)
    rcases hk.1 with hmost | ⟨hpos, hfinal⟩
    · have : k = 4 := hmost
      omega
    · by_contra hne
      have hbusy : outcomes (k - 1) = .reply ⟨⟨503⟩, [], some []⟩ := by
        show Outcome.reply ⟨⟨if k - 1 < 2 then 503 else 200⟩, [], some []⟩ = _
        rw [if_pos (by omega)]
      rw [hbusy] at hfinal
      simp [IsFinal, Status.isSuccess] at hfinal
  subst hthree
  exact ⟨hurl, hmax, hev, hval⟩

end Stock

end Sdwan.Client
