/-
Only models that pass their checks are sent, and what is sent of them can be
read back.

# One form for nine operations

The operations that carry a model differ in the model, the endpoint and the
answer. They agree in what they do first: a guard looks at the model, or at
every model of several, and only behind it there is a call
(`Submission.action_eq`). So it is enough to know when the guard is passed
(`guard_of_valid`, `guard_of_not_valid`) and which document the call
carries (`allSent_call`).

# From the document to the model

A document on the wire was written behind the guard. Its model is therefore
valid, and the JSON forms of the models are faithful: reading the document
gives this very model again (`readsBack_document`). Redirects do not
change that, since they repeat a body or leave it out.
-/
import Sdwan.Policy.Client
import Sdwan.Proofs.Api.Attempts
import Sdwan.Proofs.Api.Requests
import Sdwan.Proofs.Models
import Sdwan.Tenant.Client

namespace Sdwan

open Json Http Http.Dialogue Policy Validation

-- ============================================== the operations

/-- An operation that sends a model, with its arguments. -/
inductive Submission where
  | createList {k : ListKind} (c : ListClient k) (list : PolicyList k)
  | editList {k : ListKind} (c : ListClient k) (id : ListId) (payload : ListEdit k)
  | previewList {k : ListKind} (c : ListClient k) (list : PolicyList k)
  | createDefinition (c : DefinitionClient) (set : RuleSet)
  | editDefinition (c : DefinitionClient) (id : DefinitionId) (payload : DefinitionEdit)
  | editMultiple (c : DefinitionClient) (id : DefinitionId) (payload : DefinitionEdit)
  | previewDefinition (c : DefinitionClient) (set : RuleSet)
  | saveInBulk (c : DefinitionClient) (payloads : List DefinitionEdit)
  | exportTenant (c : MigrationClient) (t : Tenant)

namespace Submission

/-- What an operation answers. -/
def Answer : Submission → Type
  | createList _ _ => ListCreated
  | editList _ _ _ => Unit
  | previewList _ _ => ListPreview
  | createDefinition _ _ => DefinitionCreated
  | editDefinition _ _ _ => DefinitionEdited
  | editMultiple _ _ _ => DefinitionEdited
  | previewDefinition _ _ => DefinitionPreview
  | saveInBulk _ _ => Unit
  | exportTenant _ _ => Migration.Export

/-- What an operation does. -/
def action [Platform] : (op : Submission) → Action op.Answer
  | createList c list => c.create list
  | editList c id payload => c.edit id payload
  | previewList c list => c.preview list
  | createDefinition c set => c.create set
  | editDefinition c id payload => c.edit id payload
  | editMultiple c id payload => c.editMultiple id payload
  | previewDefinition c set => c.preview set
  | saveInBulk c payloads => c.saveInBulk payloads
  | exportTenant c t => c.exportTenant t

/-- The model of an operation passes its checks; of several, every one. -/
def Valid [Platform] : Submission → Prop
  | createList _ list | previewList _ list => check list = []
  | editList _ _ payload => check payload.list = []
  | createDefinition _ set | previewDefinition _ set => check set = []
  | editDefinition _ _ payload | editMultiple _ _ payload => check payload.definition = []
  | saveInBulk _ payloads => ∀ p ∈ payloads, check p.definition = []
  | exportTenant _ t => check t = []

/-- The document is read as the model of the operation, and the model passes
its checks. -/
def ReadsBack [Platform] : Submission → Json → Prop
  | createList _ list, j | previewList _ list, j => decode j = .ok list ∧ check list = []
  | editList _ _ payload, j => decode j = .ok payload ∧ check payload.list = []
  | createDefinition _ set, j | previewDefinition _ set, j => decode j = .ok set ∧ check set = []
  | editDefinition _ _ payload, j | editMultiple _ _ payload, j =>
      decode j = .ok payload ∧ check payload.definition = []
  | saveInBulk _ payloads, j => decode j = .ok payloads ∧ ∀ p ∈ payloads, check p.definition = []
  | exportTenant _ t, j => decode j = .ok t ∧ check t = []

/-- The body is a document of that kind. -/
def Carries [Platform] (op : Submission) (b : Body) : Prop := ∃ j, b = .json j ∧ op.ReadsBack j

/-- Operations one after the other, whatever they answer. -/
def inTurn [Platform] : List Submission → Dialogue Unit
  | [] => .done ()
  | op :: ops => op.action.run.bind fun _ => inTurn ops

-- ============================================== guard and call

/-- What an operation asks of its model before anything else. -/
def guard [Platform] : Submission → Result Unit
  | createList _ list | previewList _ list => requireValid list
  | editList _ _ payload => requireValid payload.list
  | createDefinition _ set | previewDefinition _ set => requireValid set
  | editDefinition _ _ payload | editMultiple _ _ payload => requireValid payload.definition
  | saveInBulk _ payloads => DefinitionClient.requireAllValid payloads
  | exportTenant _ t => requireValid t

/-- The document of its model. -/
def document : Submission → Json
  | createList _ list | previewList _ list => encode list
  | editList _ _ payload => encode payload
  | createDefinition _ set | previewDefinition _ set => encode set
  | editDefinition _ _ payload | editMultiple _ _ payload => encode payload
  | saveInBulk _ payloads => encode payloads
  | exportTenant _ t => encode t

/-- An operation is its guard, and behind it a call that carries the
document. -/
theorem action_eq [Platform] (op : Submission) :
    ∃ call : Action op.Answer, (op.action = liftM op.guard >>= fun _ => call)
      ∧ AllSent (fun r => r.body = .json op.document) call.run := by
  cases op with
  | createList => exact ⟨_, rfl, Client.allSent_callJson _ _ ListCreated _ _ _⟩
  | editList => exact ⟨_, rfl, Client.allSent_callEmpty _ _ _ _ _⟩
  | previewList => exact ⟨_, rfl, Client.allSent_callJson _ _ ListPreview _ _ _⟩
  | createDefinition => exact ⟨_, rfl, Client.allSent_callJson _ _ DefinitionCreated _ _ _⟩
  | editDefinition | editMultiple =>
      exact ⟨_, rfl, Client.allSent_callJson _ _ DefinitionEdited _ _ _⟩
  | previewDefinition => exact ⟨_, rfl, Client.allSent_callJson _ _ DefinitionPreview _ _ _⟩
  | saveInBulk => exact ⟨_, rfl, Client.allSent_callEmpty _ _ _ _ _⟩
  | exportTenant => exact ⟨_, rfl, Client.allSent_callJson _ _ Migration.Export _ _ _⟩

/-- All definitions are let through when each of them is. -/
theorem requireAllValid_of_nil {payloads : List DefinitionEdit}
    (h : ∀ p ∈ payloads, check p.definition = []) :
    DefinitionClient.requireAllValid payloads = .ok () := by
  induction payloads with
  | nil => rfl
  | cons p ps ih =>
      obtain ⟨hp, hps⟩ := List.forall_mem_cons.mp h
      rw [DefinitionClient.requireAllValid, requireValid_of_nil hp, ih hps]
      rfl

/-- None is let through when there is one that is not. -/
theorem requireAllValid_of_not {payloads : List DefinitionEdit}
    (h : ¬ ∀ p ∈ payloads, check p.definition = []) :
    ∃ text, DefinitionClient.requireAllValid payloads = .error (.validation text) := by
  induction payloads with
  | nil => exact absurd (List.forall_mem_nil _) h
  | cons p ps ih =>
      rw [List.forall_mem_cons] at h
      rw [DefinitionClient.requireAllValid]
      by_cases hp : check p.definition = []
      · obtain ⟨text, hps⟩ := ih fun hps => h ⟨hp, hps⟩
        refine ⟨text, ?_⟩
        rw [requireValid_of_nil hp, hps]
        rfl
      · refine ⟨(check p.definition).text, ?_⟩
        rw [requireValid_of_ne hp]
        rfl

variable {op : Submission}

/-- The guard lets a valid model through. -/
theorem guard_of_valid [Platform] (h : op.Valid) : op.guard = .ok () := by
  cases op with
  | saveInBulk c payloads => exact requireAllValid_of_nil h
  | createList | previewList | editList => exact requireValid_of_nil h
  | createDefinition | previewDefinition => exact requireValid_of_nil h
  | editDefinition | editMultiple => exact requireValid_of_nil h
  | exportTenant => exact requireValid_of_nil h

/-- It refuses every other model. -/
theorem guard_of_not_valid [Platform] (h : ¬ op.Valid) :
    ∃ text, op.guard = .error (.validation text) := by
  cases op with
  | saveInBulk c payloads => exact requireAllValid_of_not h
  | createList | previewList | editList => exact ⟨_, requireValid_of_ne h⟩
  | createDefinition | previewDefinition => exact ⟨_, requireValid_of_ne h⟩
  | editDefinition | editMultiple => exact ⟨_, requireValid_of_ne h⟩
  | exportTenant => exact ⟨_, requireValid_of_ne h⟩

/-- An operation on another model is over at once. -/
theorem refuses_of_not_valid [Platform] (h : ¬ op.Valid) : op.action.Refuses := by
  obtain ⟨text, hguard⟩ := guard_of_not_valid h
  obtain ⟨call, hcall, -⟩ := op.action_eq
  rw [hcall, hguard]
  exact ⟨text, Action.run_error_bind _ _⟩

/-- The document of a valid model is read as the model. -/
theorem readsBack_document [Platform] (h : op.Valid) : op.ReadsBack op.document := by
  cases op with
  | createList | previewList | editList => exact ⟨decode_encode _, h⟩
  | createDefinition | previewDefinition => exact ⟨decode_encode _, h⟩
  | editDefinition | editMultiple => exact ⟨decode_encode _, h⟩
  | saveInBulk => exact ⟨decode_encode _, h⟩
  | exportTenant => exact ⟨decode_encode _, h⟩

-- ============================================== runs

/-- Every request of an operation carries a document that is read as its
model. An operation whose model is not valid has no request. -/
theorem allSent_action [Platform] (op : Submission) :
    AllSent (fun r => op.Carries r.body) op.action.run := by
  by_cases h : op.Valid
  · obtain ⟨call, hcall, hsent⟩ := op.action_eq
    rw [hcall, guard_of_valid h, Action.ok_bind]
    exact hsent.imp fun r hr => ⟨op.document, hr, readsBack_document h⟩
  · obtain ⟨text, hrefused⟩ := refuses_of_not_valid h
    rw [hrefused]
    exact .done _

/-- Every request of operations in turn carries one for one of them. -/
theorem allSent_inTurn [Platform] (ops : List Submission) :
    AllSent (fun r => ∃ op ∈ ops, op.Carries r.body) (inTurn ops) := by
  induction ops with
  | nil => exact .done ()
  | cons op ops ih =>
      refine AllSent.bind (op.allSent_action.imp ?_) fun _ => ih.imp ?_
      · intro r hr
        exact ⟨op, List.mem_cons_self, hr⟩
      · rintro r ⟨op', hmem, hr⟩
        exact ⟨op', List.mem_cons_of_mem op hmem, hr⟩

variable {σ : Type} (agent : Agent) (serve : Server σ) (s : σ)

/-- Whatever the server does and in whatever state it is, an operation on a
model that is not valid ends with a validation error and without a request,
and whichever operations follow one another, each body on the wire is read
as the valid model of one of them. -/
theorem sends_valid_only [Platform] :
    (∀ op : Submission, ¬ op.Valid →
      (∃ text, (run serve (agent.speak op.action.run) s).value.1 = .error (.validation text))
        ∧ (run serve (agent.speak op.action.run) s).requests = [])
    ∧ ∀ ops, ∀ r ∈ (run serve (agent.speak (inTurn ops)) s).requests,
        r.body = .empty ∨ ∃ op ∈ ops, op.Carries r.body := by
  refine ⟨fun op h => ?_, fun ops => ?_⟩
  · obtain ⟨text, hrefused⟩ := refuses_of_not_valid h
    rw [hrefused]
    exact ⟨⟨text, rfl⟩, rfl⟩
  · have hbodies : AllSent (fun r => r.body = .empty ∨ ∃ op ∈ ops, op.Carries r.body)
        (inTurn ops) := (allSent_inTurn ops).imp fun _ => Or.inr
    exact (Agent.allSent_speak (P := fun b => b = .empty ∨ ∃ op ∈ ops, op.Carries b) (Or.inl rfl)
      agent hbodies).run serve s

/-- Rules of which the last one names its protocols twice. -/
def twiceNamed : RuleSet :=
  (RuleSet.new "web").addRule (((Rule.ipv4 2).withProtocols [6]).withProtocolNames ["https"])

section Stock

attribute [local instance] Stock.platform

/-- Of two definitions, the one that passes is not saved alone. -/
theorem sends_valid_only_bulk :
    let id : DefinitionId := ⟨⟨List.replicate 32 0, rfl⟩⟩
    let op := saveInBulk ⟨Client.onThisMachine⟩ [⟨RuleSet.new "web", id⟩, ⟨twiceNamed, id⟩]
    let serve : Server Nat := inOrder fun _ => .reply ⟨⟨200⟩, [], some []⟩
    let r := run serve (Agent.speak ⟨"agent", false, []⟩ op.action.run) 0
    check (RuleSet.new "web") = [] ∧ check twiceNamed ≠ []
      ∧ (∃ text, r.value.1 = .error (.validation text)) ∧ r.requests = [] := by
  intro id op serve r
  have hbad : check twiceNamed ≠ [] := by decide
  have hop : ¬ op.Valid := by
    intro h
    exact hbad (h ⟨twiceNamed, id⟩ (List.mem_cons_of_mem _ List.mem_cons_self))
  obtain ⟨hvalue, hrequests⟩ := (sends_valid_only ⟨"agent", false, []⟩ serve 0).1 op hop
  exact ⟨by decide, hbad, hvalue, hrequests⟩

end Stock

end Submission

end Sdwan
