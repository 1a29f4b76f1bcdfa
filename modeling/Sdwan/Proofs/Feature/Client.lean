/-
What decides whether an interface template is sent.

A template is sent as a payload: its header, and the definition that was
made of its settings. The payload is what the client checks, and its checks
are about the header (`check_payload`). The checks of the settings
themselves (`Interface.check`) are not made on the way, so they have no
part in what is refused: settings that break them are sent like any others
when the header is in order (`header_decides`).
-/
import Sdwan.Feature.Client
import Sdwan.Feature.Interface.Basic
import Sdwan.Proofs.Api.Attempts
import Sdwan.Proofs.Api.Requests
import Sdwan.Proofs.Validation.Check

namespace Sdwan.Feature

open Http Http.Dialogue Json Validation

-- ============================================== headers

namespace Interface

/-- The header of a template is in order: a name and a description of the
right lengths, and at least one device. -/
structure Headed (i : Interface) : Prop where
  name : 1 ≤ i.templateName.length ∧ i.templateName.length ≤ 128
  description : 1 ≤ i.templateDescription.length ∧ i.templateDescription.length ≤ 2048
  devices : i.devices ≠ []

/-- The payload of a template. -/
def payload (i : Interface) : Payload where
  name := i.templateName
  description := i.templateDescription
  kind := "cisco_vpn_interface"
  devices := i.devices
  minVersion := "15.0.0"
  definition := .object (definition places (members.write i))
  factoryDefault := false

/-- The payload of the template is that of the interface. -/
theorem template_payload (i : Interface) : i.template.payload = .ok i.payload := rfl

/-- The payload passes its checks exactly when the header is in order. -/
theorem check_payload (i : Interface) : Checked.check i.payload = [] ↔ i.Headed := by
  have hchecks : Checked.check i.payload = [] ↔
      (onLength "template_name" (some 1) (some 128) i.templateName = []
        ∧ onLength "template_description" (some 1) (some 2048) i.templateDescription = [])
        ∧ onCount "device_type" (some 1) none i.devices.length (encode i.devices) = [] := by
    rw [← List.append_eq_nil_iff, ← List.append_eq_nil_iff]
    rfl
  rw [hchecks, onLength_eq_nil, onLength_eq_nil, onCount_eq_nil, within_eq_true, within_eq_true,
    within_eq_true]
  simp only [Option.some.injEq, forall_eq', reduceCtorEq, false_implies, implies_true, and_true]
  constructor
  · rintro ⟨⟨hname, hdescription⟩, hdevices⟩
    exact ⟨hname, hdescription, List.length_pos_iff.mp hdevices⟩
  · rintro ⟨hname, hdescription, hdevices⟩
    exact ⟨⟨hname, hdescription⟩, List.length_pos_iff.mpr hdevices⟩

end Interface

-- ============================================== runs

namespace TemplateClient

variable {α σ : Type}

/-- A template with a header in order is let through. -/
theorem validPayload_of_headed {i : Interface} (h : i.Headed) :
    validPayload i.template = .ok i.payload := by
  rw [validPayload, i.template_payload]
  show (requireValid i.payload >>= fun _ => Except.ok i.payload) = .ok i.payload
  rw [requireValid_of_nil (i.check_payload.mpr h)]
  rfl

/-- Any other is refused, with the report of the payload. -/
theorem validPayload_of_not_headed {i : Interface} (h : ¬ i.Headed) :
    validPayload i.template = .error (.validation (check i.payload).text) := by
  rw [validPayload, i.template_payload]
  show (requireValid i.payload >>= fun _ => Except.ok i.payload) = _
  rw [requireValid_of_ne (mt i.check_payload.mp h)]
  rfl

/-- A run that ended with a failed check and sent nothing. -/
def Refused (r : Run σ (Result α)) : Prop :=
  (∃ text, r.value = .error (.validation text)) ∧ r.requests = []

/-- A run that opens with a request is not refused, nor is one whose path
leads nowhere. -/
theorem not_refused_of_opens [Platform] {c : Sdwan.Client} {path : String} {request : Url → Request}
    {r : Run σ (Result α)} (h : c.Opens path request r) : ¬ Refused r := by
  rintro ⟨⟨text, hvalue⟩, hrequests⟩
  cases hurl : c.buildUrl path with
  | ok url =>
      have hhead := h.1 url hurl
      rw [hrequests] at hhead
      cases hhead
  | error err =>
      obtain ⟨text', rfl⟩ := Sdwan.Client.eq_invalidEndpoint_of_buildUrl hurl
      have herr := (h.2 _ hurl).1
      rw [hvalue] at herr
      cases herr

-- ============================================== paths

/-- Where templates are made. -/
def createPath : String := "template/feature"

/-- Where a template is. -/
def editPath (id : TemplateId) : String :=
  String.ofList ("template/feature/".toList ++ (Url.Form.encodePart id.text.toList ++ []))

theorem renderPath_create : createEndpoint.renderPath [] = .ok createPath := rfl

/-- The path of a template has its id at the end, which needs no encoding. -/
theorem renderPath_edit (id : TemplateId) :
    editEndpoint.renderPath [("id", id.text)] = .ok (editPath id) := by
  have hpieces : Template.pieces none (editEndpoint.path.toList.dropWhile (· == '/'))
      = [.text "template/feature/".toList, .hole "id".toList] := by decide +kernel
  have hfill : Template.fill [("id", id.text)] [.text "template/feature/".toList, .hole "id".toList]
      = .ok ("template/feature/".toList ++ (Url.Form.encodePart id.text.toList ++ [])) := by
    simp only [Template.fill, Template.argument?, List.find?_cons_of_pos, beq_self_eq_true,
      Option.map_some, Except.map]
  rw [Endpoint.renderPath, hpieces, hfill]
  rfl

-- ============================================== sending templates

/-- The request that makes a template, at a URL. -/
def createRequest (c : TemplateClient) (i : Interface) (url : Url) : Request :=
  c.client.request .post url [] (Sdwan.Client.jsonPayload (encode i.payload))

/-- The request that changes a template, at a URL. -/
def editRequest (c : TemplateClient) (i : Interface) (url : Url) : Request :=
  c.client.request .put url [] { body := .json (encode i.payload) }

/-- Creating a template begins with the request that has it in the body. -/
theorem opens_create [Platform] {i : Interface} (h : i.Headed) (c : TemplateClient)
    (serve : Server σ) (s : σ) :
    c.client.Opens createPath (c.createRequest i) (run serve (c.create i.template).run s) := by
  unfold create
  rw [validPayload_of_headed h, Action.ok_bind]
  unfold Sdwan.Client.callJson Sdwan.Client.callWith
  refine Sdwan.Client.opens_bind (Sdwan.Client.opens_bind ?_ _) _
  exact Sdwan.Client.opens_call rfl renderPath_create c.client [] _ serve s

/-- So does editing one. -/
theorem opens_edit [Platform] {i : Interface} (h : i.Headed) (c : TemplateClient) (id : TemplateId)
    (serve : Server σ) (s : σ) :
    c.client.Opens (editPath id) (c.editRequest i)
      (run serve (c.edit id i.template).run s) := by
  unfold edit
  rw [validPayload_of_headed h, Action.ok_bind]
  refine Sdwan.Client.opens_bind ?_ _
  exact Sdwan.Client.opens_call rfl (renderPath_edit id) c.client [] _ serve s

/-- The header of an interface template alone decides whether the template
is refused. One whose header is not in order is refused and nothing is
sent. One whose header is in order is sent with the definition that was
made of its settings, whether or not these pass their own checks. -/
theorem header_decides [Platform] (c : TemplateClient) (i : Interface) (serve : Server σ) (s : σ) :
    let create := run serve (c.create i.template).run s
    let edit := fun id => run serve (c.edit id i.template).run s
    (Refused create ↔ ¬ i.Headed) ∧ (∀ id, Refused (edit id) ↔ ¬ i.Headed)
      ∧ (i.Headed →
        (∀ url, c.client.buildUrl createPath = .ok url →
          create.requests.head? = some (c.createRequest i url))
        ∧ ∀ id url, c.client.buildUrl (editPath id) = .ok url →
            (edit id).requests.head? = some (c.editRequest i url)) := by
  intro create edit
  by_cases h : i.Headed
  · have hcreate := opens_create h c serve s
    have hedit := fun id => opens_edit h c id serve s
    refine ⟨?_, fun id => ?_, fun _ => ⟨hcreate.1, fun id => (hedit id).1⟩⟩
    · exact iff_of_false (not_refused_of_opens hcreate) (not_not_intro h)
    · exact iff_of_false (not_refused_of_opens (hedit id)) (not_not_intro h)
  · have hpayload := validPayload_of_not_headed h
    have hcreate : Refused create := by
      refine Action.Refuses.run ⟨(check i.payload).text, ?_⟩ serve s
      rw [TemplateClient.create, hpayload]
      exact Action.run_error_bind _ _
    have hedit : ∀ id, Refused (edit id) := by
      intro id
      refine Action.Refuses.run ⟨(check i.payload).text, ?_⟩ serve s
      rw [TemplateClient.edit, hpayload]
      exact Action.run_error_bind _ _
    exact ⟨iff_of_true hcreate h, fun id => iff_of_true (hedit id) h, fun h' => absurd h' h⟩

/-- Settings with packets that are too small, under a header in order. -/
def smallPackets : Interface :=
  { templateName := "wan"
    templateDescription := "d"
    devices := [⟨"vedge-C8000V"⟩]
    name := "GigabitEthernet1"
    link := { mtu := some 100 } }

section Stock

attribute [local instance] Stock.platform

/-- The settings break their checks, and they are sent. -/
theorem header_decides_smallPackets :
    let c : TemplateClient := ⟨Sdwan.Client.onThisMachine⟩
    let url : Url := { c.client.apiUrl with
      path := .segments ["dataservice".toList, "template".toList, "feature".toList] }
    let serve := inOrder fun _ => .reply ⟨⟨200⟩, [], some []⟩
    let r := run serve (c.create smallPackets.template).run 0
    smallPackets.check = .ok (onRange "mtu" (some 576) (some 9216) 100)
      ∧ onRange "mtu" (some 576) (some 9216) 100 ≠ [] ∧ ¬ Refused r
      ∧ r.requests.head? = some (c.createRequest smallPackets url) := by
  intro c url serve r
  have hheaded : smallPackets.Headed := ⟨by decide, by decide, by decide⟩
  have hurl : c.client.buildUrl createPath = .ok url := by rfl
  obtain ⟨hrefused, -, hsent⟩ := header_decides c smallPackets serve 0
  refine ⟨by rfl, by decide, ?_, (hsent hheaded).1 url hurl⟩
  exact fun h => hrefused.mp h hheaded

end Stock

end TemplateClient

end Sdwan.Feature
