/-
What the calls of the policy clients are about.

What a call does, and to what, is its subject: a call without the document
that it sends. The subject decides the method, the path and the query, and it
can be read back from them (`Subject.read?_texts`). Kinds have different
names. An id stands where other operations have a word, but no word is the
text of an id (`Uuid.text_ne`), and the operations on marks are the only ones
with a query.
-/
import Sdwan.Policy.Client
import Sdwan.Proofs.Api.Queries
import Sdwan.Proofs.Net.Coded

namespace Sdwan

open Http Http.Dialogue Url Url.Form Template

-- ============================================== parts of a path

namespace Policy

/-- A segment of a path: a word, or the value of an argument. -/
inductive Part where
  | word (text : String)
  | value (name text : String)
deriving DecidableEq, Repr

namespace Part

def text : Part → String
  | word t => t
  | value _ t => t

def segment : Part → Segment
  | word t => .literal t.toList
  | value name _ => .hole name.toList

def argument? : Part → Option (String × String)
  | word _ => none
  | value name t => some (name, t)

/-- The words in the paths of policies. -/
def words : List String :=
  ["template", "policy", "list", "definition", "filtered", "preview", "multiple", "bulk"]

theorem encodePart_word : ∀ w ∈ words, encodePart w.toList = w.toList := by decide +kernel

/-- The part is written as it says, and stays where it is. -/
def Fits (args : List (String × String)) : Part → Prop
  | word t => t ∈ words
  | value name t => Template.argument? args name.toList = some t ∧ t ≠ "." ∧ t ≠ ".."

variable {args : List (String × String)} {parts : List Part}

theorem shows_of_fits (h : ∀ p ∈ parts, p.Fits args) :
    List.Forall₂ (Shows args) (parts.map segment)
      (parts.map fun p => encodePart p.text.toList) := by
  rw [List.forall₂_map_left_iff, List.forall₂_map_right_iff, List.forall₂_same]
  intro p hp
  cases p with
  | word t => exact encodePart_word t (h _ hp)
  | value name t => exact ⟨t, (h _ hp).1, rfl⟩

theorem contained_of_fits {w : String} (h : ∀ p ∈ parts, p.Fits args)
    (hhead : parts.head? = some (.word w)) : Contained args (parts.map segment) := by
  refine ⟨fun name hname => ?_, fun name s rest heq => ?_⟩
  · obtain ⟨p, hp, hsegment⟩ := List.mem_map.mp hname
    cases p with
    | word t => cases hsegment
    | value name' t =>
        obtain ⟨harg, hdot, hdots⟩ := h _ hp
        cases hsegment
        rw [harg]
        simp [hdot, hdots]
  · cases parts with
    | nil => cases heq
    | cons p parts =>
        cases hhead
        cases heq

end Part

-- ============================================== subjects

/-- What is done to the lists of one kind. -/
inductive ListAct where
  | create
  | delete (id : ListId)
  | deleteTagged (tag : InfoTag)
  | edit (id : ListId)
  | get (id : ListId)
  | all
  | tagged (tag : InfoTag)
  | preview
  | previewById (id : ListId)
deriving DecidableEq, Repr

namespace ListAct

def endpoint : ListAct → Endpoint
  | create => ListClient.createEndpoint
  | delete _ => ListClient.deleteEndpoint
  | deleteTagged _ => ListClient.deleteTaggedEndpoint
  | edit _ => ListClient.editEndpoint
  | get _ => ListClient.getEndpoint
  | all => ListClient.allEndpoint
  | tagged _ => ListClient.taggedEndpoint
  | preview => ListClient.previewEndpoint
  | previewById _ => ListClient.previewByIdEndpoint

/-- What the path has behind the kind. -/
def tail : ListAct → List Part
  | create | deleteTagged _ | all => []
  | delete id | edit id | get id => [.value "id" id.text]
  | tagged _ => [.word "filtered"]
  | preview => [.word "preview"]
  | previewById id => [.word "preview", .value "id" id.text]

def params : ListAct → List (String × String)
  | deleteTagged tag | tagged tag => tag.query
  | _ => []

/-- Reads an operation from the method, the texts behind the kind, and the
query. -/
def read? : Method → List String → List (String × String) → Option ListAct
  | .post, [], [] => some create
  | .delete, [w], [] => (Net.Uuid.parse? w).map fun u => delete ⟨u⟩
  | .delete, [], [p] => if p.1 = "infoTag" then some (deleteTagged ⟨p.2⟩) else none
  | .put, [w], [] => (Net.Uuid.parse? w).map fun u => edit ⟨u⟩
  | .get, [w], [] => (Net.Uuid.parse? w).map fun u => get ⟨u⟩
  | .get, [], [] => some all
  | .get, [w], [p] => if w = "filtered" ∧ p.1 = "infoTag" then some (tagged ⟨p.2⟩) else none
  | .post, [w], [] => if w = "preview" then some preview else none
  | .get, [v, w], [] =>
    if v = "preview" then (Net.Uuid.parse? w).map fun u => previewById ⟨u⟩ else none
  | _, _, _ => none

end ListAct

/-- What is done to definitions. -/
inductive DefinitionAct where
  | create
  | delete (id : DefinitionId)
  | editMultiple (id : DefinitionId)
  | edit (id : DefinitionId)
  | all
  | get (id : DefinitionId)
  | preview
  | previewById (id : DefinitionId)
  | saveInBulk
deriving DecidableEq, Repr

namespace DefinitionAct

def endpoint : DefinitionAct → Endpoint
  | create => DefinitionClient.createEndpoint
  | delete _ => DefinitionClient.deleteEndpoint
  | editMultiple _ => DefinitionClient.editMultipleEndpoint
  | edit _ => DefinitionClient.editEndpoint
  | all => DefinitionClient.allEndpoint
  | get _ => DefinitionClient.getEndpoint
  | preview => DefinitionClient.previewEndpoint
  | previewById _ => DefinitionClient.previewByIdEndpoint
  | saveInBulk => DefinitionClient.bulkEndpoint

/-- What the path has behind the kind. -/
def tail : DefinitionAct → List Part
  | create | all => []
  | delete id | edit id | get id => [.value "id" id.text]
  | editMultiple id => [.word "multiple", .value "id" id.text]
  | preview => [.word "preview"]
  | previewById id => [.word "preview", .value "id" id.text]
  | saveInBulk => [.word "bulk"]

/-- Reads an operation from the method and the texts behind the kind. -/
def read? : Method → List String → Option DefinitionAct
  | .post, [] => some create
  | .delete, [w] => (Net.Uuid.parse? w).map fun u => delete ⟨u⟩
  | .put, [v, w] =>
    if v = "multiple" then (Net.Uuid.parse? w).map fun u => editMultiple ⟨u⟩ else none
  | .put, [w] =>
    if w = "bulk" then some saveInBulk else (Net.Uuid.parse? w).map fun u => edit ⟨u⟩
  | .get, [] => some all
  | .get, [w] => (Net.Uuid.parse? w).map fun u => get ⟨u⟩
  | .post, [w] => if w = "preview" then some preview else none
  | .get, [v, w] =>
    if v = "preview" then (Net.Uuid.parse? w).map fun u => previewById ⟨u⟩ else none
  | _, _ => none

end DefinitionAct

/-- What a call is about, without the document that it sends. -/
inductive Subject where
  | lists (kind : ListKind) (act : ListAct)
  | definitions (act : DefinitionAct)
deriving DecidableEq, Repr

namespace Subject

def endpoint : Subject → Endpoint
  | lists _ act => act.endpoint
  | definitions act => act.endpoint

/-- The path of a subject below the interface. -/
def parts : Subject → List Part
  | lists kind act =>
    .word "template" :: .word "policy" :: .word "list" :: .value "kind" kind.segment :: act.tail
  | definitions act =>
    .word "template" :: .word "policy" :: .word "definition"
      :: .value "kind" RuleSet.segment :: act.tail

def args (s : Subject) : List (String × String) := s.parts.filterMap Part.argument?

def params : Subject → List (String × String)
  | lists _ act => act.params
  | definitions _ => []

def method (s : Subject) : Method := s.endpoint.verb.method

/-- The texts of the path. -/
def texts (s : Subject) : List String := s.parts.map Part.text

/-- Reads a subject from the method, the texts of the path, and the query. -/
def read? (m : Method) : List String → List (String × String) → Option Subject
  | _ :: _ :: family :: kind :: tail, params =>
    if family = "list" then
      (ListKind.all.find? (·.segment == kind)).bind fun k =>
        (ListAct.read? m tail params).map (lists k)
    else (DefinitionAct.read? m tail).map definitions
  | _, _ => none

end Subject

end Policy

-- ============================================== reading back

/-- A text that is not read as an identifier is not the text of one. -/
theorem Net.Uuid.text_ne {w : String} (h : parse? w = none) (u : Uuid) : u.text ≠ w := by
  rintro rfl
  rw [parse?_text] at h
  cases h

namespace Policy

theorem ListKind.find?_segment (k : ListKind) :
    ListKind.all.find? (·.segment == k.segment) = some k := by
  cases k <;> decide

/-- An operation is read from what its requests are made of. -/
theorem ListAct.read?_tail (a : ListAct) :
    read? a.endpoint.verb.method (a.tail.map Part.text) a.params = some a := by
  have hid : ∀ id : ListId, Net.Uuid.parse? id.text = some id.uuid := fun id =>
    Net.Uuid.parse?_text id.uuid
  cases a with
  | create | all => rfl
  | delete id | edit id | get id | previewById id =>
      simp [read?, endpoint, tail, params, Part.text, Verb.method, ListClient.deleteEndpoint,
        ListClient.editEndpoint, ListClient.getEndpoint, ListClient.previewByIdEndpoint, hid]
  | deleteTagged tag | tagged tag | preview =>
      simp [read?, endpoint, tail, params, Part.text, InfoTag.query, Verb.method,
        ListClient.deleteTaggedEndpoint, ListClient.taggedEndpoint, ListClient.previewEndpoint]

theorem DefinitionAct.read?_tail (a : DefinitionAct) :
    read? a.endpoint.verb.method (a.tail.map Part.text) = some a := by
  have hid : ∀ id : DefinitionId, Net.Uuid.parse? id.text = some id.uuid := fun id =>
    Net.Uuid.parse?_text id.uuid
  cases a with
  | create | all => rfl
  | delete id | get id | editMultiple id | previewById id =>
      simp [read?, endpoint, tail, Part.text, Verb.method, DefinitionClient.deleteEndpoint,
        DefinitionClient.getEndpoint, DefinitionClient.editMultipleEndpoint,
        DefinitionClient.previewByIdEndpoint, hid]
  | edit id =>
      have hbulk : id.text ≠ "bulk" := Net.Uuid.text_ne (by decide) id.uuid
      simp [read?, endpoint, tail, Part.text, Verb.method, DefinitionClient.editEndpoint, hbulk,
        hid]
  | preview | saveInBulk =>
      simp [read?, endpoint, tail, Part.text, Verb.method, DefinitionClient.previewEndpoint,
        DefinitionClient.bulkEndpoint]

namespace Subject

/-- A subject is read from what its requests are made of. -/
theorem read?_texts (s : Subject) : read? s.method s.texts s.params = some s := by
  cases s with
  | lists k act =>
      have hread := act.read?_tail
      simp [read?, method, texts, params, parts, endpoint, Part.text, k.find?_segment, hread]
  | definitions act =>
      have hread := act.read?_tail
      simp [read?, method, texts, parts, endpoint, Part.text, hread]

-- ============================================== paths of subjects

/-- The endpoint of a subject is made of the parts of its path. -/
theorem madeOf_segments (s : Subject) : s.endpoint.MadeOf (s.parts.map Part.segment) := by
  cases s with
  | lists k act =>
      cases act <;>
        (simp only [endpoint, ListAct.endpoint, parts, ListAct.tail, List.map_cons, List.map_nil,
          Part.segment]
         decide +kernel)
  | definitions act =>
      cases act <;>
        (simp only [endpoint, DefinitionAct.endpoint, parts, DefinitionAct.tail, List.map_cons,
          List.map_nil, Part.segment]
         decide +kernel)

theorem versions_endpoint (s : Subject) : s.endpoint.versions = none := by
  cases s with
  | lists k act => cases act <;> rfl
  | definitions act => cases act <;> rfl

theorem head?_parts (s : Subject) : s.parts.head? = some (.word "template") := by
  cases s <;> rfl

/-- Each part is written as it says. Neither a kind nor an id is dots. -/
theorem fits_parts (s : Subject) : ∀ p ∈ s.parts, p.Fits s.args := by
  have hlist : ∀ id : ListId, id.text ≠ "." ∧ id.text ≠ ".." := fun id =>
    ⟨Net.Uuid.text_ne (by decide) id.uuid, Net.Uuid.text_ne (by decide) id.uuid⟩
  have hdefinition : ∀ id : DefinitionId, id.text ≠ "." ∧ id.text ≠ ".." := fun id =>
    ⟨Net.Uuid.text_ne (by decide) id.uuid, Net.Uuid.text_ne (by decide) id.uuid⟩
  cases s with
  | lists k act =>
      have hkind : k.segment ≠ "." ∧ k.segment ≠ ".." := by cases k <;> decide
      cases act <;>
        simp [parts, args, ListAct.tail, Part.Fits, Part.words, Part.argument?, Template.argument?,
          hkind, hlist]
  | definitions act =>
      have hkind : RuleSet.segment ≠ "." ∧ RuleSet.segment ≠ ".." := by decide
      cases act <;>
        simp [parts, args, DefinitionAct.tail, Part.Fits, Part.words, Part.argument?,
          Template.argument?, hkind, hdefinition]

/-- Nothing in the path of a subject is the name of the interface. -/
theorem not_mem_texts (s : Subject) : "dataservice" ∉ s.texts := by
  have hlist : ∀ id : ListId, "dataservice" ≠ id.text := fun id =>
    (Net.Uuid.text_ne (by decide) id.uuid).symm
  have hdefinition : ∀ id : DefinitionId, "dataservice" ≠ id.text := fun id =>
    (Net.Uuid.text_ne (by decide) id.uuid).symm
  cases s with
  | lists k act =>
      have hkind : "dataservice" ≠ k.segment := by cases k <;> decide
      cases act <;> simp [texts, parts, ListAct.tail, Part.text, hkind, hlist]
  | definitions act =>
      have hkind : "dataservice" ≠ RuleSet.segment := by decide
      cases act <;> simp [texts, parts, DefinitionAct.tail, Part.text, hkind, hdefinition]

end Subject

end Policy

end Sdwan
