/-
Which call of the policy clients a request comes from.

# Calls

Behind the checks of its document, a call is a call of the endpoint of its
subject (`PolicyCall.action_eq`), so the subject decides what is sent
(`PolicyCall.requests_of_subject`).

# Paths

Two clients need not have one host, so a path is compared as a text. Nothing
behind the name of the interface is that name, so where it stands last in the
text the path of the host ends (`Subject.texts_eq_of_chars`).
-/
import Sdwan.Proofs.Policy.Subjects

namespace Sdwan

open Http Http.Dialogue Url Url.Form Template

namespace Policy

-- ============================================== paths as texts

theorem injective_encodePart : Function.Injective fun t : String => encodePart t.toList := by
  intro t t' h
  have hread := congrArg decodePart h
  rwa [decodePart_encodePart, decodePart_encodePart] at hread

theorem eq_of_append_cons_eq {α : Type} [DecidableEq α] {x : α} {as as' bs bs' : List α}
    (hbs : x ∉ bs) (hbs' : x ∉ bs') (h : as ++ x :: bs = as' ++ x :: bs') : bs = bs' := by
  have hread : ∀ {as bs : List α}, x ∉ bs →
      ((as ++ x :: bs).reverse.takeWhile (· != x)).reverse = bs := by
    intro as bs hbs
    have hall : ∀ y ∈ bs.reverse, (y != x) = true := by
      intro y hy
      rw [bne_iff_ne]
      rintro rfl
      exact hbs (List.mem_reverse.mp hy)
    rw [List.reverse_append, List.reverse_cons, List.append_assoc,
      List.takeWhile_append_of_pos hall]
    simp
  rw [← hread hbs, h, hread hbs']

/-- Where the segments of a subject stand behind the path of a host. -/
def Subject.behind (dir : List (List Char)) (s : Subject) : List (List Char) :=
  dir ++ "dataservice".toList :: s.texts.map fun t => encodePart t.toList

/-- The text of a path tells what stands behind the path of the host. -/
theorem Subject.texts_eq_of_chars {dir dir' : List (List Char)} {s s' : Subject}
    (h : (Path.segments (s.behind dir)).chars = (Path.segments (s'.behind dir')).chars) :
    s.texts = s'.texts := by
  have hpieces : ∀ (dir : List (List Char)) (s : Subject),
      Text.pieces (· == '/') (Path.segments (s.behind dir)).chars
        = ([] :: dir.flatMap (Text.pieces (· == '/')))
            ++ "dataservice".toList :: s.texts.map fun t => encodePart t.toList := by
    intro dir s
    have hone : ∀ t : String,
        Text.pieces (· == '/') (encodePart t.toList) = [encodePart t.toList] :=
      fun t => Text.pieces_eq_singleton (ne_of_mem_encodePart (by decide))
    have hinterface : Text.pieces (· == '/') "dataservice".toList = ["dataservice".toList] := by
      decide +kernel
    have hall : Text.pieces (· == '/') ([] ++ (s.behind dir).flatMap ('/' :: ·))
        = [] :: (s.behind dir).flatMap (Text.pieces (· == '/')) :=
      Text.pieces_append_flatMap rfl [] _
    rw [Path.chars, ← List.nil_append (List.flatMap _ _), hall, behind, List.flatMap_append,
      List.flatMap_cons, hinterface, List.flatMap_map]
    simp only [hone, ← List.map_eq_flatMap]
    rfl
  have hno : ∀ s : Subject,
      "dataservice".toList ∉ s.texts.map fun t => encodePart t.toList := by
    intro s hmem
    obtain ⟨t, ht, heq⟩ := List.mem_map.mp hmem
    have hname : encodePart "dataservice".toList = "dataservice".toList := by decide +kernel
    obtain rfl := injective_encodePart (heq.trans hname.symm)
    exact s.not_mem_texts ht
  have heq := (hpieces dir s).symm.trans ((congrArg _ h).trans (hpieces dir' s'))
  exact List.map_injective_iff.mpr injective_encodePart (eq_of_append_cons_eq (hno s) (hno s') heq)

-- ============================================== calls

/-- A call of the policy clients, by what it gives. -/
inductive PolicyCall : Type → Type 1 where
  | createList {k : ListKind} (list : PolicyList k) : PolicyCall ListCreated
  | deleteList (k : ListKind) (id : ListId) : PolicyCall Unit
  | deleteTaggedLists (k : ListKind) (tag : InfoTag) : PolicyCall Unit
  | editList {k : ListKind} (id : ListId) (payload : ListEdit k) : PolicyCall Unit
  | getList (k : ListKind) (id : ListId) : PolicyCall (ListRecord k)
  | allLists (k : ListKind) : PolicyCall (List (ListRecord k))
  | taggedLists (k : ListKind) (tag : InfoTag) : PolicyCall (List (ListRecord k))
  | previewList {k : ListKind} (list : PolicyList k) : PolicyCall ListPreview
  | previewListById (k : ListKind) (id : ListId) : PolicyCall ListPreview
  | createDefinition (set : RuleSet) : PolicyCall DefinitionCreated
  | deleteDefinition (id : DefinitionId) : PolicyCall Unit
  | editMultiple (id : DefinitionId) (payload : DefinitionEdit) : PolicyCall DefinitionEdited
  | editDefinition (id : DefinitionId) (payload : DefinitionEdit) : PolicyCall DefinitionEdited
  | allDefinitions : PolicyCall (List DefinitionRecord)
  | getDefinition (id : DefinitionId) : PolicyCall DefinitionRecord
  | previewDefinition (set : RuleSet) : PolicyCall DefinitionPreview
  | previewDefinitionById (id : DefinitionId) : PolicyCall DefinitionPreview
  | saveInBulk (payloads : List DefinitionEdit) : PolicyCall Unit

namespace PolicyCall

variable {α : Type}

/-- What a client does for a call. -/
def action [Platform] (c : Client) : PolicyCall α → Action α
  | @createList k list => ListClient.create (k := k) ⟨c⟩ list
  | deleteList k id => ListClient.delete (k := k) ⟨c⟩ id
  | deleteTaggedLists k tag => ListClient.deleteTagged (k := k) ⟨c⟩ tag
  | @editList k id payload => ListClient.edit (k := k) ⟨c⟩ id payload
  | getList k id => ListClient.get (k := k) ⟨c⟩ id
  | allLists k => ListClient.all (k := k) ⟨c⟩
  | taggedLists k tag => ListClient.tagged (k := k) ⟨c⟩ tag
  | @previewList k list => ListClient.preview (k := k) ⟨c⟩ list
  | previewListById k id => ListClient.previewById (k := k) ⟨c⟩ id
  | createDefinition set => DefinitionClient.create ⟨c⟩ set
  | deleteDefinition id => DefinitionClient.delete ⟨c⟩ id
  | editMultiple id payload => DefinitionClient.editMultiple ⟨c⟩ id payload
  | editDefinition id payload => DefinitionClient.edit ⟨c⟩ id payload
  | allDefinitions => DefinitionClient.all ⟨c⟩
  | getDefinition id => DefinitionClient.get ⟨c⟩ id
  | previewDefinition set => DefinitionClient.preview ⟨c⟩ set
  | previewDefinitionById id => DefinitionClient.previewById ⟨c⟩ id
  | saveInBulk payloads => DefinitionClient.saveInBulk ⟨c⟩ payloads

/-- The call without its document. -/
def subject : PolicyCall α → Subject
  | @createList k _ => .lists k .create
  | deleteList k id => .lists k (.delete id)
  | deleteTaggedLists k tag => .lists k (.deleteTagged tag)
  | @editList k id _ => .lists k (.edit id)
  | getList k id => .lists k (.get id)
  | allLists k => .lists k .all
  | taggedLists k tag => .lists k (.tagged tag)
  | @previewList k _ => .lists k .preview
  | previewListById k id => .lists k (.previewById id)
  | createDefinition _ => .definitions .create
  | deleteDefinition id => .definitions (.delete id)
  | editMultiple id _ => .definitions (.editMultiple id)
  | editDefinition id _ => .definitions (.edit id)
  | allDefinitions => .definitions .all
  | getDefinition id => .definitions (.get id)
  | previewDefinition _ => .definitions .preview
  | previewDefinitionById id => .definitions (.previewById id)
  | saveInBulk _ => .definitions .saveInBulk

/-- What is checked before a call. -/
def checks [Platform] : PolicyCall α → Result Unit
  | createList list | previewList list => requireValid list
  | editList _ payload => requireValid payload.list
  | createDefinition set | previewDefinition set => requireValid set
  | editMultiple _ payload | editDefinition _ payload => requireValid payload.definition
  | saveInBulk payloads => DefinitionClient.requireAllValid payloads
  | deleteList _ _ | deleteTaggedLists _ _ | getList _ _ | allLists _ | taggedLists _ _
  | previewListById _ _ | deleteDefinition _ | allDefinitions | getDefinition _
  | previewDefinitionById _ => .ok ()

/-- How the endpoint of the subject is called. -/
def way : PolicyCall α → Call α
  | createList list => .json Json.Coded.read (some (Json.encode list))
  | deleteList _ _ | deleteTaggedLists _ _ | deleteDefinition _ => .empty none
  | editList _ payload => .empty (some (Json.encode payload))
  | getList _ _ | allLists _ | taggedLists _ _ | previewListById _ _ =>
    .json Json.Coded.read none
  | previewList list => .json Json.Coded.read (some (Json.encode list))
  | createDefinition set | previewDefinition set => .json Json.Coded.read (some (Json.encode set))
  | editMultiple _ payload | editDefinition _ payload =>
    .json Json.Coded.read (some (Json.encode payload))
  | allDefinitions | getDefinition _ | previewDefinitionById _ => .json Json.Coded.read none
  | saveInBulk payloads => .empty (some (Json.encode payloads))

/-- Behind its checks, a call is a call of the endpoint of its subject. -/
theorem action_eq [Platform] (p : PolicyCall α) (c : Client) :
    p.action c = liftM p.checks >>= fun _ =>
      p.way.action c p.subject.endpoint p.subject.args p.subject.params := by
  cases p with
  | createList | editList | previewList | createDefinition | editMultiple | editDefinition
  | previewDefinition | saveInBulk => rfl
  | deleteList | deleteTaggedLists | getList | allLists | taggedLists | previewListById
  | deleteDefinition | allDefinitions | getDefinition | previewDefinitionById =>
      rw [checks, Action.ok_bind]
      rfl

variable {σ : Type} {c : Client}

/-- What the subject decides of a request, up to the path of the host. -/
theorem requests_of_subject [Platform] (h : c.Made) (p : PolicyCall α) :
    ∃ dir, ∀ {σ : Type} (serve : Server σ) (s : σ),
      ∀ r ∈ (Dialogue.run serve (p.action c).run s).requests,
        r.method = p.subject.method ∧ r.url.path = .segments (p.subject.behind dir)
          ∧ decodePairs (r.url.query.getD []) = p.subject.params := by
  obtain ⟨dir, hdir, hurl⟩ := h.exists_interface
  have hbase := isBase_interface hdir
  rw [← hurl] at hbase
  have hmade := p.subject.madeOf_segments
  have hfits := p.subject.fits_parts
  have hshows := Part.shows_of_fits hfits
  refine ⟨dir, fun serve s => ?_⟩
  rw [p.action_eq c]
  refine AllSent.run (Action.allSent_bind (Action.allSent_lift _) fun _ => ?_) serve s
  refine p.way.allSent_action fun _ path url payload hpath hbuilt => ?_
  obtain ⟨vs, hvs, rfl⟩ := hmade.renderPath_eq_ok.mp hpath
  obtain rfl := List.right_unique_forall₂' rightUnique_shows hshows hvs
  have hcontained := Part.contained_of_fits hfits p.subject.head?_parts
  rw [hmade.buildUrl_eq hbase hshows, (hmade.addSegments_eq_iff hshows _).mpr hcontained] at hbuilt
  cases hbuilt
  refine ⟨Client.method_request .., ?_, ?_⟩
  · rw [Client.url_request]
    show Path.segments _ = Path.segments _
    rw [Subject.behind, List.append_assoc, Subject.texts, List.map_map]
    rfl
  · rw [Client.url_request, decodePairs_appendQuery]
    show decodePairs (c.apiUrl.query.getD []) ++ _ = _
    rw [hbase.query]
    rfl

/-- A call whose document passes its checks sends something. -/
theorem requests_ne_nil [Platform] (h : c.Made) (p : PolicyCall α) (hchecks : p.checks = .ok ())
    (serve : Server σ) (s : σ) : (Dialogue.run serve (p.action c).run s).requests ≠ [] := by
  obtain ⟨dir, hbase⟩ := h.isBase
  have hmade := p.subject.madeOf_segments
  have hshows := Part.shows_of_fits p.subject.fits_parts
  rw [p.action_eq, hchecks]
  exact p.way.requests_ne_nil (Client.ensureSupported_of_versions p.subject.versions_endpoint c)
    (hmade.renderPath_eq_ok.mpr ⟨_, hshows, rfl⟩) (hmade.buildUrl_eq hbase hshows) serve s

/-- Two calls of the policy clients whose requests have one method, one path
and one query do the same to the same lists or definitions, whatever they
send, whichever clients make them, and whatever is answered. Lists with a mark
are always removed by the mark alone: the query has this one pair, if the mark
is empty, too. -/
theorem subject_eq_of_requests [Platform] {c c' : Client} (h : c.Made) (h' : c'.Made) :
    (∀ {α α' σ σ' : Type} (p : PolicyCall α) (p' : PolicyCall α') (serve : Server σ) (s : σ)
        (serve' : Server σ') (s' : σ'),
      ∀ r ∈ (Dialogue.run serve (p.action c).run s).requests,
        ∀ r' ∈ (Dialogue.run serve' (p'.action c').run s').requests,
          r.method = r'.method → r.url.path.chars = r'.url.path.chars →
            r.url.query = r'.url.query → p.subject = p'.subject)
      ∧ ∀ (k : ListKind) (tag : InfoTag) {σ : Type} (serve : Server σ) (s : σ),
          let sent := (Dialogue.run serve (ListClient.deleteTagged (k := k) ⟨c⟩ tag).run s).requests
          sent ≠ [] ∧ ∀ r ∈ sent, ∃ q, r.url.query = some q
            ∧ decodePairs q = [("infoTag", tag.tag)] := by
  refine ⟨?_, fun k tag σ serve s => ?_⟩
  · intro α α' σ σ' p p' serve s serve' s' r hr r' hr' hmethod hpath hquery
    obtain ⟨dir, hof⟩ := p.requests_of_subject h
    obtain ⟨dir', hof'⟩ := p'.requests_of_subject h'
    obtain ⟨hm, hp, hq⟩ := hof serve s r hr
    obtain ⟨hm', hp', hq'⟩ := hof' serve' s' r' hr'
    rw [hp, hp'] at hpath
    have hread := p.subject.read?_texts
    rw [← hm, hmethod, hm', Subject.texts_eq_of_chars hpath, ← hq, hquery, hq',
      p'.subject.read?_texts] at hread
    exact (Option.some.inj hread).symm
  · refine ⟨requests_ne_nil h (deleteTaggedLists k tag) rfl serve s, fun r hr => ?_⟩
    obtain ⟨dir, hof⟩ := requests_of_subject h (deleteTaggedLists k tag)
    obtain ⟨-, -, hread⟩ := hof serve s r hr
    cases hquery : r.url.query with
    | none =>
        rw [hquery] at hread
        cases hread
    | some q =>
        rw [hquery] at hread
        exact ⟨q, rfl, hread⟩

section Stock

attribute [local instance] Stock.platform

/-- What removes the lists with an empty mark is sent by no other call. -/
theorem subject_eq_of_requests_empty :
    let c := (ClientBuilder.onLocalhost {}).client []
    ∃ r ∈ (Dialogue.run (fun _ s => (.refused, s))
        (ListClient.deleteTagged (k := .app) ⟨c⟩ ⟨""⟩).run ()).requests,
      decodePairs (r.url.query.getD []) = [("infoTag", "")]
        ∧ ∀ {α : Type} (p : PolicyCall α),
            r ∈ (Dialogue.run (fun _ s => (.refused, s)) (p.action c).run ()).requests →
              p.subject = .lists .app (.deleteTagged ⟨""⟩) := by
  intro c
  have hmade : c.Made := Client.made_onLocalhost {}
  obtain ⟨hsame, htag⟩ := subject_eq_of_requests hmade hmade
  obtain ⟨hsent, hquery⟩ := htag .app ⟨""⟩ (fun _ s => (.refused, s)) ()
  obtain ⟨r, hr⟩ := List.exists_mem_of_ne_nil _ hsent
  obtain ⟨q, hq, hread⟩ := hquery r hr
  refine ⟨r, hr, by rw [hq]; exact hread, fun p hp => ?_⟩
  exact hsame p (deleteTaggedLists .app ⟨""⟩) _ () _ () r hp r hr rfl rfl rfl

end Stock

end PolicyCall

end Policy

end Sdwan
