/-
The id of a migration goes to one controller in a query and comes back from
another in the query of an address, and it is the same id.

The query is written once, by form encoding, and read in two places: by the
controller, and by whoever finds it behind a path in the address of a token.
A query in an address is encoded again where it holds characters that may not
stand there. Form encoding writes none of them
(`inSpecialQuery_of_isFormChar`), so what is found there is what was written.
-/
import Sdwan.Proofs.Api.Queries
import Sdwan.Proofs.Url.Percent

namespace Sdwan

open Http Http.Dialogue Url Url.Form Json

variable {c : Client}

-- ============================================== form encoding in a query

namespace Url

/-- The characters of forms are ASCII. -/
theorem toNat_lt_of_isFormChar {x : Char} (h : isFormChar x = true) : x.toNat < 128 := by
  simp only [isFormChar, Text.isDigit, Bool.or_eq_true, Bool.and_eq_true, decide_eq_true_eq,
    List.mem_cons, List.not_mem_nil, or_false] at h
  rcases h with ((⟨-, h⟩ | ⟨-, h⟩) | ⟨-, h⟩) | rfl | rfl | rfl | rfl | rfl | rfl
  · exact Text.toNat_lt_of_le h (by decide)
  · exact Text.toNat_lt_of_le h (by decide)
  · exact Text.toNat_lt_of_le h (by decide)
  all_goals decide

/-- A query keeps what form encoding writes. -/
theorem inSpecialQuery_of_isFormChar {x : Char} (h : isFormChar x = true) :
    inSpecialQuery x = false := by
  refine Text.forall_ascii (P := fun x => isFormChar x = true → inSpecialQuery x = false) ?_
    (toNat_lt_of_isFormChar h) h
  decide +kernel

/-- A query of pairs is kept as it is in a URL. -/
theorem inSpecialQuery_of_mem_encodePairs {ps : List (String × String)} {x : Char}
    (h : x ∈ encodePairs ps) : inSpecialQuery x = false := by
  rcases of_mem_encodePairs h with h | rfl | rfl
  · exact inSpecialQuery_of_isFormChar h
  · decide
  · decide

end Url

-- ============================================== addresses of tokens

namespace Migration

/-- A path of letters, digits, hyphens and slashes. A slash is in front, and
no two stand together. -/
structure IsPlainPath (path : List Char) : Prop where
  slash : path.head? = some '/'
  chars : ∀ x ∈ path, x.isAlphanum = true ∨ x = '-' ∨ x = '/'
  single : ¬ ['/', '/'] <:+: path

theorem toNat_lt_of_isAlphanum {x : Char} (h : x.isAlphanum = true) : x.toNat < 128 := by
  delta Char.isAlphanum Char.isAlpha Char.isUpper Char.isLower Char.isDigit at h
  simp only [Bool.or_eq_true, Bool.and_eq_true, decide_eq_true_eq] at h
  rcases h with (⟨-, h⟩ | ⟨-, h⟩) | ⟨-, h⟩
  all_goals exact Nat.lt_of_le_of_lt (UInt32.le_iff_toNat_le.mp h) (by decide)

/-- Plain characters are kept in a path. -/
theorem not_inPath_of_isPlain {x : Char} (h : x.isAlphanum = true ∨ x = '-' ∨ x = '/') :
    inPath x = false ∧ x ≠ '\\' := by
  rcases h with h | rfl | rfl
  · refine Text.forall_ascii (P := fun x => x.isAlphanum = true → inPath x = false ∧ x ≠ '\\') ?_
      (toNat_lt_of_isAlphanum h) h
    decide +kernel
  · decide
  · decide

/-- Pairs that stand in an address as its query are found there. -/
theorem Import.url_of_encodePairs [Url.Idna] {path rest : List Char} (hpath : IsPlainPath path)
    (hrest : ∀ x ∈ rest.head?, x = '#') (process : String) (ps : List (String × String)) :
    ∃ u, (Import.mk process (String.ofList (path ++ '?' :: encodePairs ps ++ rest))).url = .ok u
      ∧ u.query = some (encodePairs ps) := by
  obtain ⟨hslash, hchars, hsingle⟩ := hpath
  cases path with
  | nil => cases hslash
  | cons x path =>
      obtain rfl : x = '/' := Option.some.inj hslash
      have hplain := fun x hx => not_inPath_of_isPlain (hchars x (List.mem_cons_of_mem '/' hx))
      have hhead : ∀ x ∈ path.head?, isSlash .fixed x = false := by
        intro x hx
        obtain ⟨behind, rfl⟩ := List.head?_eq_some_iff.mp hx
        have hne : x ≠ '/' := by
          rintro rfl
          exact hsingle ⟨[], behind, rfl⟩
        simp [isSlash, hne, (hplain x List.mem_cons_self).2]
      have hquery := fun x (hx : x ∈ encodePairs ps) => inSpecialQuery_of_mem_encodePairs hx
      have hfixed : layout placeholder.scheme = .fixed := by decide
      obtain ⟨u, hurl, hu⟩ := query_join_of_path hfixed rfl
        (fun x hx => not_inPath (hplain x hx).1) hhead
        (fun x hx => not_inSpecialQuery (hquery x hx)) hrest
      rw [encodeWith_eq hquery] at hu
      exact ⟨u, mapError_eq_ok_iff.mpr hurl, hu⟩

/-- The id is found there, too. -/
theorem Import.found [Url.Idna] {path rest : List Char} (hpath : IsPlainPath path)
    (hrest : ∀ x ∈ rest.head?, x = '#') (process id : String) :
    let q := encodePairs [(TokenQuery.parameter, id)]
    let i : Import := ⟨process, String.ofList (path ++ '?' :: q ++ rest)⟩
    i.queryText = .ok (String.ofList q) ∧ i.tokenQuery = .ok ⟨id⟩ := by
  intro q i
  obtain ⟨u, hurl, hu⟩ := url_of_encodePairs hpath hrest process [(TokenQuery.parameter, id)]
  have hurl : i.url = .ok u := hurl
  have hquery : u.query.getD [] = q := by rw [hu, Option.getD_some]
  constructor
  · rw [queryText, hurl, ok_bind_iff]
    exact ⟨u, rfl, by rw [hquery]⟩
  · rw [tokenQuery, hurl, ok_bind_iff]
    refine ⟨u, rfl, ?_⟩
    rw [hquery, decodePairs_encodePairs, List.lookup_cons_self]

end Migration

-- ============================================== tokens

namespace MigrationClient

open Migration Template

/-- The path of the tokens. -/
def tokenSegments : List Segment :=
  [.literal "tenantmigration".toList, .literal "migrationToken".toList]

theorem madeOf_tokenSegments : tokenEndpoint.MadeOf tokenSegments := by decide +kernel

/-- Asking for a token is one call, whose query is the id alone. -/
theorem requests_fetchToken [Platform] {σ : Type} (h : c.Made) (id : String)
    (serve : Server σ) (s : σ) :
    let sent := (Dialogue.run serve (fetchToken ⟨c⟩ ⟨id⟩).run s).requests
    sent ≠ [] ∧ ∀ r ∈ sent, r.url.query = some (encodePairs [(TokenQuery.parameter, id)]) := by
  obtain ⟨dir, hbase⟩ := h.isBase
  have hshows : List.Forall₂ (Shows []) tokenSegments
      ["tenantmigration".toList, "migrationToken".toList] := .cons rfl (.cons rfl .nil)
  have hpath := madeOf_tokenSegments.renderPath_eq_ok.mpr ⟨_, hshows, rfl⟩
  have hurl := madeOf_tokenSegments.buildUrl_eq hbase hshows
  refine ⟨Call.text.requests_ne_nil rfl hpath hurl serve s, fun r hr => ?_⟩
  obtain ⟨path, url, hpath', hurl', heq, -⟩ :=
    Call.text.decodePairs_query c tokenEndpoint [] [(TokenQuery.parameter, id)] serve s r hr
  have hnone := Endpoint.query_buildUrl h (by decide) hpath' hurl'
  rw [heq, query_appendQuery hnone (List.cons_ne_nil _ _)]

/-- Every call sends its parameters in a query from which they are read back
as they were given; the path comes with a query of its own only if that of the
endpoint does. In particular, what a token is asked for with is the query that
the model stands for. Behind a plain path, whether a fragment follows or not,
this query is found as it was sent, and in it the same id. -/
theorem id_returns [Platform] (h : c.Made) :
    (∀ {α σ : Type} (k : Call α) (e : Endpoint) (args params : List (String × String))
        (serve : Server σ) (s : σ),
      ∀ r ∈ (Dialogue.run serve (k.action c e args params).run s).requests,
        ∃ path url, e.renderPath args = .ok path ∧ c.buildUrl path = .ok url
          ∧ decodePairs (r.url.query.getD []) = decodePairs (url.query.getD []) ++ params
          ∧ ('?' ∉ e.path.toList → decodePairs (r.url.query.getD []) = params))
      ∧ ∀ id : String,
          Query.ofJson (encode (TokenQuery.mk id)) = .ok (TokenQuery.mk id).query
          ∧ ∀ {σ : Type} (serve : Server σ) (s : σ),
              let sent := (Dialogue.run serve (fetchToken ⟨c⟩ ⟨id⟩).run s).requests
              sent ≠ [] ∧ ∀ r ∈ sent, ∃ q, r.url.query = some q
                ∧ ∀ path rest, IsPlainPath path → (∀ x ∈ rest.head?, x = '#') →
                    ∀ process : String,
                      let i : Import := ⟨process, String.ofList (path ++ '?' :: q ++ rest)⟩
                      i.queryText = .ok (String.ofList q) ∧ i.tokenQuery = .ok ⟨id⟩ := by
  refine ⟨fun k e args params serve s r hr => ?_, fun id => ⟨rfl, fun serve s => ?_⟩⟩
  · obtain ⟨path, url, hpath, hurl, -, hread⟩ :=
      k.decodePairs_query c e args params serve s r hr
    refine ⟨path, url, hpath, hurl, hread, fun hno => ?_⟩
    rw [hread, Endpoint.query_buildUrl h hno hpath hurl]
    rfl
  · obtain ⟨hsent, hquery⟩ := requests_fetchToken h id serve s
    refine ⟨hsent, fun r hr => ⟨_, hquery r hr, fun path rest hpath hrest process => ?_⟩⟩
    exact Import.found hpath hrest process id

section Stock

attribute [local instance] Stock.platform

/-- Blanks, marks and letters beyond ASCII come back from an address. -/
theorem id_returns_marks :
    let c := (ClientBuilder.onLocalhost {}).client []
    ∃ r ∈ (Dialogue.run (fun _ s => (.refused, s)) (fetchToken ⟨c⟩ ⟨"a b&c#é"⟩).run ()).requests,
      r.url.query = some "migrationId=a+b%26c%23%C3%A9".toList
        ∧ (Import.mk "process" "/token?migrationId=a+b%26c%23%C3%A9#part").tokenQuery
            = .ok ⟨"a b&c#é"⟩ := by
  intro c
  obtain ⟨hsent, hfound⟩ :=
    ((id_returns (Client.made_onLocalhost {})).2 "a b&c#é").2 (fun _ s => (.refused, s)) ()
  obtain ⟨r, hr⟩ := List.exists_mem_of_ne_nil _ hsent
  have hwritten : encodePairs [("migrationId", "a b&c#é")]
      = "migrationId=a+b%26c%23%C3%A9".toList := by
    decide +kernel
  have hquery := (requests_fetchToken (Client.made_onLocalhost {}) _ _ ()).2 r hr
  obtain ⟨q, hq, hback⟩ := hfound r hr
  have hplain : IsPlainPath "/token".toList := ⟨rfl, by simp, by decide⟩
  have htext : String.ofList ("/token".toList ++ '?' :: q ++ "#part".toList)
      = "/token?migrationId=a+b%26c%23%C3%A9#part" := by
    rw [hquery] at hq
    rw [← Option.some.inj hq, show TokenQuery.parameter = "migrationId" from rfl, hwritten]
    decide +kernel
  have htoken := (hback "/token".toList "#part".toList hplain (by simp) "process").2
  rw [htext] at htoken
  exact ⟨r, hr, hquery.trans (congrArg some hwritten), htoken⟩

end Stock

end MigrationClient

end Sdwan
