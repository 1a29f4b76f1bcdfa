/-
The query of a request, as it is read on the other side.

# Paths

Filling in a template adds only what form encoding writes (`mem_fill`), and
that is never a question mark. So unless the template has one, the URL of a
path has no query (`Endpoint.query_buildUrl`).

# Calls

The parameters of a call are read back as they were given, behind the pairs
that the path itself brings along (`Call.decodePairs_query`).
-/
import Sdwan.Proofs.Api.Paths
import Sdwan.Proofs.Url.Pairs
import Sdwan.Proofs.Url.Reference

namespace Sdwan

open Http Http.Dialogue Url Url.Form

variable {α σ : Type} {args params : List (String × String)} {c : Client} {e : Endpoint}
  {path : String} {url : Url}

-- ============================================== paths

/-- What is filled in was in the template, or was form encoded. -/
theorem Template.mem_fill {name : Option (List Char)} {cs out : List Char} {x : Char}
    (h : fill args (pieces name cs) = .ok out) (hx : x ∈ out) : x ∈ cs ∨ isFormChar x = true := by
  fun_induction pieces name cs generalizing out with
  | case1 =>
      cases h
      cases hx
  | case2 => cases h
  | case3 d cs _ ih => exact (ih h hx).imp_left (List.mem_cons_of_mem d)
  | case4 d cs _ ih =>
      rw [fill_addChar, ok_map_iff] at h
      obtain ⟨out, hout, rfl⟩ := h
      rcases List.mem_cons.mp hx with rfl | hx
      · exact Or.inl List.mem_cons_self
      · exact (ih hout hx).imp_left (List.mem_cons_of_mem d)
  | case5 name d cs _ ih =>
      rw [fill] at h
      split at h
      · cases h
      · obtain ⟨out, hout, rfl⟩ := ok_map_iff.mp h
        rcases List.mem_append.mp hx with hx | hx
        · exact Or.inr (isFormChar_of_mem_encodePart hx)
        · exact (ih hout hx).imp_left (List.mem_cons_of_mem d)
  | case6 name d cs _ ih => exact (ih h hx).imp_left (List.mem_cons_of_mem d)

/-- The URL of a path has a query only if the path of the endpoint has. -/
theorem Endpoint.query_buildUrl [Platform] (h : c.Made) (hno : '?' ∉ e.path.toList)
    (hpath : e.renderPath args = .ok path) (hurl : c.buildUrl path = .ok url) :
    url.query = none := by
  obtain ⟨dir, hbase⟩ := h.isBase
  obtain ⟨cs, hcs, rfl⟩ := Endpoint.renderPath_eq_ok.mp hpath
  have hno' : '?' ∉ cs := by
    intro hmem
    rcases Template.mem_fill hcs hmem with hmem | hform
    · exact hno (List.dropWhile_subset _ hmem)
    · cases hform
  refine query_of_join hbase.query (mapError_eq_ok_iff.mp hurl) fun hmem => hno' ?_
  rw [String.toList_ofList, String.toList_ofList] at hmem
  exact List.dropWhile_subset _ hmem

-- ============================================== calls

/-- The parameters of a call come behind the pairs of its path. -/
theorem Call.decodePairs_query [Platform] (k : Call α) (c : Client) (e : Endpoint)
    (args params : List (String × String)) (serve : Server σ) (s : σ) :
    ∀ r ∈ (Dialogue.run serve (k.action c e args params).run s).requests,
      ∃ path url, e.renderPath args = .ok path ∧ c.buildUrl path = .ok url
        ∧ r.url = url.appendQuery params
        ∧ decodePairs (r.url.query.getD []) = decodePairs (url.query.getD []) ++ params := by
  refine (k.allSent_action fun _ path url p hpath hurl => ?_).run serve s
  have heq := Client.url_request c e.verb.method url params p
  exact ⟨path, url, hpath, hurl, heq, by rw [heq, decodePairs_appendQuery]⟩

end Sdwan
