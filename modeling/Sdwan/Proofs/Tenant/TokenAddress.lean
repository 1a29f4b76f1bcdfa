/-
The address of a token says the same with a controller in front of it and
without one.

A text that begins with one slash is read in the place of a host that does not
matter, and behind the address of a controller it is read on its own. Both ways
end at the path, with the same text left over (`join_slash`, `join_place`), so
they find the same query: what stands between the first question mark and the
number sign, encoded where a query encodes (`getD_tail_of_path`).

The parameter that is asked for is the first one of its name. If there is none,
the error quotes the address that was given. That is the one thing in which the
two addresses differ.
-/
import Sdwan.Proofs.Url.Authority
import Sdwan.Stock
import Sdwan.Tenant.Migration

namespace Sdwan

open Url

variable {base : Url} {scheme place cs rest : List Char} {c : Char} {items : List (List Char)}

-- ============================================== queries

namespace Url

/-- The text between the first question mark and the number sign. A question
mark behind the number sign does not count. -/
def queryOf (cs : List Char) : List Char :=
  ((cs.takeWhile (· != '#')).dropWhile (· != '?')).drop 1

theorem queryOf_question (cs : List Char) : queryOf ('?' :: cs) = cs.takeWhile (· != '#') := by
  simp [queryOf]

theorem queryOf_hash (cs : List Char) : queryOf ('#' :: cs) = [] := by
  simp [queryOf]

theorem queryOf_cons (h : endsPath c = false) (cs : List Char) :
    queryOf (c :: cs) = queryOf cs := by
  rw [endsPath, Bool.or_eq_false_iff, beq_eq_false_iff_ne, beq_eq_false_iff_ne] at h
  simp [queryOf, h]

/-- What is read behind a question mark is the query of the text, encoded. -/
theorem getD_tail_question (cs : List Char) :
    (tail .fixed ('?' :: cs)).1.getD [] = encodeWith inSpecialQuery (cs.takeWhile (· != '#')) := by
  cases hsplit : Text.splitFirst (· == '#') cs with
  | none =>
      have hall : cs.takeWhile (· != '#') = cs :=
        List.takeWhile_eq_self_iff.mpr fun c hc => by
          simpa using Text.not_sep_of_splitFirst hsplit c hc
      rw [tail, hsplit, hall]
      rfl
  | some parts =>
      obtain ⟨q, f⟩ := parts
      obtain ⟨s, hs, heq, hq⟩ := Text.splitFirst_eq_some hsplit
      have htake : cs.takeWhile (· != '#') = q := by
        rw [heq]
        exact Net.takeWhile_append_stops (fun c hc => by simpa using hq c hc)
          (Net.stops_cons (by simpa using hs) f)
      rw [tail, hsplit, htake]
      rfl

/-- What a path leaves of a text has the query of the text. -/
theorem getD_tail_of_path (cs : List Char) :
    (tail .fixed (cs.dropWhile (!endsPath ·))).1.getD []
      = encodeWith inSpecialQuery (queryOf cs) := by
  induction cs with
  | nil => rfl
  | cons c cs ih =>
      by_cases hquestion : c = '?'
      · subst hquestion
        rw [queryOf_question]
        exact getD_tail_question cs
      · by_cases hhash : c = '#'
        · subst hhash
          rw [queryOf_hash]
          rfl
        · have hc : endsPath c = false := by simp [endsPath, hquestion, hhash]
          rw [List.dropWhile_cons_of_pos (by simp [hc]), ih, queryOf_cons hc]

-- ============================================== two ways of reading

/-- One slash in front leads to the host of the base. -/
theorem join_slash [Url.Idna] (hfixed : layout base.scheme = .fixed)
    (hbase : base.path = .segments items)
    (hcs : ∀ c ∈ cs, 0x20 < c.toNat) (hhead : ∀ c ∈ cs.head?, isSlash .fixed c = false) :
    base.join (String.ofList ('/' :: cs))
      = .ok (withTail { base with path := (readPath .fixed [] cs).1 } .fixed
          (readPath .fixed [] cs).2) := by
  have hscheme : schemeHead? ('/' :: cs) = none :=
    schemeHead?_eq_none (p := []) List.not_mem_nil (by simp)
  rw [join_eq_relative hbase (List.forall_mem_cons.mpr ⟨by decide, hcs⟩) hscheme (by simp),
    relative_slash hfixed hhead]

/-- With a scheme and two slashes in front, nothing is taken from the base. -/
theorem join_eq_parse [Url.Idna] {text : String}
    (hhead : schemeHead? (prepared text.toList) = some (scheme, rest))
    (hfixed : layout scheme = .fixed) (hslashes : 2 ≤ slashes rest) :
    base.join text = parse text := by
  have hlocal : ¬ (base.scheme == scheme && decide (slashes rest < 2)) = true := by
    rw [Bool.and_eq_true, decide_eq_true_eq]
    omega
  rw [parse_of_schemeHead hhead hfixed]
  unfold join parseWith
  dsimp only
  rw [hhead]
  dsimp only
  unfold afterScheme
  rw [hfixed]
  exact if_neg hlocal

/-- The address of a place on the web is read at this place, whatever the base
is. -/
theorem join_place [Url.Idna] {behind : List Char} {text : String} (hscheme : IsWebScheme scheme)
    (htext : text.toList = scheme ++ ':' :: '/' :: '/' :: (place ++ behind))
    (hblank : ∀ c ∈ text.toList, 0x20 < c.toNat) (hplace : IsPlace place) (hne : place ≠ [])
    (hbehind : IsBehind behind) :
    base.join text = (readAuthority scheme place).map fun a =>
      withTail (a.url scheme (pathAfterHost .fixed behind).1) .fixed
        (pathAfterHost .fixed behind).2 := by
  have hhead : schemeHead? (prepared text.toList)
      = some (scheme, '/' :: '/' :: (place ++ behind)) := by
    rw [prepared_eq hblank, htext, hscheme.schemeHead?]
  have hslashes : 2 ≤ slashes ('/' :: '/' :: (place ++ behind)) := by
    have hslash : isSlash .fixed '/' = true := by decide
    simp [slashes, hslash]
  rw [join_eq_parse hhead hscheme.layout hslashes,
    parse_append hscheme htext hblank hplace hne hbehind]

end Url

-- ============================================== tokens

namespace Migration

open Url.Form

/-- A controller in the web: a host, with a port or without one, that stands in
an address with nothing behind it. -/
structure IsController [Url.Idna] (place : List Char) : Prop where
  chars : ∀ c ∈ place, 0x20 < c.toNat
  isPlace : IsPlace place
  valid : ∃ u, Url.parse ("https://" ++ String.ofList place) = .ok u

/-- Whether a place is a controller can be computed. -/
theorem isController_of_isSome [Url.Idna]
    (hchars : place.all (fun c => 0x20 < c.toNat ∧ endsAuthority .fixed c = false) = true)
    (h : (Url.parse ("https://" ++ String.ofList place)).toOption.isSome = true) :
    IsController place := by
  have hchars := List.all_iff_forall_prop.mp hchars
  refine ⟨fun c hc => (hchars c hc).1, fun c hc => (hchars c hc).2, ?_⟩
  cases hparse : Url.parse ("https://" ++ String.ofList place) with
  | ok u => exact ⟨u, rfl⟩
  | error e =>
      rw [hparse] at h
      cases h

/-- A path of visible characters behind one slash, and what follows it. -/
structure IsTarget (cs : List Char) : Prop where
  chars : ∀ c ∈ cs, 0x20 < c.toNat ∧ c ≠ '\\'
  single : cs.head? ≠ some '/'

/-- No second slash follows the first one, which would name a host. -/
theorem IsTarget.head (h : IsTarget cs) : ∀ c ∈ cs.head?, isSlash .fixed c = false := by
  intro c hc
  have hslash : c ≠ '/' := by
    rintro rfl
    exact h.single hc
  have hback : c ≠ '\\' := (h.chars c (List.mem_of_mem_head? hc)).2
  simp [isSlash, hslash, hback]

theorem toList_address (place cs : List Char) :
    ("https://" ++ String.ofList place ++ String.ofList cs).toList
      = "https".toList ++ ':' :: '/' :: '/' :: (place ++ cs) := by
  rw [String.toList_append, String.toList_append, String.toList_ofList, String.toList_ofList,
    String.toList_ofList, List.append_assoc]
  rfl

/-- A controller has a host. -/
theorem IsController.ne_nil [Url.Idna] (h : IsController place) : place ≠ [] := by
  rintro rfl
  obtain ⟨u, hu⟩ := h.valid
  have hnone : (Url.parse "https://").toOption = none := rfl
  have hempty : "https://" ++ String.ofList [] = "https://" := by decide
  rw [hempty] at hu
  rw [hu] at hnone
  cases hnone

/-- The characters of an address at which a controller stands are visible. -/
theorem IsController.blank_lt [Url.Idna] (h : IsController place)
    (hcs : ∀ c ∈ cs, 0x20 < c.toNat) :
    ∀ c ∈ ("https://" ++ String.ofList place ++ String.ofList cs).toList, 0x20 < c.toNat := by
  have hscheme : ∀ c ∈ "https".toList, 0x20 < c.toNat :=
    List.all_iff_forall_prop.mp (by decide)
  rw [toList_address]
  refine List.forall_mem_append.mpr ⟨hscheme, ?_⟩
  refine List.forall_mem_cons.mpr ⟨by decide, List.forall_mem_cons.mpr ⟨by decide, ?_⟩⟩
  exact List.forall_mem_cons.mpr ⟨by decide, List.forall_mem_append.mpr ⟨h.chars, hcs⟩⟩

/-- Who and where the controller is can be read. -/
theorem IsController.exists_authority [Url.Idna] (h : IsController place) :
    ∃ a, readAuthority "https".toList place = .ok a := by
  obtain ⟨u, hu⟩ := h.valid
  have hnil : String.ofList ([] : List Char) = "" := rfl
  have hblank := h.blank_lt (List.forall_mem_nil fun c : Char => 0x20 < c.toNat)
  have htext := toList_address place []
  rw [hnil, String.append_empty] at hblank htext
  rw [parse_append (.inr rfl) htext hblank h.isPlace h.ne_nil (Net.stops_nil _), ok_map_iff] at hu
  obtain ⟨a, ha, -⟩ := hu
  exact ⟨a, ha⟩

namespace Import

variable {i : Import} {u : Url} {q : List Char}

/-- The query of the address is this one. -/
def HasQuery [Url.Idna] (i : Import) (q : List Char) : Prop :=
  ∃ u, i.url = .ok u ∧ u.query.getD [] = q

/-- The query of a text is the one that its path leaves. -/
theorem hasQuery_of_join [Url.Idna] (h : placeholder.join i.tokenUrl
      = .ok (withTail u .fixed (readPath .fixed [] cs).2)) :
    i.HasQuery (encodeWith inSpecialQuery (queryOf ('/' :: cs))) := by
  refine ⟨_, mapError_eq_ok_iff.mpr h, ?_⟩
  rw [queryOf_cons (by decide), ← getD_tail_of_path]
  rfl

/-- The query that is found is the one of the address. -/
theorem HasQuery.queryText [Url.Idna] (h : i.HasQuery q) : i.queryText = .ok (String.ofList q) := by
  obtain ⟨u, hu, rfl⟩ := h
  rw [Import.queryText, hu]
  rfl

/-- The value that is asked for is that of the first pair of the right name. -/
theorem HasQuery.tokenQuery_of_first [Url.Idna] (h : i.HasQuery q)
    {before after : List (String × String)}
    {value : String} (hq : decodePairs q = before ++ (TokenQuery.parameter, value) :: after)
    (hbefore : ∀ p ∈ before, p.1 ≠ TokenQuery.parameter) : i.tokenQuery = .ok ⟨value⟩ := by
  obtain ⟨u, hu, rfl⟩ := h
  have hlookup : (decodePairs (u.query.getD [])).lookup TokenQuery.parameter = some value :=
    List.lookup_eq_some_iff.mpr
      ⟨before, after, hq, fun p hp => bne_iff_ne.mpr (hbefore p hp).symm⟩
  rw [Import.tokenQuery, hu]
  dsimp only [bind, Except.bind]
  rw [hlookup]

/-- An address without the parameter has no token. -/
theorem HasQuery.tokenQuery_of_none [Url.Idna] (h : i.HasQuery q)
    (hq : ∀ p ∈ decodePairs q, p.1 ≠ TokenQuery.parameter) :
    i.tokenQuery
      = .error (.parse ("migrationId missing from " ++ Text.backquoted i.tokenUrl)) := by
  obtain ⟨u, hu, rfl⟩ := h
  have hlookup : (decodePairs (u.query.getD [])).lookup TokenQuery.parameter = none :=
    List.lookup_eq_none_iff.mpr fun p hp => bne_iff_ne.mpr (hq p hp).symm
  rw [Import.tokenQuery, hu]
  dsimp only [bind, Except.bind]
  rw [hlookup]
  rfl

/-- Without a controller in front. -/
theorem hasQuery_given [Url.Idna] (hcs : IsTarget cs) (process : String) :
    (Import.mk process (String.ofList ('/' :: cs))).HasQuery
      (encodeWith inSpecialQuery (queryOf ('/' :: cs))) :=
  hasQuery_of_join (join_slash (by decide) rfl (fun c hc => (hcs.chars c hc).1) hcs.head)

/-- With a controller in front. -/
theorem hasQuery_full [Url.Idna] (hplace : IsController place) (hcs : IsTarget cs)
    (process : String) :
    (Import.mk process ("https://" ++ String.ofList place ++ String.ofList ('/' :: cs))).HasQuery
      (encodeWith inSpecialQuery (queryOf ('/' :: cs))) := by
  obtain ⟨a, ha⟩ := hplace.exists_authority
  have hblank : ∀ c ∈ '/' :: cs, 0x20 < c.toNat :=
    List.forall_mem_cons.mpr ⟨by decide, fun c hc => (hcs.chars c hc).1⟩
  refine hasQuery_of_join (u := a.url "https".toList (readPath .fixed [] cs).1) ?_
  rw [join_place (.inr rfl) (toList_address place ('/' :: cs)) (hplace.blank_lt hblank)
    hplace.isPlace hplace.ne_nil (Net.stops_cons (by decide) cs), ha]
  rfl

/-- An address that begins with one slash is read the same way with a controller
in front of it and without one. Both have the query that stands in the text, and
the same value is asked for: that of the first pair of the right name. Where
there is none, both are errors, and each quotes the address that it is about. -/
theorem read_alike [Url.Idna] (hplace : IsController place) (hcs : IsTarget cs) (process : String) :
    let given : Import := ⟨process, String.ofList ('/' :: cs)⟩
    let full : Import := ⟨process, "https://" ++ String.ofList place ++ given.tokenUrl⟩
    let q := encodeWith inSpecialQuery (queryOf ('/' :: cs))
    ∀ i ∈ [given, full], i.queryText = .ok (String.ofList q)
      ∧ (∀ before value after, decodePairs q = before ++ (TokenQuery.parameter, value) :: after →
          (∀ p ∈ before, p.1 ≠ TokenQuery.parameter) → i.tokenQuery = .ok ⟨value⟩)
      ∧ ((∀ p ∈ decodePairs q, p.1 ≠ TokenQuery.parameter) →
          i.tokenQuery
            = .error (.parse ("migrationId missing from " ++ Text.backquoted i.tokenUrl))) := by
  intro given full q i hi
  have hquery : i.HasQuery q := by
    simp only [List.mem_cons, List.not_mem_nil, or_false] at hi
    rcases hi with rfl | rfl
    · exact hasQuery_given hcs process
    · exact hasQuery_full hplace hcs process
  exact ⟨hquery.queryText, fun _ _ _ => hquery.tokenQuery_of_first, hquery.tokenQuery_of_none⟩

section Stock

attribute [local instance] Stock.platform

/-- The first of two, in a query that ends at the number sign. -/
theorem read_alike_first :
    let place := "vmanage:8443".toList
    let cs := "token?foo=1&migration%49d=a%2Bb&migrationId=c#top?migrationId=d".toList
    IsController place ∧ IsTarget cs
      ∧ (Import.mk "42" (String.ofList ('/' :: cs))).tokenQuery = .ok ⟨"a+b"⟩
      ∧ (Import.mk "42" ("https://" ++ String.ofList place ++ String.ofList ('/' :: cs))).tokenQuery
          = .ok ⟨"a+b"⟩ := by
  intro place cs
  have hplace : IsController place :=
    isController_of_isSome (by decide) (by decide +kernel)
  have hcs : IsTarget cs := ⟨List.all_iff_forall_prop.mp (by decide), by decide⟩
  -- the name of the parameter is written with an escape, and the one in the fragment
  -- does not count
  have hpairs : decodePairs (encodeWith inSpecialQuery (queryOf ('/' :: cs)))
      = [("foo", "1")] ++ (TokenQuery.parameter, "a+b") :: [(TokenQuery.parameter, "c")] := by
    decide +kernel
  have hbefore : ∀ p ∈ [("foo", "1")], p.1 ≠ TokenQuery.parameter := by decide
  have hread := read_alike hplace hcs "42"
  refine ⟨hplace, hcs, ?_, ?_⟩
  · exact (hread _ List.mem_cons_self).2.1 _ _ _ hpairs hbefore
  · exact (hread _ (List.mem_cons_of_mem _ List.mem_cons_self)).2.1 _ _ _ hpairs hbefore

/-- Without the parameter the two results are not the same. -/
theorem tokenQuery_quotes_address :
    IsController "h".toList ∧ IsTarget "x".toList
      ∧ (Import.mk "42" "/x").tokenQuery ≠ (Import.mk "42" "https://h/x").tokenQuery := by
  refine ⟨isController_of_isSome (by decide) (by decide +kernel),
    ⟨List.all_iff_forall_prop.mp (by decide), by decide⟩, ?_⟩
  decide +kernel

end Stock

end Import

end Migration

end Sdwan
