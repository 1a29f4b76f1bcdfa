/-
What an error keeps of a failed reply.

# What is said

A controller's account of a failure takes the place of the body it stands in
(`said`). Every part that the account has is in its one line, and a body that
is no account is kept as it is, so nothing that was said is lost.

# What is lost

An account does not have to have any part, and one without a word takes the
place of the body all the same. What is left of it then are the marks around
its parts, a single bracket at most (`brackets_describe`), whereas the body has
a brace or two brackets (`brackets_of_ofText`). So the body is gone, and these
are the only replies of which nothing is kept (`diagnostic_quoted`).
-/
import Sdwan.Api.Envelope
import Sdwan.Proofs.Json.Brackets
import Sdwan.Proofs.Json.Lookup
import Sdwan.Proofs.Success
import Sdwan.Proofs.Text.Numeral
import Sdwan.Proofs.Api.Stored

namespace Sdwan

open Http Json

/-- The text of the error has the other text in it. -/
def Error.Quotes (e : Error) (s : String) : Prop := s.toList <:+: e.message.toList

namespace Envelope

variable {e : Envelope} {body : String}

/-- What the account has to say. -/
def parts (e : Envelope) : List String := e.code.toList ++ e.message.toList ++ e.details.toList

/-- What stands in an error for the body of a reply. -/
def said (body : String) : String := ((ofText? body).map describe).getD body

-- ============================================== parts

theorem infix_intercalate {α : Type} {sep l : List α} {ls : List (List α)} (h : l ∈ ls) :
    l <:+: sep.intercalate ls := by
  induction ls with
  | nil => cases h
  | cons a as ih =>
      cases as with
      | nil =>
          obtain rfl := List.mem_singleton.mp h
          exact ⟨[], [], by rw [List.intercalate_singleton, List.nil_append, List.append_nil]⟩
      | cons b bs =>
          rw [List.intercalate_cons_cons]
          rcases List.mem_cons.mp h with rfl | h
          · exact (List.prefix_append l _).isInfix.trans (List.prefix_append _ _).isInfix
          · exact (ih h).trans (List.suffix_append _ _).isInfix

/-- Every part of an account is in its line. -/
theorem infix_describe {part : String} (h : part ∈ e.parts) :
    part.toList <:+: e.describe.toList := by
  have hpiece : ∃ piece ∈ (e.code.map fun c => "[" ++ c ++ "]").toList ++ e.message.toList
      ++ (e.details.map fun d => "(" ++ d ++ ")").toList, part.toList <:+: piece.toList := by
    simp only [parts, List.mem_append, Option.mem_toList] at h
    rcases h with (hcode | hmessage) | hdetails
    · refine ⟨"[" ++ part ++ "]", by simp [hcode], ?_⟩
      rw [String.toList_append, String.toList_append]
      exact List.infix_append _ _ _
    · exact ⟨part, by simp [hmessage], List.infix_refl _⟩
    · refine ⟨"(" ++ part ++ ")", by simp [hdetails], ?_⟩
      rw [String.toList_append, String.toList_append]
      exact List.infix_append _ _ _
  obtain ⟨piece, hmem, hpart⟩ := hpiece
  rw [describe, String.toList_intercalate]
  exact hpart.trans (infix_intercalate (List.mem_map_of_mem hmem))

-- ============================================== brackets

/-- Without a word, all that is left of an account are the marks around its
parts. -/
theorem brackets_describe (h : ∀ part ∈ e.parts, part = "") :
    '\x7b' ∉ e.describe.toList ∧ e.describe.toList.count '[' ≤ 1 := by
  have hempty : ∀ o : Option String, (∀ s ∈ o, s = "") → o = none ∨ o = some "" := by
    intro o ho
    cases o with
    | none => exact Or.inl rfl
    | some s => exact Or.inr (congrArg some (ho s rfl))
  obtain ⟨message, details, code⟩ := e
  simp only [parts, List.mem_append, Option.mem_toList, or_imp, forall_and] at h
  obtain ⟨⟨hcode, hmessage⟩, hdetails⟩ := h
  rcases hempty code hcode with rfl | rfl <;> rcases hempty message hmessage with rfl | rfl
    <;> rcases hempty details hdetails with rfl | rfl <;> decide

/-- A record is read from a container only. -/
theorem isContainer_of_readRecord {σ α : Type} {m : Members σ α} {name : String} {o : Origin}
    {d : Draft} {a : α} (h : m.readRecord name o d = .ok a) : d.IsContainer := by
  cases d with
  | array | object => exact trivial
  | null | bool | number | string | hugeNumber | brokenString | tooDeep | fault => cases h

/-- The body of an account has a brace or two brackets. -/
theorem brackets_of_ofText (h : ofText? body = some e) :
    '\x7b' ∈ body.toList ∨ 2 ≤ body.toList.count '[' := by
  have hread : readText (wrapped.readRecord "VmanageErrorEnvelope") body = .ok e := by
    unfold ofText? at h
    cases hread : readText (wrapped.readRecord "VmanageErrorEnvelope") body with
    | error err =>
        rw [hread] at h
        cases h
    | ok e' =>
        rw [hread] at h
        cases h
        rfl
  have hrecord := read_of_readText hread
  refine Draft.brace_or_brackets rfl (isContainer_of_readRecord hrecord) ?_
  intro xs closed hxs
  rw [hxs] at hrecord
  obtain ⟨⟨e', c⟩, htake, -⟩ := ok_bind_iff.mp hrecord
  cases xs with
  | nil => cases closed <;> cases htake
  | cons x xs =>
      obtain ⟨e'', hinner, -⟩ := ok_map_iff.mp htake
      exact ⟨x, rfl, isContainer_of_readRecord hinner⟩

-- ============================================== fronts

/-- Neither a brace nor a bracket is in the text. -/
def isBare (s : String) : Bool := s.toList.all fun c => c != '\x7b' && c != '['

theorem isBare_append (s t : String) : isBare (s ++ t) = (isBare s && isBare t) := by
  rw [isBare, String.toList_append, List.all_append]
  rfl

/-- The name of a status has none. -/
theorem isBare_text (s : Status) : isBare s.text = true := by
  have hcode : isBare (toString s.code) = true := by
    show (String.ofList (Nat.toDigits 10 s.code)).toList.all _ = true
    rw [String.toList_ofList, List.all_eq_true]
    exact Text.forall_mem_toDigits (by decide) (by decide)
  have hphrases : ∀ p ∈ Status.phrases, isBare p.2 = true := by decide +kernel
  have hphrase : isBare ((Status.phrases.lookup s.code).getD "<unknown status code>") = true := by
    cases hlookup : Status.phrases.lookup s.code with
    | none => decide
    | some phrase =>
        obtain ⟨before, behind, hsplit, -⟩ := List.lookup_eq_some_iff.mp hlookup
        exact hphrases (s.code, phrase) (by rw [hsplit]; simp)
  rw [Status.text, isBare_append, isBare_append, hcode, hphrase]
  rfl

/-- In front of what is said there is no mark of an account. -/
theorem exists_message_eq (status : Status) (body : String) :
    ∃ front, (Error.ofReply status body).message = front ++ said body ∧ isBare front = true := by
  have hstatus : ∀ opening kind : String, isBare opening = true → isBare kind = true →
      ∃ front, opening ++ (kind ++ status.text ++ ": " ++ said body) = front ++ said body
        ∧ isBare front = true := by
    intro opening kind hopening hkind
    refine ⟨opening ++ (kind ++ status.text ++ ": "), String.append_assoc.symm, ?_⟩
    rw [isBare_append, isBare_append, isBare_append, hopening, hkind, isBare_text]
    rfl
  unfold Error.ofReply
  dsimp only
  split
  case h_1 => exact ⟨_, rfl, by decide⟩
  case h_2 => exact ⟨_, rfl, by decide⟩
  case h_3 | h_4 => exact ⟨_, rfl, by decide⟩
  case h_5 => exact ⟨_, rfl, by decide⟩
  case h_6 | h_7 | h_8 | h_9 =>
    refine ⟨"Service unavailable: " ++ "vManage temporarily unavailable: ", ?_, by decide⟩
    exact String.append_assoc.symm
  case h_10 =>
    split
    · exact hstatus "Service unavailable: " "vManage server error " (by decide) (by decide)
    · exact hstatus "HTTP request failed: " "vManage error " (by decide) (by decide)

-- ============================================== replies

/-- What is said stands in the error, and so does all that stands in it. -/
theorem quotes_of_infix (status : Status) {s : String} (h : s.toList <:+: (said body).toList) :
    (Error.ofReply status body).Quotes s := by
  obtain ⟨front, hmessage, -⟩ := exists_message_eq status body
  unfold Error.Quotes
  rw [hmessage, String.toList_append]
  exact h.trans (List.suffix_append _ _).isInfix

/-- A body whose account has no word is not in the error. -/
theorem not_quotes_body (status : Status) (h : ofText? body = some e)
    (hwordless : ∀ part ∈ e.parts, part = "") : ¬ (Error.ofReply status body).Quotes body := by
  intro hquotes
  obtain ⟨front, hmessage, hfront⟩ := exists_message_eq status body
  obtain ⟨hbrace, hbracket⟩ := brackets_describe hwordless
  have hbare : ∀ c ∈ front.toList, c ≠ '\x7b' ∧ c ≠ '[' := by
    simpa [isBare] using hfront
  unfold Error.Quotes at hquotes
  rw [hmessage, said, h, String.toList_append] at hquotes
  rcases brackets_of_ofText h with hin | htwo
  · rcases List.mem_append.mp (hquotes.subset hin) with hin | hin
    · exact (hbare _ hin).1 rfl
    · exact hbrace hin
  · have hcount := hquotes.sublist.count_le '['
    rw [List.count_append, List.count_eq_zero.mpr fun hin => (hbare _ hin).2 rfl] at hcount
    have hone : ((Option.map describe (some e)).getD body).toList.count '[' ≤ 1 := hbracket
    omega

end Envelope

namespace Error

open Envelope

/-- An error keeps what a failed reply said: every part of the controller's
account, and the whole body if there is no account in it. So something is kept
of every reply but those whose account has no word in it. -/
theorem diagnostic_quoted (status : Status) (body : String) :
    (∀ e, ofText? body = some e → ∀ part ∈ e.parts, (ofReply status body).Quotes part)
      ∧ (ofText? body = none → (ofReply status body).Quotes body)
      ∧ (((ofReply status body).Quotes body
          ∨ ∃ e, ofText? body = some e
              ∧ ∃ part ∈ e.parts, part ≠ "" ∧ (ofReply status body).Quotes part)
        ↔ ∀ e, ofText? body = some e → ∃ part ∈ e.parts, part ≠ "") := by
  have hparts : ∀ e, ofText? body = some e →
      ∀ part ∈ e.parts, (ofReply status body).Quotes part := by
    intro e he part hpart
    refine quotes_of_infix status ?_
    rw [said, he]
    exact infix_describe hpart
  have hbody : ofText? body = none → (ofReply status body).Quotes body := by
    intro hnone
    refine quotes_of_infix status ?_
    rw [said, hnone]
    exact List.infix_refl _
  refine ⟨hparts, hbody, ?_, ?_⟩
  · intro hkept e he
    by_contra hwords
    have hwordless : ∀ part ∈ e.parts, part = "" := by
      intro part hpart
      by_contra hne
      exact hwords ⟨part, hpart, hne⟩
    rcases hkept with hquotes | ⟨e', he', part, hpart, hne, -⟩
    · exact not_quotes_body status he hwordless hquotes
    · obtain rfl : e = e' := Option.some.inj (he.symm.trans he')
      exact hne (hwordless part hpart)
  · intro hwords
    cases he : ofText? body with
    | none => exact Or.inl (hbody he)
    | some e =>
        obtain ⟨part, hpart, hne⟩ := hwords e he
        exact Or.inr ⟨e, rfl, part, hpart, hne, hparts e he part hpart⟩

/-- A controller that gives its reason under another name is not heard. -/
theorem diagnostic_quoted_unheard :
    let body := "\x7b\"error\":\x7b\"reason\":\"disk full\"\x7d\x7d"
    ofText? body = some ⟨none, none, none⟩
      ∧ ofReply ⟨400⟩ body = .badRequest ""
      ∧ ¬ (ofReply ⟨400⟩ body).Quotes body := by
  intro body
  have haccount : ofText? body = some ⟨none, none, none⟩ := by decide +kernel
  refine ⟨haccount, by decide +kernel, ?_⟩
  intro hquotes
  obtain ⟨part, hpart, -⟩ := (diagnostic_quoted ⟨400⟩ body).2.2.mp (Or.inl hquotes) _ haccount
  cases hpart

end Error

end Sdwan
