/-
What stands between the slashes and the path of an address on the web.

# Where it ends

The first slash, question mark or number sign ends it, and so does a backslash.
What stands in front of that character is read on its own, as user name,
password, host and port (`readAuthority`), and whether it can be read does not
depend on what follows (`afterSlashes_append`). So two texts with the same
characters behind this place have the same path, query and fragment.

# How it is written

The parts are read from their own text (`readAuthority_chars`): no part has a
mark in it that would end it, and the only colons that do not stand in front of
a password or a port are those in the brackets of an address.
-/
import Mathlib.Data.Bool.AllAny
import Sdwan.Proofs.Net.Address
import Sdwan.Proofs.Url.Percent
import Sdwan.Proofs.Url.Reference

namespace Sdwan.Url

variable {scheme place behind cs user word : List Char} {c : Char} {u : Url}

-- ============================================== reading

/-- Who and where: all of an address but the scheme and what it names there. -/
structure Authority where
  username : List Char := []
  password : Option (List Char) := none
  host : Host
  /-- Only when it is not the scheme's own. -/
  port : Option Nat := none

/-- The address of a path at this place. -/
def Authority.url (a : Authority) (scheme : List Char) (path : Path) : Url :=
  { scheme, username := a.username, password := a.password, host := some a.host, port := a.port
    path }

/-- A port that is the whole text. -/
def readPort (scheme digits : List Char) : Parsed (Option Nat) :=
  if 65535 < Text.digitsValue digits || !digits.all Text.isDigit then .error .invalidPort
  else .ok (if digits.isEmpty || defaultPort scheme == some (Text.digitsValue digits) then none
    else some (Text.digitsValue digits))

/-- An authority that is the whole text. -/
def readAuthority [Idna] (scheme place : List Char) : Parsed Authority := do
  let (user, place) := (splitAtLast place).getD ([], place)
  let (username, password) := credentials user
  let (hostText, rest) := hostHead false place
  if hostText.isEmpty then .error .emptyHost
  else
    let host ← Host.parse hostText
    let port ← match rest with
      | ':' :: digits => readPort scheme digits
      | _ => .ok none
    .ok { username, password, host, port }

/-- None of the characters ends an authority. -/
def IsPlace (place : List Char) : Prop := ∀ c ∈ place, endsAuthority .fixed c = false

/-- The text is empty or begins with what ends an authority. -/
def IsBehind (behind : List Char) : Prop := Net.Stops (!endsAuthority .fixed ·) behind

/-- The four marks at which the place ends on the web. -/
theorem endsAuthority_iff :
    endsAuthority .fixed c = true ↔ c = '/' ∨ c = '\\' ∨ c = '?' ∨ c = '#' := by
  simp [endsAuthority, isSlash, endsPath, or_assoc]

/-- What follows a place begins with one of them, if there is anything. -/
theorem IsBehind.head (h : IsBehind behind) :
    ∀ c ∈ behind.head?, c = '/' ∨ c = '\\' ∨ c = '?' ∨ c = '#' :=
  fun c hc => endsAuthority_iff.mp (by simpa using h c hc)

/-- None of them is a digit, so a port ends there. -/
theorem IsBehind.stops_isDigit (h : IsBehind behind) : Net.Stops Text.isDigit behind := by
  intro c hc
  rcases h.head c hc with rfl | rfl | rfl | rfl <;> decide

/-- The place is what stands before the first mark. -/
theorem takeWhile_place (hplace : IsPlace place) (hbehind : IsBehind behind) :
    (place ++ behind).takeWhile (!endsAuthority .fixed ·) = place :=
  Net.takeWhile_append_stops (fun c hc => by simp [hplace c hc]) hbehind

theorem dropWhile_place (hplace : IsPlace place) (hbehind : IsBehind behind) :
    (place ++ behind).dropWhile (!endsAuthority .fixed ·) = behind :=
  Net.dropWhile_append_stops (fun c hc => by simp [hplace c hc]) hbehind

/-- Every text is an authority and what stands behind it. -/
theorem exists_place (cs : List Char) :
    ∃ place behind, cs = place ++ behind ∧ IsPlace place ∧ IsBehind behind := by
  refine ⟨cs.takeWhile (!endsAuthority .fixed ·), cs.dropWhile (!endsAuthority .fixed ·),
    List.takeWhile_append_dropWhile.symm, fun c hc => ?_, fun c hc => ?_⟩
  · simpa using List.mem_takeWhile_imp hc
  · have hnot := List.head?_dropWhile_not (!endsAuthority .fixed ·) cs
    rw [hc] at hnot
    exact hnot

/-- Behind the digits of a port stands what ends an authority, or nothing. -/
theorem any_head_eq_false (h : IsBehind behind) :
    (behind.head?.any fun c => !(endsPath c || c == '/' || c == '\\')) = false := by
  cases hhead : behind.head? with
  | none => rfl
  | some c => rcases h.head c hhead with rfl | rfl | rfl | rfl <;> rfl

/-- A port is read up to the first mark. Both ways to stop, the end of the text and
a mark, come to the same. -/
theorem portHead_append {digits : List Char} (hdigits : IsPlace digits)
    (hbehind : IsBehind behind) :
    portHead scheme (digits ++ behind) = (readPort scheme digits).map (·, behind) := by
  cases hsplit : Text.splitFirst (!Text.isDigit ·) digits with
  | none =>
      have hall : ∀ c ∈ digits, Text.isDigit c = true := fun c hc => by
        simpa using Text.not_sep_of_splitFirst hsplit c hc
      unfold portHead readPort
      rw [Net.takeWhile_append_stops hall hbehind.stops_isDigit,
        Net.dropWhile_append_stops hall hbehind.stops_isDigit, List.all_eq_true.mpr hall]
      dsimp only
      rw [any_head_eq_false hbehind, Bool.not_true, Bool.or_false]
      by_cases hn : 65535 < Text.digitsValue digits
      · rw [if_pos hn, decide_eq_true hn]
        rfl
      · rw [if_neg hn, decide_eq_false hn]
        rfl
  | some parts =>
      -- a character that is neither a digit nor the end makes both fail
      obtain ⟨ds, rest⟩ := parts
      obtain ⟨d, hd, rfl, hds⟩ := Text.splitFirst_eq_some hsplit
      have hends := hdigits d (by simp)
      have hd : Text.isDigit d = false := by simpa using hd
      have hds : ∀ c ∈ ds, Text.isDigit c = true := fun c hc => by simpa using hds c hc
      have hport : readPort scheme (ds ++ d :: rest) = .error .invalidPort :=
        if_pos (by simp [hd])
      have hstops : Net.Stops Text.isDigit (d :: (rest ++ behind)) := Net.stops_cons hd _
      rw [hport, portHead, List.append_assoc, List.cons_append,
        Net.takeWhile_append_stops hds hstops, Net.dropWhile_append_stops hds hstops]
      have hno : (!(endsPath d || d == '/' || d == '\\')) = true := by
        simp only [endsAuthority, isSlash, Bool.or_eq_false_iff] at hends
        simp_all
      rw [List.head?_cons, Option.any_some, if_pos hno, ite_self]
      rfl

/-- The host ends where the text does, or in front of a colon. -/
theorem hostHead_head (inBrackets : Bool) (cs : List Char) :
    ∀ c ∈ (hostHead inBrackets cs).2.head?, c = ':' := by
  fun_induction hostHead inBrackets cs with
  | case1 => simp
  | case2 b c cs hcolon => simp_all
  | case3 b c cs _ h rest heq ih =>
      rw [heq] at ih
      exact ih

/-- What stands behind an authority is not looked at until the authority has
been read. -/
theorem afterSlashes_append [Idna] (hlayout : layout scheme = .fixed) (hplace : IsPlace place)
    (hbehind : IsBehind behind) :
    afterSlashes scheme (place ++ behind) = (readAuthority scheme place).map fun a =>
      withTail (a.url scheme (pathAfterHost .fixed behind).1) .fixed
        (pathAfterHost .fixed behind).2 := by
  have hsub := splitAtLast_subset place
  unfold afterSlashes readAuthority
  rw [hlayout]
  dsimp only
  rw [takeWhile_place hplace hbehind, dropWhile_place hplace hbehind]
  generalize (splitAtLast place).getD ([], place) = parts at hsub
  obtain ⟨user, place'⟩ := parts
  have hsub' : (hostHead false place').2 ⊆ place :=
    List.Subset.trans (hostHead_subset false place') hsub
  have hhead := hostHead_head false place'
  have hempty : place' = [] → (hostHead false place').1 = [] := by
    rintro rfl
    rfl
  generalize hostHead false place' = parts at hsub' hhead hempty
  obtain ⟨hostText, rest⟩ := parts
  cases hostText with
  | nil => simp [Except.map]
  | cons x xs =>
    have hne : place'.isEmpty = false := by
      cases place' with
      | nil => cases hempty rfl
      | cons => rfl
    dsimp only at hsub' hhead ⊢
    have hlayouts : (Layout.fixed == Layout.free) = false := rfl
    simp only [hne, hlayouts, List.isEmpty_cons, Bool.and_false, Bool.false_and,
      Bool.false_eq_true, if_false]
    cases Host.parse (x :: xs) with
    | error e => rfl
    | ok host =>
        cases rest with
        | nil => rfl
        | cons c digits =>
            obtain rfl := hhead c rfl
            have hdigits : IsPlace digits := fun c hc =>
              hplace c (hsub' (List.mem_cons_of_mem _ hc))
            show (portHead scheme (digits ++ behind)).bind _
              = ((readPort scheme digits).bind _).map _
            rw [portHead_append hdigits hbehind]
            cases readPort scheme digits <;> rfl

-- ============================================== absolute texts

/-- The two schemes that requests are made with. -/
def IsWebScheme (scheme : List Char) : Prop := scheme = "http".toList ∨ scheme = "https".toList

/-- Two schemes are those of the web. -/
theorem isWeb_iff : u.isWeb = true ↔ IsWebScheme u.scheme := by
  rw [isWeb, Bool.or_eq_true, beq_iff_eq, beq_iff_eq]
  rfl

theorem IsWebScheme.layout (h : IsWebScheme scheme) : layout scheme = .fixed := by
  rcases h with rfl | rfl <;> decide

/-- A scheme of the web is read as the scheme up to the colon, since it has no
capital letter in it. -/
theorem IsWebScheme.schemeHead? (h : IsWebScheme scheme) (cs : List Char) :
    Url.schemeHead? (scheme ++ ':' :: cs) = some (scheme, cs) := by
  rcases h with rfl | rfl <;> rfl

/-- Behind the slashes stands the place, and it does not begin with another. -/
theorem dropWhile_slashes (hplace : IsPlace place) (hne : place ≠ []) :
    ('/' :: '/' :: (place ++ behind)).dropWhile (isSlash .fixed) = place ++ behind := by
  obtain ⟨c, cs, rfl⟩ := List.exists_cons_of_ne_nil hne
  have hc : isSlash .fixed c = false := by
    have h := hplace c List.mem_cons_self
    rw [endsAuthority, Bool.or_eq_false_iff] at h
    exact h.1
  have hslash : isSlash .fixed '/' = true := by decide
  simp [hc, hslash]

/-- A web address with a place in it is read at this place. -/
theorem parse_append [Idna] {text : String} (hscheme : IsWebScheme scheme)
    (htext : text.toList = scheme ++ ':' :: '/' :: '/' :: (place ++ behind))
    (hblank : ∀ c ∈ text.toList, 0x20 < c.toNat) (hplace : IsPlace place) (hne : place ≠ [])
    (hbehind : IsBehind behind) :
    parse text = (readAuthority scheme place).map fun a =>
      withTail (a.url scheme (pathAfterHost .fixed behind).1) .fixed
        (pathAfterHost .fixed behind).2 := by
  have hhead : schemeHead? (prepared text.toList)
      = some (scheme, '/' :: '/' :: (place ++ behind)) := by
    rw [prepared_eq hblank, htext, hscheme.schemeHead?]
  rw [parse_of_schemeHead hhead hscheme.layout, dropWhile_slashes hplace hne]
  exact afterSlashes_append hscheme.layout hplace hbehind

/-- Every address on the web has been read so. -/
theorem exists_authority_of_parse [Idna] {text : String} (h : parse text = .ok u)
    (hweb : u.isWeb = true) :
    ∃ place behind a, IsPlace place ∧ IsBehind behind ∧ readAuthority u.scheme place = .ok a
      ∧ u = withTail (a.url u.scheme (pathAfterHost .fixed behind).1) .fixed
          (pathAfterHost .fixed behind).2 := by
  obtain ⟨rest, -, hread⟩ := exists_afterSlashes_of_parse h hweb
  obtain ⟨place, behind, hsplit, hplace, hbehind⟩ :=
    exists_place (rest.dropWhile (isSlash .fixed))
  rw [hsplit, afterSlashes_append (layout_of_isWeb hweb) hplace hbehind, ok_map_iff] at hread
  obtain ⟨a, ha, hu⟩ := hread
  exact ⟨place, behind, a, hplace, hbehind, ha, hu.symm⟩

-- ============================================== writing

/-- The text of a host: it is not empty, and no mark in it ends it. -/
structure IsHostText (cs : List Char) : Prop where
  ne_nil : cs ≠ []
  chars : ∀ c ∈ cs, 0x20 < c.toNat ∧ endsAuthority .fixed c = false ∧ c ≠ '@'
  whole : ∀ rest, (∀ c ∈ rest.head?, c = ':') → hostHead false (cs ++ rest) = (cs, rest)

/-- Where the text of the authority is written as it is read. -/
structure IsWritten (u : Url) (h : Host) : Prop where
  host : u.host = some h
  hostText : IsHostText h.chars
  username : ∀ c ∈ u.username, inUserinfo c = false
  password : ∀ w, u.password = some w → w ≠ [] ∧ ∀ c ∈ w, inUserinfo c = false
  port : ∀ p, u.port = some p → p ≤ 65535 ∧ defaultPort u.scheme ≠ some p

/-- The port with a colon in front. -/
def portChars : Option Nat → List Char
  | none => []
  | some p => ':' :: Nat.toDigits 10 p

/-- The text between the slashes and the path. -/
def placeChars (u : Url) (h : Host) : List Char := u.userinfo ++ h.chars ++ portChars u.port

/-- The text of a place is two slashes and then user, host and port. -/
theorem authority_eq {h : Host} (hhost : u.host = some h) :
    u.authority = '/' :: '/' :: u.placeChars h := by
  rw [authority, hhost, placeChars]
  cases u.port <;> rfl

/-- Whatever stands for a user is encoded, and an empty password is none. -/
theorem of_credentials {name : List Char} {word? : Option (List Char)}
    (h : credentials cs = (name, word?)) : (∀ c ∈ name, inUserinfo c = false)
      ∧ ∀ w, word? = some w → w ≠ [] ∧ ∀ c ∈ w, inUserinfo c = false := by
  have hkept : ∀ cs, ∀ c ∈ encodeWith inUserinfo cs, inUserinfo c = false :=
    fun _ _ => not_set_of_mem_encodeWith isStable_inUserinfo
  unfold credentials at h
  split at h
  · cases h
    exact ⟨hkept cs, fun w hw => by cases hw⟩
  · next name word _ =>
      cases h
      refine ⟨hkept name, fun w hw => ?_⟩
      split at hw
      · cases hw
      · next hempty =>
          cases hw
          exact ⟨encodeWith_ne_nil (by simpa using hempty), hkept word⟩

/-- A port that is kept has sixteen bits and is not the one of the scheme. -/
theorem of_readPort {digits : List Char} {port : Option Nat}
    (h : readPort scheme digits = .ok port) :
    ∀ p, port = some p → p ≤ 65535 ∧ defaultPort scheme ≠ some p := by
  unfold readPort at h
  split at h
  · cases h
  · next hport =>
      cases h
      intro p hp
      split at hp
      · cases hp
      · next hdefault =>
          cases hp
          simp only [Bool.or_eq_true, decide_eq_true_eq, not_or, beq_iff_eq] at hport hdefault
          exact ⟨by omega, hdefault.2⟩

/-- What an authority is read as is written as it is read. -/
theorem of_readAuthority [Idna] {a : Authority} (h : readAuthority scheme place = .ok a) :
    (∃ text, Host.parse text = .ok a.host) ∧ (∀ c ∈ a.username, inUserinfo c = false)
      ∧ (∀ w, a.password = some w → w ≠ [] ∧ ∀ c ∈ w, inUserinfo c = false)
      ∧ ∀ p, a.port = some p → p ≤ 65535 ∧ defaultPort scheme ≠ some p := by
  unfold readAuthority at h
  dsimp only at h
  generalize hcredentials : credentials _ = parts at h
  obtain ⟨name, word?⟩ := parts
  obtain ⟨hname, hword⟩ := of_credentials hcredentials
  split at h
  · cases h
  · obtain ⟨host, hhost, h⟩ := ok_bind_iff.mp h
    split at h
    · obtain ⟨port, hport, h⟩ := ok_bind_iff.mp h
      cases h
      exact ⟨⟨_, hhost⟩, hname, hword, of_readPort hport⟩
    · cases h
      exact ⟨⟨_, hhost⟩, hname, hword, nofun⟩

/-- Without the mark there is nobody to log in as. -/
theorem splitAtLast_eq_none (h : '@' ∉ cs) : splitAtLast cs = none := by
  rw [splitAtLast, Text.splitFirst_eq_none]
  exact fun c hc => Text.beq_eq_false_of_not_mem h c (List.mem_reverse.mp hc)

/-- The last mark is the one behind the password: a host has none. -/
theorem splitAtLast_append (h : '@' ∉ cs) : splitAtLast (user ++ '@' :: cs) = some (user, cs) := by
  have hcs : ∀ c ∈ cs.reverse, (c == '@') = false := fun c hc =>
    Text.beq_eq_false_of_not_mem h c (List.mem_reverse.mp hc)
  rw [splitAtLast, List.reverse_append, List.reverse_cons, List.append_assoc,
    List.singleton_append, Text.splitFirst_append_cons hcs (by decide)]
  simp

/-- Among what stands in a name or a password there is no colon, for colons are
encoded there. -/
theorem no_colon (h : ∀ c ∈ cs, inUserinfo c = false) : ∀ c ∈ cs, (c == ':') = false := fun c hc =>
  beq_false_of_ne (isPathChar_of_inUserinfo (h c hc)).2

/-- A name alone is read as it is. -/
theorem credentials_name (h : ∀ c ∈ user, inUserinfo c = false) :
    credentials user = (user, none) := by
  rw [credentials, Text.splitFirst_eq_none (no_colon h), encodeWith_eq h]

/-- A name and a password are read as they are, cut at the one colon. -/
theorem credentials_word (h : ∀ c ∈ user, inUserinfo c = false) (hne : word ≠ [])
    (hword : ∀ c ∈ word, inUserinfo c = false) :
    credentials (user ++ ':' :: word) = (user, some word) := by
  rw [credentials, Text.splitFirst_append_cons (no_colon h) (by decide)]
  dsimp only
  rw [if_neg (by simpa using hne), encodeWith_eq h, encodeWith_eq hword]

/-- How a name with a password is written. -/
theorem userinfo_of_password (h : u.password = some word) :
    u.userinfo = (u.username ++ ':' :: word) ++ ['@'] := by
  rw [userinfo, h]
  cases u.username <;> rfl

/-- How a name alone is written. -/
theorem userinfo_of_username (h : u.password = none) (hne : u.username ≠ []) :
    u.userinfo = u.username ++ ['@'] := by
  rw [userinfo, h]
  cases huser : u.username with
  | nil => exact absurd huser hne
  | cons => rfl

/-- The user name and the password are read from in front of the at sign. -/
theorem IsWritten.credentials_userinfo {h : Host} (hw : u.IsWritten h) (hcs : '@' ∉ cs) :
    ∃ user, (splitAtLast (u.userinfo ++ cs)).getD ([], u.userinfo ++ cs) = (user, cs)
      ∧ credentials user = (u.username, u.password) := by
  have hsplit : ∀ user, u.userinfo = user ++ ['@'] →
      (splitAtLast (u.userinfo ++ cs)).getD ([], u.userinfo ++ cs) = (user, cs) := by
    intro user huser
    rw [huser, List.append_assoc, List.singleton_append, splitAtLast_append hcs, Option.getD_some]
  cases hword : u.password with
  | some w =>
      obtain ⟨hne, hw'⟩ := hw.password w hword
      exact ⟨_, hsplit _ (userinfo_of_password hword), credentials_word hw.username hne hw'⟩
  | none =>
      by_cases hne : u.username = []
      · have hnil : u.userinfo = [] := by rw [userinfo, hword, hne]
        refine ⟨[], ?_, by rw [hne]; rfl⟩
        rw [hnil, List.nil_append, splitAtLast_eq_none hcs, Option.getD_none]
      · exact ⟨_, hsplit _ (userinfo_of_username hword hne), credentials_name hw.username⟩

/-- A port is written with a colon and digits. -/
theorem of_mem_portChars {port : Option Nat} (h : c ∈ portChars port) :
    c = ':' ∨ Text.isDigit c = true := by
  cases port with
  | none => cases h
  | some p =>
      refine (List.mem_cons.mp h).imp_right fun h => ?_
      exact Text.forall_mem_toDigits (by decide) (fun d => Text.isDigit_digitChar) c h

/-- What stands in front of the host comes from name and password, apart from the
two marks. -/
theorem of_mem_userinfo (h : c ∈ u.userinfo) :
    c = ':' ∨ c = '@' ∨ c ∈ u.username ∨ ∃ w, u.password = some w ∧ c ∈ w := by
  cases hword : u.password with
  | some w =>
      simp only [userinfo_of_password hword, List.mem_append, List.mem_cons, List.not_mem_nil,
        or_false] at h
      tauto
  | none =>
      by_cases hne : u.username = []
      · rw [userinfo, hword, hne] at h
        cases h
      · rw [userinfo_of_username hword hne, List.mem_append, List.mem_singleton] at h
        tauto

/-- Hexadecimal digits are in ASCII. -/
theorem toNat_lt_of_isHexDigit (h : Text.isHexDigit c = true) : c.toNat < 128 := by
  simp only [Text.isHexDigit, Text.isDigit, Bool.or_eq_true, Bool.and_eq_true,
    decide_eq_true_eq] at h
  rcases h with (⟨-, h⟩ | ⟨-, h⟩) | ⟨-, h⟩
  all_goals exact Text.toNat_lt_of_le h (by decide)

/-- A digit is no mark. -/
theorem of_isHexDigit (h : Text.isHexDigit c = true) :
    0x20 < c.toNat ∧ endsAuthority .fixed c = false ∧ c ≠ '@' ∧ c ≠ ':' ∧ c ≠ '[' ∧ c ≠ ']' := by
  refine Text.forall_ascii (P := fun c => Text.isHexDigit c = true → 0x20 < c.toNat
    ∧ endsAuthority .fixed c = false ∧ c ≠ '@' ∧ c ≠ ':' ∧ c ≠ '[' ∧ c ≠ ']') ?_
    (toNat_lt_of_isHexDigit h) h
  decide

/-- No character of a place that was written ends it. This is why it is found again
as a whole. -/
theorem IsWritten.isPlace_placeChars {h : Host} (hw : u.IsWritten h) :
    ∀ c ∈ u.placeChars h, 0x20 < c.toNat ∧ endsAuthority .fixed c = false := by
  have huser : ∀ {c}, inUserinfo c = false → 0x20 < c.toNat ∧ endsAuthority .fixed c = false := by
    intro c hc
    obtain ⟨⟨hpath, hslash, hback⟩, -⟩ := isPathChar_of_inUserinfo hc
    obtain ⟨hblank, hquestion, hhash⟩ := not_inPath hpath
    exact ⟨hblank, by simp [endsAuthority, isSlash, endsPath, *]⟩
  intro c hc
  rcases List.mem_append.mp hc with hc | hc
  · rcases List.mem_append.mp hc with hc | hc
    · rcases of_mem_userinfo hc with rfl | rfl | hc | ⟨w, hword, hc⟩
      · decide
      · decide
      · exact huser (hw.username c hc)
      · exact huser ((hw.password w hword).2 c hc)
    · exact ⟨(hw.hostText.chars c hc).1, (hw.hostText.chars c hc).2.1⟩
  · rcases of_mem_portChars hc with rfl | hc
    · decide
    · have hdigit := of_isHexDigit (Text.isHexDigit_of_isDigit hc)
      exact ⟨hdigit.1, hdigit.2.1⟩

/-- A port in decimal is read back, unless it would have been left out. -/
theorem readPort_toDigits {p : Nat} (hp : p ≤ 65535) (hdefault : defaultPort scheme ≠ some p) :
    readPort scheme (Nat.toDigits 10 p) = .ok (some p) := by
  have hdigits : (Nat.toDigits 10 p).all Text.isDigit = true :=
    List.all_eq_true.mpr (Text.forall_mem_toDigits (by decide) fun d => Text.isDigit_digitChar)
  rw [readPort, Text.digitsValue_toDigits, hdigits, if_neg (by simpa using hp), if_neg]
  simpa [Nat.toDigits_ne_nil] using hdefault

/-- An authority that is written as it is read is read, if its host is. -/
theorem IsWritten.readAuthority_placeChars [Idna] {h : Host} (hw : u.IsWritten h) :
    readAuthority u.scheme (u.placeChars h) = (Host.parse h.chars).map fun h' =>
      ⟨u.username, u.password, h', u.port⟩ := by
  have hport : '@' ∉ portChars u.port := fun hmem =>
    absurd (of_mem_portChars hmem) (by decide)
  have hcs : '@' ∉ h.chars ++ portChars u.port := by
    intro hmem
    rcases List.mem_append.mp hmem with hmem | hmem
    · exact (hw.hostText.chars _ hmem).2.2 rfl
    · exact hport hmem
  have hcolon : ∀ c ∈ (portChars u.port).head?, c = ':' := by
    cases u.port with
    | none => simp [portChars]
    | some p => simp [portChars]
  obtain ⟨user, hsplit, hcredentials⟩ := hw.credentials_userinfo hcs
  unfold readAuthority
  rw [placeChars, List.append_assoc, hsplit]
  dsimp only
  rw [hcredentials]
  dsimp only
  rw [hw.hostText.whole _ hcolon]
  dsimp only
  rw [if_neg (by simpa using hw.hostText.ne_nil)]
  cases Host.parse h.chars with
  | error e => rfl
  | ok h' =>
      cases hp : u.port with
      | none => rfl
      | some p =>
          obtain ⟨hle, hdefault⟩ := hw.port p hp
          show (readPort u.scheme (Nat.toDigits 10 p)).bind _ = _
          rw [readPort_toDigits hle hdefault]
          rfl

/-- A host alone is an authority. -/
theorem readAuthority_of_isHostText [Idna] (hcs : IsHostText cs) :
    readAuthority scheme cs = (Host.parse cs).map fun h => { host := h } := by
  have hat : '@' ∉ cs := fun hmem => (hcs.chars _ hmem).2.2 rfl
  have hwhole := hcs.whole [] (by simp)
  rw [List.append_nil] at hwhole
  unfold readAuthority
  rw [splitAtLast_eq_none hat, Option.getD_none]
  dsimp only
  rw [hwhole]
  dsimp only
  rw [if_neg (by simpa using hcs.ne_nil)]
  cases Host.parse cs <;> rfl

end Sdwan.Url
