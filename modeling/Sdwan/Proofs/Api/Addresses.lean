/-
The address of a host has one form.

# Where the interface lies

Whatever address on the web a builder begins with, it makes a client, and the
interface of the client lies in the place of its host, right behind its path:
`build_settled`. That path ends with a slash, so that no segment of it is lost.

# The same address again

The text of the address that a builder has is read as this address, and so the
builder that begins with the text is the same one. The text can be too long for
that in one way: a label of the host may be written in more Punycode than is
read (`HasShortLabels`). An address that lacks nothing but the slash at its end
begins the same builder, too.
-/
import Sdwan.Proofs.Api.Building
import Sdwan.Proofs.Stock.Names
import Sdwan.Proofs.Url.Slash
import Sdwan.Proofs.Url.Written

namespace Sdwan

open Url

variable {address : String} {u : Url} {h : Host} {dir : List (List Char)}

-- ============================================== texts

namespace Url

/-- No label of the host is in Punycode of more than two thousand characters. -/
def HasShortLabels (u : Url) : Prop :=
  ∀ name code, u.host = some (.domain name) →
    "xn--".toList ++ code ∈ Text.pieces (· == '.') name → code.length ≤ 2000

/-- A label can be read back if it is not in Punycode, or in two thousand characters
of it at most. -/
theorem isReadable_iff {label : List Char} :
    Host.isReadable label = true ↔ ∀ code, label = "xn--".toList ++ code → code.length ≤ 2000 := by
  unfold Host.isReadable
  constructor
  · rintro hread code rfl
    rw [Host.afterPrefix?_xn] at hread
    exact of_decide_eq_true hread
  · intro hshort
    split
    · next code hafter => exact decide_eq_true (hshort code (Text.eq_append_of_afterPrefix hafter))
    · rfl

/-- For the host of a URL this is what the reader of hosts asks of its labels. -/
theorem hasShortLabels_iff (hhost : u.host = some h) : u.HasShortLabels ↔ h.isShort = true := by
  unfold HasShortLabels
  rw [hhost]
  cases h with
  | domain name =>
      rw [Host.isShort, Host.isReadableName, List.all_eq_true]
      constructor
      · intro hshort label hlabel
        refine isReadable_iff.mpr fun code hcode => hshort name code rfl ?_
        rwa [← hcode]
      · rintro hread name' code heq hmem
        cases heq
        exact isReadable_iff.mp (hread _ hmem) code rfl
  | ipv4 x => exact iff_of_true (fun name code hname => by cases hname) rfl
  | ipv6 x => exact iff_of_true (fun name code hname => by cases hname) rfl

/-- The path of a directory has its slash already. -/
theorem withSlash_eq (hu : u.IsDirectory dir) : u.withSlash = u := by
  have hslash : u.withSlash = { u with path := u.path.withSlash } := rfl
  rw [hslash, hu.path, withSlash_concat, ← hu.path]

/-- Below a directory stands the interface. -/
theorem chars_interface (hu : u.IsDirectory dir) :
    (u.interface dir).path.chars = u.path.chars ++ "dataservice/".toList := by
  have hpath : (u.interface dir).path = .segments (dir ++ ["dataservice".toList, []]) := rfl
  rw [hpath, hu.path]
  simp [Path.chars]

theorem getLast?_chars (hu : u.IsDirectory dir) : u.path.chars.getLast? = some '/' := by
  rw [hu.path]
  simp [Path.chars]

end Url

-- ============================================== builders

namespace ClientBuilder

variable {b : ClientBuilder}

/-- A new builder makes a client. -/
theorem build_new [Platform] (hdir : u.IsDirectory dir) (files : Files) :
    ({ hostUrl := u } : ClientBuilder).build files
      = .ok (({ hostUrl := u } : ClientBuilder).client dir) := by
  have hagent : Http.isHeaderValue "vmanage-rust/0.1.0" = true := by decide
  rw [build_eq hdir]
  exact if_pos hagent

/-- The text of a normal address begins a builder with this address, unless it
is too long. -/
theorem new_text [Platform] [LawfulIdna] {items : List (List Char)} (hu : u.IsNormal h items)
    (hdir : u.IsDirectory dir) :
    new u.text = if h.isShort then .ok { hostUrl := u }
      else .error (.config ("Invalid vManage URL " ++ Text.backquoted u.text
        ++ ": invalid international domain name")) := by
  have hparse := hu.parse_text
  split
  · next hshort =>
      rw [if_pos hshort] at hparse
      rw [new_eq hparse hu.web, withSlash_eq hdir]
  · next hshort =>
      have hmessage : ": " ++ ParseError.message .invalidDomainName
          = ": invalid international domain name" := by decide
      rw [if_neg hshort] at hparse
      rw [new, hparse]
      dsimp only
      rw [@String.append_assoc _ ": ", hmessage]

/-- Every address on the web begins a builder, and the builder makes a client.
The path of its host ends with a slash, and the interface lies right behind it
in the same place, without a query and a fragment. The text of the address that
the builder has begins the same builder exactly if no label of the host is too
long to be read; if one is, that is what the error says. An address without
query, fragment and backslash begins the same builder with a slash behind it. -/
theorem build_settled [Platform] [LawfulIdna] (haddress : WebAddress address) (files : Files) :
    ∃ b c, new address = .ok b ∧ b.build files = .ok c ∧ c.hostUrl = b.hostUrl
      ∧ b.hostUrl.path.chars.getLast? = some '/'
      ∧ c.apiUrl.scheme = c.hostUrl.scheme ∧ c.apiUrl.host = c.hostUrl.host
      ∧ c.apiUrl.port = c.hostUrl.port
      ∧ c.apiUrl.query = none ∧ c.apiUrl.fragment = none
      ∧ c.apiUrl.path.chars = c.hostUrl.path.chars ++ "dataservice/".toList
      ∧ (b.hostUrl.HasShortLabels → new b.hostUrl.text = .ok b)
      ∧ (¬ b.hostUrl.HasShortLabels →
          new b.hostUrl.text = .error (.config ("Invalid vManage URL "
            ++ Text.backquoted b.hostUrl.text ++ ": invalid international domain name")))
      ∧ ((∀ x ∈ address.toList, 0x20 < x.toNat ∧ x ≠ '?' ∧ x ≠ '#' ∧ x ≠ '\\') →
          address.toList.getLast? ≠ some '/' → new (address ++ "/") = .ok b) := by
  obtain ⟨u, hparse, hweb⟩ := haddress
  obtain ⟨dir, hdir⟩ := exists_isDirectory_withSlash hparse hweb
  obtain ⟨h, items, hu⟩ := isNormal_of_parse hparse hweb
  obtain ⟨items', hu'⟩ := hu.withSlash
  have htext := new_text hu' hdir
  have hshort := hasShortLabels_iff hu'.host
  refine ⟨{ hostUrl := u.withSlash }, _, new_eq hparse hweb, build_new hdir files, rfl,
    getLast?_chars hdir, rfl, rfl, rfl, rfl, rfl, chars_interface hdir, ?_, ?_, ?_⟩
  · intro hlabels
    rw [htext, if_pos (hshort.mp hlabels)]
  · intro hlabels
    rw [htext, if_neg fun h => hlabels (hshort.mpr h)]
  · intro hchars hlast
    obtain ⟨u', hparse', hweb', heq⟩ := withSlash_parse_concat hparse hweb hchars hlast
    rw [new_eq hparse' hweb', heq]

section Stock

attribute [local instance] Stock.platform

/-- Scheme and host are folded, the port is the scheme's own and the dots are
resolved before the address is written down. -/
theorem build_settled_dots :
    let address := "HTTPS://Me@Ex.ORG:443/a/../b"
    WebAddress address ∧ (∀ x ∈ address.toList, 0x20 < x.toNat ∧ x ≠ '?' ∧ x ≠ '#' ∧ x ≠ '\\')
      ∧ address.toList.getLast? ≠ some '/'
      ∧ ∃ b c, new address = .ok b ∧ b.build Files.bare = .ok c
        ∧ b.hostUrl.text = "https://Me@ex.org/b/"
        ∧ c.apiUrl.text = "https://Me@ex.org/b/dataservice/"
        ∧ new "https://Me@ex.org/b/" = .ok b ∧ new (address ++ "/") = .ok b := by
  have : LawfulIdna := Stock.lawfulIdna_names
  intro address
  let u : Url :=
    { scheme := "https".toList
      username := "Me".toList
      host := some (.domain "ex.org".toList)
      path := .segments ["b".toList] }
  have hchars : ∀ x ∈ address.toList, 0x20 < x.toNat ∧ x ≠ '?' ∧ x ≠ '#' ∧ x ≠ '\\' :=
    List.all_iff_forall_prop.mp (by decide)
  have hlast : address.toList.getLast? ≠ some '/' := by decide
  have hsome : (Url.parse address).toOption = some u := by decide +kernel
  have hparse : Url.parse address = .ok u := by
    cases hu : Url.parse address with
    | ok u' =>
        rw [hu] at hsome
        rw [Option.some.inj hsome]
    | error e =>
        rw [hu] at hsome
        cases hsome
  have haddress : WebAddress address := ⟨u, hparse, rfl⟩
  obtain ⟨b, c, hnew, hbuild, -, -, -, -, -, -, -, -, hagain, -, hslash⟩ :=
    build_settled haddress Files.bare
  have hb : b = { hostUrl := u.withSlash } :=
    Except.ok.inj (hnew.symm.trans (new_eq hparse rfl))
  subst hb
  -- builder and client of the theorem are the computed ones
  have hdir : u.withSlash.IsDirectory ["b".toList] := ⟨rfl, rfl⟩
  have hc : c = ({ hostUrl := u.withSlash } : ClientBuilder).client ["b".toList] :=
    Except.ok.inj (hbuild.symm.trans (build_new hdir Files.bare))
  have htext : u.withSlash.text = "https://Me@ex.org/b/" := by decide
  have hlabels : u.withSlash.HasShortLabels :=
    (hasShortLabels_iff rfl).mpr (by decide)
  refine ⟨haddress, hchars, hlast, _, c, hnew, hbuild, htext, ?_, ?_, hslash hchars hlast⟩
  · subst hc
    decide
  · rw [← htext]
    exact hagain hlabels

end Stock

-- ============================================== too long to be read

/-- Letters in ASCII and every fourth ideograph: short enough to be written, but
in more Punycode than is read. -/
def longLabel : List Char :=
  List.replicate 400 'a' ++ (List.range 550).map fun k => Char.ofNat (0x4E00 + 4 * k)

/-- The address of a host with that name. -/
def longAddress : String :=
  String.ofList ("https".toList ++ ':' :: '/' :: '/' :: (longLabel ++ ['/']))

/-- The characters of the long label are the letter and ideographs. -/
theorem of_mem_longLabel {c : Char} (h : c ∈ longLabel) :
    c = 'a' ∨ 0x4E00 ≤ c.toNat ∧ c.toNat < 0xA000 := by
  rcases List.mem_append.mp h with h | h
  · exact .inl (List.eq_of_mem_replicate h)
  · obtain ⟨k, hk, rfl⟩ := List.mem_map.mp h
    have hk := List.mem_range.mp hk
    have hvalid : (0x4E00 + 4 * k).isValidChar := .inl (by omega)
    have hchar : (Char.ofNat (0x4E00 + 4 * k)).toNat = 0x4E00 + 4 * k := by
      rw [Char.ofNat, dif_pos hvalid]
      rfl
    omega

/-- All of them stand for themselves, so the label is sound as it is. -/
theorem isSound_longLabel : Stock.isSound longLabel = true := by
  have hall : longLabel.all
      (fun c => Stock.Folding.fold c == [c] && !Stock.isUnassignable c) = true := by
    refine List.all_eq_true.mpr fun c hc => ?_
    rcases of_mem_longLabel hc with rfl | ⟨hge, hlt⟩
    · decide
    · have hassigned : Stock.isUnassignable c = false := by
        simp only [Stock.isUnassignable, Bool.or_eq_false_iff, Bool.and_eq_false_iff,
          decide_eq_false_iff_not, beq_eq_false_iff_ne]
        omega
      rw [Stock.Folding.fold_of_ideograph hge hlt, hassigned]
      exact Bool.and_eq_true_iff.mpr ⟨beq_self_eq_true _, rfl⟩
  rw [Stock.isSound, hall]
  decide

/-- The ideographs are far enough apart that each takes three digits. -/
theorem length_encode_longLabel : 2000 < (Punycode.encode longLabel).length := by
  have hspread : Punycode.isSpread 128 (List.replicate 400 'a').length
      ((List.range 550).map fun k => Char.ofNat (0x4E00 + 4 * k)) = true := by
    decide +kernel
  have hascii : ∀ d ∈ List.replicate 400 'a', d.toNat < 128 := by
    intro d hd
    rw [List.eq_of_mem_replicate hd]
    decide
  have hlength := Punycode.length_encode hspread hascii
  rw [List.length_replicate, List.length_map, List.length_range] at hlength
  have hmore : 2000 < 400 + 3 * 550 := by decide
  exact hmore.trans_le hlength

/-- The address as it is read. -/
def longUrl : Url :=
  { scheme := "https".toList
    host := some (.domain ("xn--".toList ++ Punycode.encode longLabel))
    path := .segments [[]] }

/-- A host may have all of its characters. -/
theorem allowed_of_mem_longLabel {c : Char} (h : c ∈ longLabel) : Host.isForbidden c = false := by
  rcases of_mem_longLabel h with rfl | ⟨hge, -⟩
  · decide
  · exact Host.isForbidden_of_beyond (by omega)

/-- The name has no dot, so it is one label. -/
theorem dot_not_mem_longLabel : '.' ∉ longLabel := by
  intro h
  rcases of_mem_longLabel h with heq | ⟨hge, -⟩
  · exact absurd heq (by decide)
  · exact absurd hge (by decide)

theorem length_longLabel : longLabel.length = 950 := by
  rw [longLabel, List.length_append, List.length_replicate, List.length_map, List.length_range]

theorem isWritable_longLabel : longLabel.length ≤ Stock.longestWritten := by
  rw [length_longLabel]
  decide

/-- A URL may have it between the slashes. -/
theorem isHostText_longLabel : IsHostText longLabel := by
  refine Host.isHostText_of_allowed (List.ne_nil_of_length_pos ?_) fun c =>
    allowed_of_mem_longLabel
  rw [length_longLabel]
  decide

section Stock

attribute [local instance] Stock.platform

/-- The name is read, and kept in Punycode. -/
theorem parse_longLabel :
    Host.parse longLabel = .ok (.domain ("xn--".toList ++ Punycode.encode longLabel)) := by
  exact Stock.parse_of_isSound isWritable_longLabel isSound_longLabel (by decide +kernel)
    (by decide) (fun c => allowed_of_mem_longLabel) dot_not_mem_longLabel

/-- The address is read as the URL with that name. -/
theorem parse_longAddress : Url.parse longAddress = .ok longUrl := by
  have htext : longAddress.toList = "https".toList ++ ':' :: '/' :: '/' :: (longLabel ++ ['/']) :=
    String.toList_ofList
  have hscheme : "https".toList.all (fun c => 0x20 < c.toNat) = true := by decide
  have hblank : ∀ c ∈ longAddress.toList, 0x20 < c.toNat := by
    intro c hc
    rw [htext] at hc
    simp only [List.mem_append, List.mem_cons, List.not_mem_nil, or_false] at hc
    rcases hc with hc | rfl | rfl | rfl | hc | rfl
    · exact List.all_iff_forall_prop.mp hscheme c hc
    · decide
    · decide
    · decide
    · exact (isHostText_longLabel.chars c hc).1
    · decide
  -- the reader is led part by part: computing it would take the whole Punycode
  rw [parse_append (.inr rfl) htext hblank (fun c hc => (isHostText_longLabel.chars c hc).2.1)
    isHostText_longLabel.ne_nil (Net.stops_cons (by decide) []),
    readAuthority_of_isHostText isHostText_longLabel, parse_longLabel]
  rfl

/-- In Punycode the label has more than two thousand characters. -/
theorem not_hasShortLabels_longUrl : ¬ longUrl.HasShortLabels := by
  intro hshort
  have hnodot :=
    (Stock.of_mem_punycode isWritable_longLabel isSound_longLabel dot_not_mem_longLabel).2
  refine absurd (hshort _ _ rfl ?_) (Nat.not_le_of_lt length_encode_longLabel)
  rw [Text.pieces_eq_singleton (Text.beq_eq_false_of_not_mem hnodot)]
  exact List.mem_cons_self

/-- A client is made for the host, but the text of its address is refused. -/
theorem new_longAddress : WebAddress longAddress ∧ ∃ b c, new longAddress = .ok b
    ∧ b.build Files.bare = .ok c ∧ ∀ b', new b.hostUrl.text ≠ .ok b' := by
  have : LawfulIdna := Stock.lawfulIdna_names
  have hdir : longUrl.IsDirectory [] := ⟨rfl, rfl⟩
  obtain ⟨h, items, hnormal⟩ := isNormal_of_parse parse_longAddress rfl
  have hlong : ¬ h.isShort = true := by
    rw [← hasShortLabels_iff hnormal.host]
    exact not_hasShortLabels_longUrl
  refine ⟨⟨longUrl, parse_longAddress, rfl⟩, { hostUrl := longUrl }, _, ?_,
    build_new hdir Files.bare, ?_⟩
  · rw [new_eq parse_longAddress rfl, withSlash_eq hdir]
  · intro b' hb'
    rw [new_text hnormal hdir, if_neg hlong] at hb'
    cases hb'

end Stock

end ClientBuilder

end Sdwan
