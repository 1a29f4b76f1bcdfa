/-
The JSON forms of addresses, networks, identifiers and points in time are
faithful.

All but the last are written as text, so it is enough that every text is
read as what it was printed for. For an identifier that is the form with
hyphens, whose 36 characters no other form has.
-/
import Sdwan.Net.Coded
import Sdwan.Proofs.Json.Faithful
import Sdwan.Proofs.Net.Address

namespace Sdwan

open Json

namespace Net

-- ============================================== identifiers

namespace Uuid

/-- A digit is read as what it was printed for. -/
theorem charDigit?_digitChar : ∀ d, charDigit? (digitChar d) = some d := by decide

/-- Digits are read one by one. -/
theorem mapM_charDigit? (ds : List (Fin 16)) : (ds.map digitChar).mapM charDigit? = some ds := by
  induction ds with
  | nil => rfl
  | cons d ds ih => rw [List.map_cons, List.mapM_cons, charDigit?_digitChar, ih]; rfl

/-- The digits of an identifier make it up. -/
theorem ofDigits?_digits (u : Uuid) : ofDigits? (u.digits.map digitChar) = some u := by
  rw [ofDigits?, mapM_charDigit?]
  exact dif_pos u.length_eq

/-- Five groups with hyphens between them are taken apart. -/
theorem withoutHyphens?_groups {a b c d e : List Char} (ha : a.length = 8) (hb : b.length = 4)
    (hc : c.length = 4) (hd : d.length = 4) (he : e.length = 12) :
    withoutHyphens? (a ++ '-' :: b ++ '-' :: c ++ '-' :: d ++ '-' :: e)
      = some (a ++ b ++ c ++ d ++ e) := by
  simp [withoutHyphens?, List.drop_append, List.drop_of_length_le, ha, hb, hc, hd, he]

/-- The groups of a printed identifier are its digits. -/
theorem withoutHyphens?_chars (u : Uuid) :
    withoutHyphens? u.chars = some (u.digits.map digitChar) := by
  have hlength : (u.digits.map digitChar).length = 32 := by rw [List.length_map, u.length_eq]
  unfold chars
  generalize u.digits.map digitChar = cs at hlength
  dsimp only
  rw [withoutHyphens?_groups (by simp [hlength]) (by simp [hlength]) (by simp [hlength])
    (by simp [hlength]) (by simp [hlength])]
  have hdrop : ∀ m n, cs.drop (m + n) = (cs.drop m).drop n := fun _ _ => List.drop_drop.symm
  rw [List.append_assoc, List.append_assoc, List.append_assoc, hdrop 16 4, List.take_append_drop,
    hdrop 12 4, List.take_append_drop, hdrop 8 4, List.take_append_drop, List.take_append_drop]

/-- An identifier is read as what it was printed for. -/
theorem parse?_text (u : Uuid) : parse? u.text = some u := by
  have hlength : u.chars.length = 36 := by
    have := u.length_eq
    simp [chars, this]
  rw [parse?, text, String.toList_ofList, ofChars?, hlength]
  show (withoutHyphens? u.chars).bind ofDigits? = some u
  rw [withoutHyphens?_chars]
  exact ofDigits?_digits u

end Uuid

-- ============================================== JSON forms

instance : Faithful Ipv4 := faithful_byText Ipv4.parse?_text
instance : Faithful Ipv6 := faithful_byText Ipv6.parse?_text
instance : Faithful Ip := faithful_byText Ip.parse?_text
instance : Faithful Ipv4Net := faithful_byText Ipv4Net.parse?_text
instance : Faithful Ipv6Net := faithful_byText Ipv6Net.parse?_text
instance : Faithful IpNet := faithful_byText IpNet.parse?_text
instance : Faithful Uuid := faithful_byText Uuid.parse?_text

end Net

/-- Every point in time is one of those that are read. -/
theorem Instant.ofMillis?_millis (t : Instant) : ofMillis? t.millis = some t := dif_pos t.inRange

instance : Faithful Instant where
  read_encode o t := by
    show (match Instant.ofMillis? t.millis with | some t => Except.ok t | none => _) = .ok t
    rw [Instant.ofMillis?_millis]

instance : Writes IsSet Instant := ⟨fun _ => nofun⟩

end Sdwan
