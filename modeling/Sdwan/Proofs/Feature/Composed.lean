/-
Interfaces that are made by calls, and what of each call is still there.

# What a call leaves

Some calls add an entry, and all entries are kept in their order
(`entries_composed`). A choice of how addresses are shared takes the place of
the one before, and nothing else touches it (`leaves_composed`). An address is
given or asked for, and each call takes back what the other kind has set.

# What can go wrong

The induction takes off the last call. What holds of a new interface and is
kept by every call is all that the settings need of each other but one thing:
the ends of a pool are taken as they come. So of all the rules for several
settings a made interface breaks one at most, and it does so exactly when the
last choice was a pool from above to below (`composed_settled`).
-/
import Sdwan.Proofs.Feature.Concord

namespace Sdwan.Feature.Interface

open Validation

-- ============================================== calls

/-- A call that sets something of an interface. -/
inductive Setting where
  | devices (devices : List DeviceModel)
  | ipv4Address (address : Net.Ipv4Net)
  | dhcpClient
  | tunnel (color : Color) (encap : Encap)
  | service (service : Service)
  | interfaceNat
  | natPool (first last : Net.Ipv4) (prefixLength : UInt8)
  | staticNat (rule : StaticNat)
  | accessList (direction : Direction) (name : String)
  | vrrp (group : Vrrp)
  | mtu (mtu : UInt16)

namespace Setting

/-- What a call makes of an interface. -/
def apply (i : Interface) : Setting → Interface
  | devices ds => i.withDevices ds
  | ipv4Address address => i.withIpv4Address address
  | dhcpClient => i.withDhcpClient
  | tunnel color encap => i.withTunnel color encap
  | service s => i.allow s
  | interfaceNat => i.withInterfaceNat
  | natPool first last prefixLength => i.withNatPool first last prefixLength
  | staticNat rule => i.addStaticNat rule
  | accessList direction name => i.addAccessList direction name
  | vrrp group => i.addVrrp group
  | mtu n => i.withMtu n

/-- The fixed rule for an address that a call adds. -/
def rule? : Setting → Option StaticNat
  | staticNat rule => some rule
  | _ => none

/-- The filter that a call adds. -/
def filter? : Setting → Option AccessList
  | accessList direction name => some ⟨direction, name⟩
  | _ => none

/-- The group of routers that a call adds. -/
def group? : Setting → Option Vrrp
  | vrrp group => some group
  | _ => none

/-- The call chooses how addresses are shared. -/
def isChoice : Setting → Bool
  | interfaceNat => true
  | natPool _ _ _ => true
  | _ => false

end Setting

/-- A new interface after these calls. -/
def composed (templateName templateDescription name : String) (settings : List Setting) :
    Interface :=
  settings.foldl Setting.apply (Interface.new templateName templateDescription name)

/-- The last choice of how addresses are shared. -/
def lastChoice (settings : List Setting) : Option Setting :=
  (settings.filter Setting.isChoice).getLast?

/-- It was a pool whose start is above its end. -/
def PoolReversed (settings : List Setting) : Prop :=
  ∃ first last prefixLength, lastChoice settings = some (.natPool first last prefixLength)
    ∧ last.toNat < first.toNat

variable {templateName templateDescription name : String}

/-- What a new interface has and every call keeps, an interface has after any
calls. -/
theorem composed_induction {P : List Setting → Interface → Prop}
    (hnew : P [] (Interface.new templateName templateDescription name))
    (happly : ∀ settings i s, P settings i → P (settings ++ [s]) (s.apply i))
    (settings : List Setting) :
    P settings (composed templateName templateDescription name settings) := by
  induction settings using List.reverseRecOn with
  | nil => exact hnew
  | append_singleton settings s ih =>
      rw [composed, List.foldl_append]
      exact happly settings _ s ih

-- ============================================== entries

/-- A list that is unset as long as there is nothing in it. -/
def listed {α : Type} : List α → Option (List α)
  | [] => none
  | a :: as => some (a :: as)

theorem added_listed {α : Type} (as : List α) (a : α) :
    added (listed as) a = listed (as ++ [a]) := by
  cases as <;> rfl

/-- A list that some calls add to, and that no call changes otherwise, holds
what they have added in the order of the calls. -/
theorem entries_composed {α : Type} (entries : Interface → Option (List α))
    {given : Setting → Option α}
    (hnew : entries (Interface.new templateName templateDescription name) = none)
    (happly : ∀ i s, entries (s.apply i)
      = match given s with
        | none => entries i
        | some a => added (entries i) a)
    (settings : List Setting) :
    entries (composed templateName templateDescription name settings)
      = listed (settings.filterMap given) := by
  refine composed_induction (P := fun settings i => entries i = listed (settings.filterMap given))
    hnew (fun settings i s ih => ?_) settings
  rw [happly, List.filterMap_append]
  cases h : given s with
  | none => simp [h, ih]
  | some a => simp [h, ih, added_listed]

-- ============================================== choices

/-- How addresses are shared is what this choice has left. -/
def NatSettings.Leaves (n : NatSettings) : Option Setting → Prop
  | some .interfaceNat => n.choice = some .interface
  | some (.natPool first last _) =>
      n.choice = some .pool ∧ n.poolStart = some first ∧ n.poolEnd = some last
  | _ => n.choice = none

theorem lastChoice_concat (settings : List Setting) (s : Setting) :
    lastChoice (settings ++ [s]) = if s.isChoice then some s else lastChoice settings := by
  rw [lastChoice, List.filter_append]
  cases h : s.isChoice with
  | true => simp [h]
  | false => simp [h, lastChoice]

/-- The choice and the ends of the pool are those of the last choice. -/
theorem leaves_composed (settings : List Setting) :
    (composed templateName templateDescription name settings).nat.Leaves (lastChoice settings) := by
  refine composed_induction (P := fun settings i => i.nat.Leaves (lastChoice settings))
    rfl (fun settings i s ih => ?_) settings
  rw [lastChoice_concat]
  cases s with
  | interfaceNat => rfl
  | natPool first last prefixLength => exact ⟨rfl, rfl, rfl⟩
  | staticNat rule =>
      -- the rules are beside the choice, and it does not matter what they are
      show NatSettings.Leaves { i.nat with static4 := _ } (lastChoice settings)
      unfold NatSettings.Leaves at ih ⊢
      split <;> simp_all
  | devices | ipv4Address | dhcpClient | tunnel | service | accessList | vrrp | mtu => exact ih

variable {n : NatSettings} {choice : Option Setting}

theorem NatSettings.Leaves.choice_ne_loopback (h : n.Leaves choice) :
    n.choice ≠ some .loopback := by
  unfold Leaves at h
  split at h
  · rw [h]
    nofun
  · rw [h.1]
    nofun
  · rw [h]
    nofun

/-- A pool is chosen only by a call that names its ends. -/
theorem NatSettings.Leaves.pool (h : n.Leaves choice) (hpool : n.choice = some .pool) :
    ∃ first last prefixLength, choice = some (.natPool first last prefixLength)
      ∧ n.poolStart = some first ∧ n.poolEnd = some last := by
  unfold Leaves at h
  split at h
  · rw [h] at hpool
    cases hpool
  · next first last prefixLength => exact ⟨first, last, prefixLength, rfl, h.2⟩
  · rw [h] at hpool
    cases hpool

-- ============================================== all settings together

/-- No call sets both an address and the asking for one. -/
theorem address_composed (settings : List Setting) :
    let i := composed templateName templateDescription name settings
    i.addressing.ipv4Address = none ∨ i.addressing.dhcpIpv4Client ≠ some ⟨true⟩ := by
  refine composed_induction (P := fun _ i =>
    i.addressing.ipv4Address = none ∨ i.addressing.dhcpIpv4Client ≠ some ⟨true⟩)
    (.inl rfl) (fun _ i s ih => ?_) settings
  cases s with
  | ipv4Address address => exact .inr nofun
  | dhcpClient => exact .inl rfl
  | devices | tunnel | service | interfaceNat | natPool | staticNat | accessList | vrrp | mtu =>
      exact ih

/-- No call sets a rate. -/
theorem shaping_composed (settings : List Setting) :
    (composed templateName templateDescription name settings).shaping = {} := by
  refine composed_induction (P := fun _ i => i.shaping = {}) rfl (fun _ i s ih => ?_) settings
  cases s <;> exact ih

/-- Whatever the calls are, the settings need nothing of each other that is not
there, but for the order of the ends of a pool. -/
theorem settled_composed (settings : List Setting) :
    (composed templateName templateDescription name settings).Settled where
  address := address_composed settings
  ends isPool := by
    obtain ⟨first, last, -, -, hstart, hend⟩ := (leaves_composed settings).pool isPool
    rw [hstart, hend]
    exact ⟨nofun, nofun⟩
  loopback isLoopback := absurd isLoopback (leaves_composed settings).choice_ne_loopback
  downstream := by
    rw [shaping_composed]
    exact nofun
  upstream := by
    rw [shaping_composed]
    exact nofun

/-- They go together unless the last choice was a pool from above to below. -/
theorem concordant_composed_iff (settings : List Setting) :
    (composed templateName templateDescription name settings).Concordant
      ↔ ¬ PoolReversed settings := by
  have hleaves : (composed templateName templateDescription name settings).nat.Leaves
    (lastChoice settings) := leaves_composed settings
  constructor
  · rintro h ⟨first, last, prefixLength, hlast, hbelow⟩
    rw [hlast] at hleaves
    obtain ⟨hpool, hstart, hend⟩ := hleaves
    exact Nat.not_le.mpr hbelow (h.order hpool first hstart last hend)
  · refine fun h => ⟨settled_composed settings, fun isPool first hfirst last hlast => ?_⟩
    obtain ⟨first', last', prefixLength, hchoice, hstart, hend⟩ := hleaves.pool isPool
    rw [hstart] at hfirst
    rw [hend] at hlast
    obtain rfl := Option.some.inj hfirst
    obtain rfl := Option.some.inj hlast
    exact Nat.not_lt.mp fun hbelow => h ⟨_, _, prefixLength, hchoice, hbelow⟩

/-- After any calls on a new interface, no address is both given and asked for,
a pool is not chosen without its ends nor a loopback interface at all, and the
rules, filters and groups are those that were added, in the order of the calls.
Of the rules for several settings only the order of the ends of a pool can be
broken, and it is exactly when the last choice was a pool from above to below;
the check of the whole finds this and nothing else. -/
theorem composed_settled (templateName templateDescription name : String)
    (settings : List Setting) :
    let i := composed templateName templateDescription name settings
    i.Settled ∧ i.nat.choice ≠ some .loopback
      ∧ i.nat.static4 = listed (settings.filterMap Setting.rule?)
      ∧ i.addressing.accessLists = listed (settings.filterMap Setting.filter?)
      ∧ i.neighbourhood.groups4 = listed (settings.filterMap Setting.group?)
      ∧ (i.Concordant ↔ ¬ PoolReversed settings)
      ∧ (i.checkWhole = none ↔ ¬ PoolReversed settings) := by
  intro i
  have hconcordant : i.Concordant ↔ ¬ PoolReversed settings := concordant_composed_iff settings
  refine ⟨settled_composed settings, (leaves_composed settings).choice_ne_loopback, ?_, ?_, ?_,
    hconcordant, checkWhole_eq_none.trans hconcordant⟩
  · exact entries_composed (·.nat.static4) rfl (fun i s => by cases s <;> rfl) settings
  · exact entries_composed (·.addressing.accessLists) rfl (fun i s => by cases s <;> rfl) settings
  · exact entries_composed (·.neighbourhood.groups4) rfl (fun i s => by cases s <;> rfl) settings

end Sdwan.Feature.Interface
