/-
Small types that several models share: booleans written as text, the
families of interfaces, and what a result list offers.
-/
import Sdwan.Json.Codec

namespace Sdwan

open Json

/-- A boolean that is written as a string. -/
structure TextBool where
  value : Bool := false
deriving DecidableEq, Repr, Inhabited

/-- How a boolean is written as a string. -/
def TextBool.text (b : TextBool) : String := if b.value then "true" else "false"

instance : Coded TextBool := codedByName [("true", ⟨true⟩), ("false", ⟨false⟩)] TextBool.text

-- ============================================== interfaces

/-- The families of interfaces that zones are made of. -/
inductive InterfaceType where
  | ethernet | fastEthernet | fiveGigabitEthernet | fortyGigabitEthernet | gigabitEthernet
  | hundredGigE | loopback | tenGigabitEthernet | tunnel | twentyFiveGigE
  | twentyFiveGigabitEthernet | twoGigabitEthernet | virtualPortGroup | vlan
deriving DecidableEq, Repr

namespace InterfaceType

/-- The name of a family. -/
def name : InterfaceType → String
  | ethernet => "Ethernet"
  | fastEthernet => "FastEthernet"
  | fiveGigabitEthernet => "FiveGigabitEthernet"
  | fortyGigabitEthernet => "FortyGigabitEthernet"
  | gigabitEthernet => "GigabitEthernet"
  | hundredGigE => "HundredGigE"
  | loopback => "Loopback"
  | tenGigabitEthernet => "TenGigabitEthernet"
  | tunnel => "Tunnel"
  | twentyFiveGigE => "TwentyFiveGigE"
  | twentyFiveGigabitEthernet => "TwentyFiveGigabitEthernet"
  | twoGigabitEthernet => "TwoGigabitEthernet"
  | virtualPortGroup => "VirtualPortGroup"
  | vlan => "Vlan"

/-- All families. -/
def all : List InterfaceType :=
  [ethernet, fastEthernet, fiveGigabitEthernet, fortyGigabitEthernet, gigabitEthernet,
    hundredGigE, loopback, tenGigabitEthernet, tunnel, twentyFiveGigE,
    twentyFiveGigabitEthernet, twoGigabitEthernet, virtualPortGroup, vlan]

instance : Coded InterfaceType := codedByName (all.map fun t => (t.name, t)) name

end InterfaceType

-- ============================================== results

/-- The only item of a list. -/
def single? {α : Type} : List α → Option α
  | [a] => some a
  | _ => none

end Sdwan
