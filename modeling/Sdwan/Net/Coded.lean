/-
The JSON forms of addresses, networks, identifiers and points in time.
-/
import Sdwan.Json.Codec
import Sdwan.Net.Address
import Sdwan.Net.Uuid

namespace Sdwan

open Json

namespace Net

instance : Coded Ipv4 := codedByText "IPv4 address" Ipv4.text Ipv4.parse?
instance : Coded Ipv6 := codedByText "IPv6 address" Ipv6.text Ipv6.parse?
instance : Coded Ip := codedByText "IP address" Ip.text Ip.parse?
instance : Coded Ipv4Net := codedByText "IPv4 network address" Ipv4Net.text Ipv4Net.parse?
instance : Coded Ipv6Net := codedByText "IPv6 network address" Ipv6Net.text Ipv6Net.parse?
instance : Coded IpNet := codedByText "IPv4 or IPv6 network address" IpNet.text IpNet.parse?
instance : Coded Uuid := codedByText "a formatted UUID string" Uuid.text Uuid.parse?

end Net

-- ============================================== points in time

/-- The milliseconds from 1 January 1970 to the last one of the year
262142, and back to the first one of the year 262143 BC. -/
def Instant.representable (ms : Int) : Bool := -8334601228800000 ≤ ms && ms ≤ 8210266876799999

/-- A point in time, in whole milliseconds. -/
structure Instant where
  millis : Int
  inRange : Instant.representable millis = true
deriving DecidableEq, Repr

/-- The point in time so many milliseconds after the epoch. -/
def Instant.ofMillis? (ms : Int) : Option Instant :=
  if h : Instant.representable ms = true then some ⟨ms, h⟩ else none

/-- A number of milliseconds. -/
def Instant.read : Reader Instant := fun _ d =>
  match d with
  | .number (.int i) =>
    match Instant.ofMillis? i with
    | some t => .ok t
    | none => .error .meaningless
  | d => wrongType d "a unix timestamp in milliseconds"

instance : Coded Instant := ⟨fun t => .int t.millis, Instant.read⟩

end Sdwan
