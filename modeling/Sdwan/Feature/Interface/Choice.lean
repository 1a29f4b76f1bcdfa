/-
The choices that interface templates offer, each with its name.
-/
import Sdwan.Json.Codec

namespace Sdwan.Feature.Interface

open Json

/-- Which address an interface shows in the place of those behind it. -/
inductive NatChoice where
  | interface | pool | loopback
deriving DecidableEq, Repr

namespace NatChoice

/-- The values with their names. -/
def named : List (String × NatChoice) :=
  [("Interface", interface), ("Pool", pool), ("Loopback", loopback)]

/-- The name of a value. -/
def name : NatChoice → String
  | interface => "Interface"
  | pool => "Pool"
  | loopback => "Loopback"

instance : Coded NatChoice := codedByName named name

end NatChoice

/-- Which way a fixed rule works. -/
inductive NatDirection where
  | inside | outside
deriving DecidableEq, Repr

namespace NatDirection

/-- The values with their names. -/
def named : List (String × NatDirection) :=
  [("inside", inside), ("outside", outside)]

/-- The name of a value. -/
def name : NatDirection → String
  | inside => "inside"
  | outside => "outside"

instance : Coded NatDirection := codedByName named name

end NatDirection

/-- The protocols that ports belong to. -/
inductive Transport where
  | tcp | udp
deriving DecidableEq, Repr

namespace Transport

/-- The values with their names. -/
def named : List (String × Transport) :=
  [("tcp", tcp), ("udp", udp)]

/-- The name of a value. -/
def name : Transport → String
  | tcp => "tcp"
  | udp => "udp"

instance : Coded Transport := codedByName named name

end Transport

/-- The part an interface plays in the core region. -/
inductive CoreRegion where
  | core | coreShared
deriving DecidableEq, Repr

namespace CoreRegion

/-- The values with their names. -/
def named : List (String × CoreRegion) :=
  [("core", core), ("core-shared", coreShared)]

/-- The name of a value. -/
def name : CoreRegion → String
  | core => "core"
  | coreShared => "core-shared"

instance : Coded CoreRegion := codedByName named name

end CoreRegion

/-- The part an interface plays in a secondary region. -/
inductive SecondaryRegion where
  | off | secondaryOnly | secondaryShared
deriving DecidableEq, Repr

namespace SecondaryRegion

/-- The values with their names. -/
def named : List (String × SecondaryRegion) :=
  [("off", off), ("secondary-only", secondaryOnly), ("secondary-shared", secondaryShared)]

/-- The name of a value. -/
def name : SecondaryRegion → String
  | off => "off"
  | secondaryOnly => "secondary-only"
  | secondaryShared => "secondary-shared"

instance : Coded SecondaryRegion := codedByName named name

end SecondaryRegion

/-- How a tunnel wraps its packets. -/
inductive Encap where
  | gre | ipsec
deriving DecidableEq, Repr

namespace Encap

/-- The values with their names. -/
def named : List (String × Encap) :=
  [("gre", gre), ("ipsec", ipsec)]

/-- The name of a value. -/
def name : Encap → String
  | gre => "gre"
  | ipsec => "ipsec"

instance : Coded Encap := codedByName named name

end Encap

/-- The side of a tunnel that an interface is on. -/
inductive TunnelMode where
  | hub | spoke
deriving DecidableEq, Repr

namespace TunnelMode

/-- The values with their names. -/
def named : List (String × TunnelMode) :=
  [("hub", hub), ("spoke", spoke)]

/-- The name of a value. -/
def name : TunnelMode → String
  | hub => "hub"
  | spoke => "spoke"

instance : Coded TunnelMode := codedByName named name

end TunnelMode

/-- The transports that tunnels are told apart by. -/
inductive Color where
  | default | mpls | metroEthernet | bizInternet | publicInternet | lte | threeG | red | green
  | blue | gold | silver | bronze | custom1 | custom2 | custom3 | private1 | private2 | private3
  | private4 | private5 | private6
deriving DecidableEq, Repr

namespace Color

/-- The values with their names. -/
def named : List (String × Color) :=
  [("default", default), ("mpls", mpls), ("metro-ethernet", metroEthernet),
    ("biz-internet", bizInternet), ("public-internet", publicInternet), ("lte", lte),
    ("3g", threeG), ("red", red), ("green", green), ("blue", blue), ("gold", gold),
    ("silver", silver), ("bronze", bronze), ("custom1", custom1), ("custom2", custom2),
    ("custom3", custom3), ("private1", private1), ("private2", private2), ("private3", private3),
    ("private4", private4), ("private5", private5), ("private6", private6)]

/-- The name of a value. -/
def name : Color → String
  | default => "default"
  | mpls => "mpls"
  | metroEthernet => "metro-ethernet"
  | bizInternet => "biz-internet"
  | publicInternet => "public-internet"
  | lte => "lte"
  | threeG => "3g"
  | red => "red"
  | green => "green"
  | blue => "blue"
  | gold => "gold"
  | silver => "silver"
  | bronze => "bronze"
  | custom1 => "custom1"
  | custom2 => "custom2"
  | custom3 => "custom3"
  | private1 => "private1"
  | private2 => "private2"
  | private3 => "private3"
  | private4 => "private4"
  | private5 => "private5"
  | private6 => "private6"

instance : Coded Color := codedByName named name

end Color

/-- The carriers that tunnels are told apart by. -/
inductive Carrier where
  | default | carrier1 | carrier2 | carrier3 | carrier4 | carrier5 | carrier6 | carrier7
  | carrier8
deriving DecidableEq, Repr

namespace Carrier

/-- The values with their names. -/
def named : List (String × Carrier) :=
  [("default", default), ("carrier1", carrier1), ("carrier2", carrier2), ("carrier3", carrier3),
    ("carrier4", carrier4), ("carrier5", carrier5), ("carrier6", carrier6),
    ("carrier7", carrier7), ("carrier8", carrier8)]

/-- The name of a value. -/
def name : Carrier → String
  | default => "default"
  | carrier1 => "carrier1"
  | carrier2 => "carrier2"
  | carrier3 => "carrier3"
  | carrier4 => "carrier4"
  | carrier5 => "carrier5"
  | carrier6 => "carrier6"
  | carrier7 => "carrier7"
  | carrier8 => "carrier8"

instance : Coded Carrier := codedByName named name

end Carrier

/-- What the cable is made of. -/
inductive MediaType where
  | autoSelect | rj45 | sfp
deriving DecidableEq, Repr

namespace MediaType

/-- The values with their names. -/
def named : List (String × MediaType) :=
  [("auto-select", autoSelect), ("rj45", rj45), ("sfp", sfp)]

/-- The name of a value. -/
def name : MediaType → String
  | autoSelect => "auto-select"
  | rj45 => "rj45"
  | sfp => "sfp"

instance : Coded MediaType := codedByName named name

end MediaType

/-- The speeds of a port, in megabits a second. -/
inductive Speed where
  | ten | hundred | thousand | twoAndAHalfThousand | tenThousand
deriving DecidableEq, Repr

namespace Speed

/-- The values with their names. -/
def named : List (String × Speed) :=
  [("10", ten), ("100", hundred), ("1000", thousand), ("2500", twoAndAHalfThousand),
    ("10000", tenThousand)]

/-- The name of a value. -/
def name : Speed → String
  | ten => "10"
  | hundred => "100"
  | thousand => "1000"
  | twoAndAHalfThousand => "2500"
  | tenThousand => "10000"

instance : Coded Speed := codedByName named name

end Speed

/-- Whether a port sends and receives at once. -/
inductive Duplex where
  | full | half | auto
deriving DecidableEq, Repr

namespace Duplex

/-- The values with their names. -/
def named : List (String × Duplex) :=
  [("full", full), ("half", half), ("auto", auto)]

/-- The name of a value. -/
def name : Duplex → String
  | full => "full"
  | half => "half"
  | auto => "auto"

instance : Coded Duplex := codedByName named name

end Duplex

/-- Which way traffic is filtered. -/
inductive Direction where
  | inbound | outbound
deriving DecidableEq, Repr

namespace Direction

/-- The values with their names. -/
def named : List (String × Direction) :=
  [("in", inbound), ("out", outbound)]

/-- The name of a value. -/
def name : Direction → String
  | inbound => "in"
  | outbound => "out"

instance : Coded Direction := codedByName named name

end Direction

/-- What happens to a group when what it tracks fails. -/
inductive TrackAction where
  | decrement | shutdown
deriving DecidableEq, Repr

namespace TrackAction

/-- The values with their names. -/
def named : List (String × TrackAction) :=
  [("Decrement", decrement), ("Shutdown", shutdown)]

/-- The name of a value. -/
def name : TrackAction → String
  | decrement => "Decrement"
  | shutdown => "Shutdown"

instance : Coded TrackAction := codedByName named name

end TrackAction

end Sdwan.Feature.Interface
