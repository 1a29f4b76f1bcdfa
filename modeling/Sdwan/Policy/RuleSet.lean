/-
Rule sets: numbered rules that say which traffic they are for. A rule is
for IPv4 or for IPv6, and the networks in it belong to its family.
-/
import Sdwan.Api.Id
import Sdwan.Policy.PolicyList

namespace Sdwan.Policy

open Json Validation

-- ============================================== rules

/-- The family of addresses that a rule is for. -/
inductive Family where
  | ipv4 | ipv6
deriving DecidableEq, Repr

/-- The name of a family. -/
def Family.name : Family → String
  | ipv4 => "ipv4"
  | ipv6 => "ipv6"

/-- The name of a family in messages. -/
def Family.title : Family → String
  | ipv4 => "Ipv4"
  | ipv6 => "Ipv6"

instance : Coded Family := codedByName [("ipv4", .ipv4), ("ipv6", .ipv6)] Family.name

/-- What a rule does; there is one choice. -/
inductive RuleAction where
  | permit
deriving DecidableEq, Repr

instance : Coded RuleAction := codedByName [("permit", .permit)] fun _ => "permit"

/-- A rule: traffic has to meet all the conditions that are set. -/
structure Rule where
  family : Family
  order : String
  action : RuleAction := .permit
  sourcePrefix : Option Net.IpNet := none
  sourcePrefixVariable : Option String := none
  sourcePrefixList : Option ListId := none
  sourceFqdn : Option String := none
  sourceFqdnList : Option ListId := none
  sourcePort : Option String := none
  sourcePortList : Option ListId := none
  sourceGeoLocation : Option String := none
  sourceGeoLocationList : Option ListId := none
  destinationPrefix : Option Net.IpNet := none
  destinationPrefixVariable : Option String := none
  destinationPrefixList : Option ListId := none
  destinationFqdn : Option String := none
  destinationFqdnList : Option ListId := none
  destinationPort : Option String := none
  destinationPortList : Option ListId := none
  destinationGeoLocation : Option String := none
  destinationGeoLocationList : Option ListId := none
  protocol : Option String := none
  protocolName : Option String := none
  protocolNameList : Option ListId := none
deriving DecidableEq, Repr

namespace Rule

/-- The members of a rule. -/
def members : Members Rule Rule :=
  Rule.mk <$> .required "rule" Rule.family
    <*> .required "order" Rule.order
    <*> .defaulted "action" .permit Rule.action
    <*> .optional "sourceIpPrefix" Rule.sourcePrefix
    <*> .optional "sourceIpPrefixVariable" Rule.sourcePrefixVariable
    <*> .optional "sourceIpPrefixList" Rule.sourcePrefixList
    <*> .optional "sourceFqdn" Rule.sourceFqdn
    <*> .optional "sourceFqdnList" Rule.sourceFqdnList
    <*> .optional "sourcePort" Rule.sourcePort
    <*> .optional "sourcePortList" Rule.sourcePortList
    <*> .optional "sourceGeoLocation" Rule.sourceGeoLocation
    <*> .optional "sourceGeoLocationList" Rule.sourceGeoLocationList
    <*> .optional "destinationIpPrefix" Rule.destinationPrefix
    <*> .optional "destinationIpPrefixVariable" Rule.destinationPrefixVariable
    <*> .optional "destinationIpPrefixList" Rule.destinationPrefixList
    <*> .optional "destinationFqdn" Rule.destinationFqdn
    <*> .optional "destinationFqdnList" Rule.destinationFqdnList
    <*> .optional "destinationPort" Rule.destinationPort
    <*> .optional "destinationPortList" Rule.destinationPortList
    <*> .optional "destinationGeoLocation" Rule.destinationGeoLocation
    <*> .optional "destinationGeoLocationList" Rule.destinationGeoLocationList
    <*> .optional "protocol" Rule.protocol
    <*> .optional "protocolName" Rule.protocolName
    <*> .optional "protocolNameList" Rule.protocolNameList

instance : Coded Rule := members.coded "RuleSetRule"

-- ============================================== checks

/-- The position of a rule. -/
def checkOrder (raw : String) : Option Issue := checkIntRange raw 1 4294967295 "order"

/-- A port. -/
def checkPort (raw : String) : Option Issue := checkIntRange raw 0 65535 "Port"

/-- A port, or two in ascending order with a hyphen between them. -/
def checkPortToken (token : List Char) : Option Issue :=
  match Text.splitFirst (· == '-') token with
  | none => checkPort (String.ofList token)
  | some (first, last) =>
    firstIssue [checkPort (String.ofList first), checkPort (String.ofList last),
      match Text.readBelow? UInt32.size first, Text.readBelow? UInt32.size last with
      | some a, some b =>
        if a < b then none
        else some (.worded "port_range" ("Invalid port range " ++ String.ofList token))
      | _, _ => some (.worded "port_range" "Port must be an integer")]

/-- Ports with blanks between them. -/
def checkPorts (raw : String) : Option Issue :=
  firstIssue ((Text.words raw.toList).map checkPortToken)

/-- Numbers of protocols with blanks between them. -/
def checkProtocols (raw : String) : Option Issue :=
  firstIssue ((Text.words raw.toList).map fun t =>
    checkIntRange (String.ofList t) 0 255 "protocol")

/-- A network of the rule's family. -/
def checkFamily (r : Rule) (n : Option Net.IpNet) : Option Issue :=
  let fits : Bool := match r.family, n with
    | _, none => true
    | .ipv4, some (.v4 _) => true
    | .ipv6, some (.v6 _) => true
    | _, _ => false
  if fits then none
  else
    some (.worded "address_family"
      ("Prefix family does not match " ++ r.family.title ++ " rule"))

/-- The conditions of which a rule may set only one. -/
def groups (r : Rule) : List (List (String × Bool)) :=
  [[("sourceIpPrefix", r.sourcePrefix.isSome),
      ("sourceIpPrefixVariable", r.sourcePrefixVariable.isSome),
      ("sourceIpPrefixList", r.sourcePrefixList.isSome)],
    [("destinationIpPrefix", r.destinationPrefix.isSome),
      ("destinationIpPrefixVariable", r.destinationPrefixVariable.isSome),
      ("destinationIpPrefixList", r.destinationPrefixList.isSome)],
    [("sourceFqdn", r.sourceFqdn.isSome), ("sourceFqdnList", r.sourceFqdnList.isSome)],
    [("destinationFqdn", r.destinationFqdn.isSome),
      ("destinationFqdnList", r.destinationFqdnList.isSome)],
    [("sourcePort", r.sourcePort.isSome), ("sourcePortList", r.sourcePortList.isSome)],
    [("destinationPort", r.destinationPort.isSome),
      ("destinationPortList", r.destinationPortList.isSome)],
    [("sourceGeoLocation", r.sourceGeoLocation.isSome),
      ("sourceGeoLocationList", r.sourceGeoLocationList.isSome)],
    [("destinationGeoLocation", r.destinationGeoLocation.isSome),
      ("destinationGeoLocationList", r.destinationGeoLocationList.isSome)],
    [("protocol", r.protocol.isSome), ("protocolName", r.protocolName.isSome),
      ("protocolNameList", r.protocolNameList.isSome)]]

/-- The conditions go together, and the networks are of the family. -/
def checkConditions (r : Rule) : Option Issue :=
  firstIssue (r.groups.map (checkExclusive · false)
    ++ [r.checkFamily r.sourcePrefix, r.checkFamily r.destinationPrefix])

instance : Checked Rule where
  check r :=
    thenWhole
      (onText "order" r.order checkOrder
        ++ onTextIf "source_port" r.sourcePort checkPorts
        ++ onTextIf "destination_port" r.destinationPort checkPorts
        ++ onTextIf "protocol" r.protocol checkProtocols)
      r.checkConditions

-- ============================================== building

/-- A rule for IPv4 without conditions. -/
def ipv4 (order : UInt32) : Rule := { family := .ipv4, order := toString order }

/-- A rule for IPv6 without conditions. -/
def ipv6 (order : UInt32) : Rule := { family := .ipv6, order := toString order }

/-- Traffic from a network. -/
def withSourcePrefix (r : Rule) (n : Net.IpNet) : Rule := { r with sourcePrefix := some n }

/-- Traffic from the networks of a list. -/
def withSourcePrefixList (r : Rule) (id : ListId) : Rule := { r with sourcePrefixList := some id }

/-- Traffic from a network that is filled in later. -/
def withSourcePrefixVariable (r : Rule) (name : String) : Rule :=
  { r with sourcePrefixVariable := some name }

/-- Traffic to a network. -/
def withDestinationPrefix (r : Rule) (n : Net.IpNet) : Rule :=
  { r with destinationPrefix := some n }

/-- Traffic to the networks of a list. -/
def withDestinationPrefixList (r : Rule) (id : ListId) : Rule :=
  { r with destinationPrefixList := some id }

/-- Traffic to a host. -/
def withDestinationFqdn (r : Rule) (name : String) : Rule :=
  { r with destinationFqdn := some name }

/-- Traffic from ports. -/
def withSourcePorts (r : Rule) (ports : String) : Rule := { r with sourcePort := some ports }

/-- Traffic to ports. -/
def withDestinationPorts (r : Rule) (ports : String) : Rule :=
  { r with destinationPort := some ports }

/-- Traffic to a part of the world. -/
def withDestinationGeoLocation (r : Rule) (place : String) : Rule :=
  { r with destinationGeoLocation := some place }

/-- Numbers of protocols. -/
def withProtocols (r : Rule) (numbers : List UInt8) : Rule :=
  { r with protocol := some (" ".intercalate (numbers.map toString)) }

/-- Names of protocols. -/
def withProtocolNames (r : Rule) (names : List String) : Rule :=
  { r with protocolName := some (" ".intercalate names) }

end Rule

-- ============================================== rule sets

/-- The rules of a set, in order. -/
structure RuleSetDefinition where
  rules : List Rule := []
deriving DecidableEq, Repr

instance : Coded RuleSetDefinition :=
  (RuleSetDefinition.mk <$> .defaulted "rules" [] RuleSetDefinition.rules : Members _ _).coded
    "RuleSetDefinition"
instance : Checked RuleSetDefinition := ⟨fun d => insideEach "rules" check d.rules⟩

/-- A named set of rules. -/
structure RuleSet where
  name : String
  description : String := defaultDescription
  definition : RuleSetDefinition := {}
deriving DecidableEq, Repr

namespace RuleSet

/-- The tag of every rule set. -/
structure Tag where

instance : Coded Tag := codedByName [("ruleSet", ⟨⟩)] fun _ => "ruleSet"

/-- The members of a rule set. -/
def members : Members RuleSet RuleSet :=
  (fun name description _ definition => RuleSet.mk name description definition)
    <$> .required "name" RuleSet.name
    <*> .defaulted "description" defaultDescription RuleSet.description
    <*> .defaulted "type" Tag.mk (fun _ => ⟨⟩)
    <*> .required "definition" RuleSet.definition

instance : Coded RuleSet := members.coded "RuleSet"
instance : Checked RuleSet := ⟨fun s => inside "definition" (check s.definition)⟩

/-- The part of a path that rule sets are under. -/
def segment : String := "ruleset"

/-- A rule set without rules. -/
def new (name : String) : RuleSet := { name }

/-- The same rule set with another description. -/
def withDescription (s : RuleSet) (description : String) : RuleSet := { s with description }

/-- The same rule set with other rules. -/
def withRules (s : RuleSet) (rules : List Rule) : RuleSet := { s with definition := ⟨rules⟩ }

/-- Adds a rule. -/
def addRule (s : RuleSet) (r : Rule) : RuleSet := s.withRules (s.definition.rules ++ [r])

/-- The positions of the rules, where they are numbers of 32 bits. -/
def orders (s : RuleSet) : List Nat :=
  s.definition.rules.filterMap fun r => Text.readBelow? UInt32.size r.order.toList

/-- The position behind all rules, but not beyond the last one there is. -/
def nextOrder (s : RuleSet) : UInt32 :=
  match s.orders.max? with
  | none => 1
  | some n => UInt32.ofNat (min (n + 1) (UInt32.size - 1))

end RuleSet

end Sdwan.Policy
