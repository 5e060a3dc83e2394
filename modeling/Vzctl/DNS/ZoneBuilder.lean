import Mathlib.Data.String.Basic
import Vzctl.DNS.Zone
import Vzctl.Network.IPv4CIDR
import Vzctl.Network.NetworkDatabase

/-!
# Building the zone

`DNSZoneBuilder.build`: from a snapshot of the networks, the records of running
containers and the ingress names of the host.
-/

namespace Vzctl

namespace DNS

structure NetworkSnapshot where
  networks : List NetworkRecord
  attachments : List NetworkAttachmentRecord

structure DNSRuntimeRecord where
  name : String
  network : String
  listenerNetwork : String
  stack : String
  project : String
  ip : String
  deriving DecidableEq, Repr

def serviceLabel : String := "vzctl.dev/dns-services"

variable (rules : TextRules)

def dnsLabel (value : String) : Option String :=
  let label := rules.lowercased value
  let alphanumeric (scalar : Char) : Bool :=
    rules.isLetter scalar || rules.isNumber scalar
  if label ≠ "" ∧ label.utf8ByteSize ≤ 63 ∧
      label.toList.head?.any alphanumeric ∧
      label.toList.getLast?.any alphanumeric ∧
      label.toList.all fun scalar => alphanumeric scalar || scalar = '-' then
    some label
  else
    none

/-- The part behind the last slash, unless that is empty. -/
def vmDNSLabel (value : String) : String :=
  let basename := String.ofList (value.toList.rtakeWhile (· ≠ '/'))
  if '/' ∈ value.toList ∧ basename ≠ "" then basename else value

def reverseName (ip : String) : Option String :=
  (ipv4Bytes ip).map fun bytes =>
    joined (bytes.reverse.map fun byte => toString byte.toNat) ++
      ".in-addr.arpa"

/-- Octet-aligned reverse zones that cover a network. -/
def reverseZonesFor (cidr : String) : List String :=
  match IPv4CIDR.parse cidr with
  | .error _ => []
  | .ok parsed =>
      let octets := min 3 ((parsed.prefixLength + 7) / 8)
      let zoneBits := octets * 8
      (List.range (2 ^ (zoneBits - parsed.prefixLength))).map fun index =>
        let base := (parsed.network.toNat + index * 2 ^ (32 - zoneBits)) %
          2 ^ 32
        joined (((octetsOf (UInt32.ofNat base)).take octets).reverse.map
          toString) ++ ".in-addr.arpa"

def zoneName (host : String) : String :=
  let labels := rules.labels host
  if labels.length < 3 then host
  else joined (labels.drop (labels.length - 3))

/-! ## Machines and services -/

/-- A name and an address on the network of a listener. -/
structure MachineRecord where
  name : String
  network : String
  ip : String
  listenerNetwork : String
  stack : String
  /-- Service names whose address this is. -/
  services : List String
  deriving DecidableEq, Repr

def MachineRecord.zone (machine : MachineRecord) : String :=
  machine.stack ++ ".vz.test"

def MachineRecord.fqdn (machine : MachineRecord) : String :=
  machine.name ++ "." ++ machine.network ++ "." ++ machine.zone

/-- `networks[id]`; an identifier that two networks have names none. -/
def uniqueNetwork (networks : List NetworkRecord) (id : String) :
    Option NetworkRecord :=
  match networks.filter (·.id = id) with
  | [network] => some network
  | _ => none

def serviceNames (raw : String) : List String :=
  ((raw.toList.splitOn ',').filter (· ≠ [])).filterMap fun service =>
    dnsLabel rules (trimming rules.isWhitespace (String.ofList service))

/-- The record of an attachment, unless the loop passes it over. -/
def attachmentMachine (snapshot : NetworkSnapshot)
    (attachment : NetworkAttachmentRecord) : Option MachineRecord := do
  let network ← uniqueNetwork snapshot.networks attachment.networkID
  guard (attachment.networkName = network.name)
  guard (network.runtimeState = "active")
  let cidr ← (IPv4CIDR.parse network.cidr).toOption
  guard (cidr.contains attachment.ip)
  let project ← attachment.project.or network.project
  let vm ← dnsLabel rules (vmDNSLabel attachment.vmID)
  let net ← dnsLabel rules network.name
  let stack ← dnsLabel rules project
  guard (ipv4Bytes attachment.ip).isSome
  let rawServices :=
    ((attachment.labels.lookup serviceLabel).or
      (network.labels.lookup serviceLabel)).getD ""
  return {
    name := vm
    network := net
    ip := attachment.ip
    listenerNetwork := network.id
    stack := stack
    services := serviceNames rules rawServices }

def runtimeMachine (runtime : DNSRuntimeRecord) : Option MachineRecord := do
  let name ← dnsLabel rules runtime.name
  guard (name ≠ "svc")
  let network ← dnsLabel rules runtime.network
  let stack ← dnsLabel rules runtime.stack
  guard (ipv4Bytes runtime.ip).isSome
  return {
    name := name
    network := network
    ip := runtime.ip
    listenerNetwork := runtime.listenerNetwork
    stack := stack
    services := [] }

/-- The machines that get records, in the order of the two loops. -/
def machines (snapshot : NetworkSnapshot)
    (runtimeRecords : List DNSRuntimeRecord) : List MachineRecord :=
  snapshot.attachments.filterMap (attachmentMachine rules snapshot) ++
    runtimeRecords.filterMap (runtimeMachine rules)

/-- The sets that the loops fill. -/
structure ZoneTables where
  records : Dictionary (List String) := ∅
  wildcardRecords : Dictionary (List String) := ∅
  shortRecords : Dictionary (Dictionary (List String)) := ∅
  ptrRecords : Dictionary (List String) := ∅
  zones : List String := []

namespace ZoneTables

def insertMachineRecord (tables : ZoneTables) (machine : MachineRecord) :
    ZoneTables :=
  { tables with
    zones := tables.zones.insert machine.zone
    records := tables.records.modify machine.fqdn [] (·.insert machine.ip)
    wildcardRecords :=
      tables.wildcardRecords.modify machine.fqdn [] (·.insert machine.ip)
    shortRecords :=
      tables.shortRecords.modify
        (contextKey rules (some machine.stack) machine.listenerNetwork) ∅
        (·.modify machine.name [] (·.insert machine.ip))
    ptrRecords :=
      match reverseName machine.ip with
      | some reverse =>
          tables.ptrRecords.modify reverse [] (·.insert machine.fqdn)
      | none => tables.ptrRecords }

def insertService (machine : MachineRecord) (tables : ZoneTables)
    (service : String) : ZoneTables :=
  { tables with
    records :=
      tables.records.modify (service ++ ".svc." ++ machine.zone) []
        (·.insert machine.ip) }

def insertMachine (tables : ZoneTables) (machine : MachineRecord) :
    ZoneTables :=
  machine.services.foldl (insertService machine)
    (tables.insertMachineRecord rules machine)

end ZoneTables

/-! ## Names that the host manages -/

/-- The project whose ingress a name is: the label in front of `vz.test`. -/
def ingressProject (name : String) : Option String :=
  match (rules.labels name).reverse with
  | top :: second :: project :: scope :: rest =>
      if second = "vz" ∧ top = "test" ∧ project ≠ "svc" then
        some project
      else if rest ≠ [] ∧ second = "vz" ∧ top = "test" ∧ scope = "svc" then
        some project
      else
        none
  | _ => none

structure HostTables where
  hostRecords : Dictionary (List String) := ∅
  ingressProjects : Dictionary String := ∅
  zones : List String

def HostTables.insert (tables : HostTables) (raw : String) : HostTables :=
  let name := canonicalName rules raw
  if name = "" then
    tables
  else
    { hostRecords := tables.hostRecords.insert name ["127.0.0.1"]
      ingressProjects :=
        match ingressProject rules name with
        | some project => tables.ingressProjects.insert name project
        | none => tables.ingressProjects
      zones := tables.zones.insert (zoneName rules name) }

def sortedSets (values : Dictionary (List String)) :
    Dictionary (List String) :=
  values.mapValues fun _ ips => some (sortedBy id ips)

def build (snapshot : NetworkSnapshot) (ttl : UInt32)
    (hostServices : List String)
    (ingressGuestAddresses : Dictionary (Dictionary String))
    (runtimeRecords : List DNSRuntimeRecord) : DNSZone :=
  let tables := (machines rules snapshot runtimeRecords).foldl
    (ZoneTables.insertMachine rules) {}
  let hosts := hostServices.foldl (HostTables.insert rules)
    { zones := tables.zones }
  { records := sortedSets tables.records
    wildcardRecords := sortedSets tables.wildcardRecords
    shortRecords :=
      tables.shortRecords.mapValues fun _ names => some (sortedSets names)
    ptrRecords := sortedSets tables.ptrRecords
    hostRecords := hosts.hostRecords
    ingressGuestAddresses := ingressGuestAddresses
    ingressProjects := hosts.ingressProjects
    reverseZones :=
      ((snapshot.networks.filter (·.runtimeState = "active")).flatMap
        fun network => reverseZonesFor network.cidr).dedup
    zones := hosts.zones.filter (· ≠ "")
    ttl := min 30 (max 5 ttl) }

end DNS

end Vzctl
