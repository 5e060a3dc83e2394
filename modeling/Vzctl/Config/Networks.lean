import Vzctl.Network.IPv4CIDR
import Vzctl.Reconciler.DependencyOrder

/-!
# Networks of a configuration

The networks and attachments of `config.rs`, the addresses of the standard
library and the networks of `ipnet`, whose parser is a parameter.
-/

namespace Vzctl

namespace Config

/-! ## Addresses -/

/-- `text.parse::<Ipv4Addr>()`, which knows of no end but that of the text. -/
def parseAddr (text : String) : Option UInt32 :=
  if '\x00' ∈ text.toList then none else inetPton text

theorem parseAddr_inetNtop (address : UInt32) :
    parseAddr (inetNtop address) = some address := by
  rw [parseAddr, if_neg (not_mem_inetNtop (by decide) (by decide) address)]
  exact inetPton_inetNtop address

/-- `ipnet::Ipv4Net`. -/
structure Ipv4Net where
  addr : UInt32
  prefixLength : Nat
  prefixRange : prefixLength ≤ 32
  deriving DecidableEq

namespace Ipv4Net

variable (net : Ipv4Net)

/-- The number of addresses. -/
def size : Nat := 2 ^ (32 - net.prefixLength)

/-- The first address. -/
def network : UInt32 :=
  UInt32.ofNat (net.addr.toNat / net.size * net.size)

/-- The last address. -/
def broadcast : UInt32 :=
  UInt32.ofNat (net.network.toNat + (net.size - 1))

def contains (address : UInt32) : Bool :=
  net.network ≤ address ∧ address ≤ net.broadcast

/-- The same network, given by its first address. -/
def trunc : Ipv4Net := { net with addr := net.network }

def text : String := inetNtop net.addr ++ "/" ++ Nat.repr net.prefixLength

/-- The address at an offset. -/
def addressAt (offset : Nat) : UInt32 :=
  UInt32.ofNat (net.network.toNat + offset)

/-- `host_offset`. -/
def hostOffset (address : UInt32) : Nat :=
  address.toNat - net.network.toNat

theorem size_pos : 0 < net.size := Nat.two_pow_pos _

theorem toNat_network :
    net.network.toNat = net.addr.toNat / net.size * net.size := by
  have below := Nat.div_mul_le_self net.addr.toNat net.size
  have bound := net.addr.toNat_lt
  exact UInt32.toNat_ofNat_of_lt' (below.trans_lt bound)

def block : AlignedBlock where
  base := net.network.toNat
  width := 32 - net.prefixLength
  aligned := by
    rw [toNat_network]
    exact Nat.dvd_mul_left _ _

theorem toNat_addressAt {offset : Nat} (inside : offset < net.size) :
    (net.addressAt offset).toNat = net.network.toNat + offset :=
  net.block.toNat_ofNat_base_add (Nat.sub_le _ _) net.network.toNat_lt inside

theorem broadcast_eq : net.broadcast = net.addressAt (net.size - 1) := rfl

theorem toNat_broadcast :
    net.broadcast.toNat = net.network.toNat + (net.size - 1) := by
  have positive := net.size_pos
  rw [broadcast_eq, net.toNat_addressAt (by omega)]

theorem contains_iff (address : UInt32) :
    net.contains address = true ↔
      ∃ offset, offset < net.size ∧ address = net.addressAt offset := by
  have positive := net.size_pos
  rw [contains, decide_eq_true_eq, UInt32.le_iff_toNat_le,
    UInt32.le_iff_toNat_le, toNat_broadcast]
  constructor
  · intro both
    refine ⟨address.toNat - net.network.toNat, by omega, ?_⟩
    rw [addressAt, Nat.add_sub_cancel' both.1, UInt32.ofNat_toNat]
  · intro found
    obtain ⟨offset, inside, same⟩ := found
    rw [same, net.toNat_addressAt inside]
    omega

theorem hostOffset_addressAt {offset : Nat} (inside : offset < net.size) :
    net.hostOffset (net.addressAt offset) = offset := by
  rw [hostOffset, net.toNat_addressAt inside]
  omega

theorem addressAt_inj {left right : Nat} (leftInside : left < net.size)
    (rightInside : right < net.size) :
    net.addressAt left = net.addressAt right ↔ left = right := by
  rw [← UInt32.toNat_inj, net.toNat_addressAt leftInside,
    net.toNat_addressAt rightInside]
  omega

end Ipv4Net

/-! ## Configuration -/

inductive NetworkMode where
  | shared
  | host
  deriving DecidableEq, Repr

/-- `serde_json::to_value` of a mode. -/
def NetworkMode.text : NetworkMode → String
  | .shared => "shared"
  | .host => "host"

inductive NetworkBackend where
  | vmnet
  | docker
  deriving DecidableEq, Repr

def NetworkBackend.text : NetworkBackend → String
  | .vmnet => "vmnet"
  | .docker => "docker"

structure NetworkConfig where
  cidr : String
  mode : NetworkMode
  dhcp : Bool
  natEgress : Bool
  backend : NetworkBackend
  deriving DecidableEq, Repr

structure VmNetwork where
  name : String
  ip : String
  deriving DecidableEq, Repr

/-- The networks, and the attachments of the VMs. -/
structure Environment where
  networks : Dictionary NetworkConfig
  vms : Dictionary (List VmNetwork)

/-- `parseNet` is `parse::<Ipv4Net>`, with the text of its error. -/
structure Library extends Dependencies.Library where
  parseNet : String → Except String Ipv4Net

end Config

end Vzctl
