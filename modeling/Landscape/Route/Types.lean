import Landscape.Lib.Prefix
import Mathlib.Data.List.AList

/-! The data of the route service: addresses, WAN targets by owner, LAN routes. -/
namespace Landscape.Route
open Lpm

inductive IpFamily where
  | ipv4
  | ipv6
  deriving DecidableEq

inductive IpAddr where
  | v4 (a : UInt32)
  | v6 (a : BitVec 128)
  deriving DecidableEq

def IpAddr.family : IpAddr → IpFamily
  | .v4 _ => .ipv4
  | .v6 _ => .ipv6

inductive IpNet where
  | v4 (n : Net 32)
  | v6 (n : Net 128)
  deriving DecidableEq

def IpNet.family : IpNet → IpFamily
  | .v4 _ => .ipv4
  | .v6 _ => .ipv6

def IpNet.len : IpNet → Nat
  | .v4 n => n.len
  | .v6 n => n.len

def IpNet.around (len : Nat) : IpAddr → IpNet
  | .v4 a => .v4 (.around len a.toBitVec)
  | .v6 a => .v6 (.around len a)

/-- The prefix is no longer than an address; a trie refuses any other key. -/
def IpNet.accepted : IpNet → Bool
  | .v4 n => n.len ≤ 32
  | .v6 n => n.len ≤ 128

def IpNet.Contains : IpNet → IpAddr → Prop
  | .v4 n, .v4 a => n.Contains a.toBitVec
  | .v6 n, .v6 a => n.Contains a
  | _, _ => False

instance (n : IpNet) (a : IpAddr) : Decidable (n.Contains a) := by
  cases n <;> cases a <;> simp only [IpNet.Contains] <;> infer_instance

def trieLookup {β : Type} (m : IpNet → Option β) : IpAddr → Option β
  | .v4 a => lookup (fun n => m (.v4 n)) (.around 32 a.toBitVec)
  | .v6 a => lookup (fun n => m (.v6 n)) (.around 128 a)

theorem trieLookup_isSome {β : Type} {m : IpNet → Option β} {a : IpAddr} :
    (trieLookup m a).isSome = true ↔
    ∃ n : IpNet, n.accepted = true ∧ (m n).isSome = true ∧ n.Contains a := by
  constructor
  · intro h
    cases a with
    | v4 a =>
      obtain ⟨n,hlen,hm⟩ := lookup_around_isSome.mp h
      exact ⟨.v4 n,decide_eq_true hlen,hm⟩
    | v6 a =>
      obtain ⟨n,hlen,hm⟩ := lookup_around_isSome.mp h
      exact ⟨.v6 n,decide_eq_true hlen,hm⟩
  · rintro ⟨n,hacc,hm,hn⟩
    cases n <;> cases a
    · exact lookup_around_isSome.mpr ⟨_,of_decide_eq_true hacc,hm,hn⟩
    · exact hn.elim
    · exact hn.elim
    · exact lookup_around_isSome.mpr ⟨_,of_decide_eq_true hacc,hm,hn⟩

theorem trieLookup_of_longest {β : Type} {m : IpNet → Option β} {a : IpAddr} {n : IpNet} {v : β}
    (hacc : n.accepted = true) (hn : n.Contains a) (hv : m n = some v)
    (hmax : ∀ n' : IpNet, n'.Contains a → n.len < n'.len → m n' = none) :
    trieLookup m a = some v := by
  cases n <;> cases a
  · exact lookup_around_of_longest (of_decide_eq_true hacc) hn hv fun n' _ => hmax (.v4 n')
  · exact hn.elim
  · exact hn.elim
  · exact lookup_around_of_longest (of_decide_eq_true hacc) hn hv fun n' _ => hmax (.v6 n')

abbrev MacAddr := BitVec 48

abbrev FlowId := UInt32

inductive RouteOwner where
  | link (id : BitVec 128)
  | netns (container : String)
  deriving DecidableEq

structure RouteTargetInfo where
  weight : UInt32
  ifindex : UInt32
  mac : Option MacAddr
  defaultRoute : Bool
  isDocker : Bool
  ifaceName : String
  ifaceIp : IpAddr
  gatewayIp : IpAddr
  devOnlyNexthop : Bool
  deriving DecidableEq

abbrev WanRoutesByOwner := AList fun _ : RouteOwner => RouteTargetInfo

inductive LanRouteMode where
  | reachable
  | nextHop (ip : IpAddr)
  | wanReachable
  deriving DecidableEq

structure LanRouteInfo where
  ifindex : UInt32
  ifaceName : String
  ifaceIp : IpAddr
  mac : Option MacAddr
  prefixLen : UInt8
  mode : LanRouteMode
  deriving DecidableEq

end Landscape.Route
