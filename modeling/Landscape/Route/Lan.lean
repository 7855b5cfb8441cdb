import Landscape.Lib.Interleave
import Landscape.Lib.Writeback
import Landscape.Route.Types

/-! The LAN routes: buckets by owner for IPv4, routes by key for IPv6, and the prefix map of the
data plane they are written to after the lock is released. -/
namespace Landscape.Route
open Interleave Lpm Function

structure LanIPv6RouteKey where
  ifaceName : String
  subnet : BitVec 128
  prefixLen : UInt8
  deriving DecidableEq

def LanRouteInfo.isSameSubnet (r other : LanRouteInfo) : Bool :=
  if r.prefixLen != other.prefixLen then false
  else
    match r.ifaceIp, other.ifaceIp with
    | .v4 ip1, .v4 ip2 =>
      if r.prefixLen == 0 then true
      else if 32 ≤ r.prefixLen then ip1 == ip2
      else
        let mask := BitVec.allOnes 32 <<< (32 - r.prefixLen.toNat)
        ip1.toBitVec &&& mask == ip2.toBitVec &&& mask
    | .v6 ip1, .v6 ip2 =>
      if r.prefixLen == 0 then true
      else if 128 ≤ r.prefixLen then ip1 == ip2
      else
        let mask := BitVec.allOnes 128 <<< (128 - r.prefixLen.toNat)
        ip1 &&& mask == ip2 &&& mask
    | _, _ => false

abbrev LanKey := IpNet

inductive LanRouteType where
  | lan
  | nextHop
  | wan
  deriving DecidableEq

structure LanValue where
  ifindex : UInt32
  addr : IpAddr
  mac : Option MacAddr
  routeType : LanRouteType
  deriving DecidableEq

def LanRouteInfo.key (r : LanRouteInfo) : LanKey := .around r.prefixLen.toNat r.ifaceIp

def LanRouteInfo.value (r : LanRouteInfo) : Option LanValue :=
  match r.mode with
  | .reachable => some ⟨r.ifindex,r.ifaceIp,r.mac,.lan⟩
  | .nextHop ip => if ip.family = r.ifaceIp.family then some ⟨r.ifindex,ip,r.mac,.nextHop⟩ else none
  | .wanReachable => some ⟨r.ifindex,r.ifaceIp,r.mac,.wan⟩

abbrev LanMap := LanKey → Option LanValue

def LanMap.get (m : LanMap) (k : LanKey) : Option LanValue :=
  if k.accepted then
    match k with
    | .v4 n => lookup (fun n => m (.v4 n)) n
    | .v6 n => lookup (fun n => m (.v6 n)) n
  else none

def LanMap.set (m : LanMap) (k : LanKey) (v : Option LanValue) : LanMap :=
  if k.accepted then update m k v else m

structure LanState where
  ipv4 : AList fun _ : String => List LanRouteInfo
  ipv6 : AList fun _ : LanIPv6RouteKey => LanRouteInfo
  map : LanMap

def LanState.empty : LanState := ⟨∅,∅,fun _ => none⟩

inductive LanUpdate where
  | noop
  | changed (removed : List LanRouteInfo) (added : LanRouteInfo)

def reconcileIpv4LanBucket (bucket : List LanRouteInfo) (newInfo : LanRouteInfo) :
    LanUpdate × List LanRouteInfo :=
  if bucket.contains newInfo then (.noop, bucket)
  else
    (.changed (bucket.filter fun x => x.isSameSubnet newInfo) newInfo,
      bucket.filter (fun x => !x.isSameSubnet newInfo) ++ [newInfo])

inductive LanOp where
  | upsertIpv4 (owner : String) (info : LanRouteInfo)
  | removeIpv4 (owner : String)
  | upsertIpv6 (key : LanIPv6RouteKey) (info : LanRouteInfo)
  | removeIpv6Iface (ifaceName : String)
  | removeIpv6Key (key : LanIPv6RouteKey)
  | lookup (k : LanKey)
  | update (k : LanKey) (v : LanValue)
  | delete (k : LanKey)

def LanRes : LanOp → Type
  | .upsertIpv4 _ _ | .upsertIpv6 _ _ => LanUpdate
  | .removeIpv4 _ | .removeIpv6Iface _ | .removeIpv6Key _ => List LanRouteInfo
  | .lookup _ => Option LanValue
  | .update _ _ | .delete _ => Unit

/- The keys of an interface, in the order in which the hash map `H` lists them. -/
structure KeyOrder where
  keys : (AList fun _ : LanIPv6RouteKey => LanRouteInfo) → List LanIPv6RouteKey
  mem_keys : ∀ m k, k ∈ keys m ↔ k ∈ m

def removeIpv6LanRoutesForIface (H : KeyOrder)
    (routes : AList fun _ : LanIPv6RouteKey => LanRouteInfo) (ifaceName : String) :
    List LanRouteInfo × AList fun _ : LanIPv6RouteKey => LanRouteInfo :=
  ((H.keys routes).filter fun k => k.ifaceName = ifaceName).foldl
    (fun acc k =>
      match acc.2.lookup k with
      | some route => (acc.1 ++ [route], acc.2.erase k)
      | none => acc)
    ([], routes)

def lanExec (H : KeyOrder) : (o : LanOp) → LanState → LanRes o × LanState
  | .upsertIpv4 owner info, s =>
    let r := reconcileIpv4LanBucket ((s.ipv4.lookup owner).getD []) info
    (r.1, { s with ipv4 := s.ipv4.insert owner r.2 })
  | .removeIpv4 owner, s => ((s.ipv4.lookup owner).getD [], { s with ipv4 := s.ipv4.erase owner })
  | .upsertIpv6 key info, s =>
    if s.ipv6.lookup key = some info then (LanUpdate.noop, s)
    else
      (.changed (s.ipv6.lookup key).toList info, { s with ipv6 := s.ipv6.insert key info })
  | .removeIpv6Iface ifaceName, s =>
    let r := removeIpv6LanRoutesForIface H s.ipv6 ifaceName
    (r.1, { s with ipv6 := r.2 })
  | .removeIpv6Key key, s => ((s.ipv6.lookup key).toList, { s with ipv6 := s.ipv6.erase key })
  | .lookup k, s => (s.map.get k, s)
  | .update k v, s => ((), { s with map := s.map.set k (some v) })
  | .delete k, s => ((), { s with map := s.map.set k none })

abbrev LanM := Prog LanOp LanRes

def lookupLan (k : LanKey) : LanM (Option LanValue) := .perform (LanOp.lookup k)
def updateLan (k : LanKey) (v : LanValue) : LanM Unit := .perform (LanOp.update k v)
def deleteLan (k : LanKey) : LanM Unit := .perform (LanOp.delete k)

/-- `add_lan_route`: an equal value found by the lookup is not written again. -/
def addLanRoute (info : LanRouteInfo) : LanM Unit :=
  match info.value with
  | none => pure ()
  | some v => do
    match ← lookupLan info.key with
    | some existing => if existing = v then pure () else updateLan info.key v
    | none => updateLan info.key v

def delLanRoute (info : LanRouteInfo) : LanM Unit := do
  match ← lookupLan info.key with
  | none => pure ()
  | some _ => deleteLan info.key

def syncRemovedLanRoutes : List LanRouteInfo → LanM Unit
  | [] => pure ()
  | route :: routes => do
    delLanRoute route
    syncRemovedLanRoutes routes

def syncLanUpdate : LanUpdate → LanM Unit
  | .noop => pure ()
  | .changed removed added => do
    syncRemovedLanRoutes removed
    addLanRoute added

inductive LanCall where
  | insertIpv4 (owner : String) (info : LanRouteInfo)
  | removeIpv4 (owner : String)
  | insertIpv6 (key : LanIPv6RouteKey) (info : LanRouteInfo)
  | removeIpv6 (ifaceName : String)
  | removeIpv6ByKey (key : LanIPv6RouteKey)

def LanCall.run : LanCall → LanM Unit
  | .insertIpv4 owner info => Prog.perform (LanOp.upsertIpv4 owner info) >>= syncLanUpdate
  | .removeIpv4 owner => Prog.perform (LanOp.removeIpv4 owner) >>= syncRemovedLanRoutes
  | .insertIpv6 key info => Prog.perform (LanOp.upsertIpv6 key info) >>= syncLanUpdate
  | .removeIpv6 ifaceName => Prog.perform (LanOp.removeIpv6Iface ifaceName) >>= syncRemovedLanRoutes
  | .removeIpv6ByKey key => Prog.perform (LanOp.removeIpv6Key key) >>= syncRemovedLanRoutes

end Landscape.Route
