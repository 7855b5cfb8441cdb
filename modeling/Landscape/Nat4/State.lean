import Landscape.Lib.Interleave
import Landscape.Packet.ModifyV4

/-! The maps of the IPv4 NAT and the atomic accesses its programs make to them. -/
namespace Landscape.Nat4
open Interleave Packet Function

inductive Gress where
  | ingress
  | egress
  deriving DecidableEq

/- `timer_status`; `TIMER_DELETE_EGRESS` is `TIMER_CLEAN_START` under another name. -/
inductive TimerStatus where
  | init
  | pendingRef
  | active
  | timeout1
  | timeout2
  | release
  | cleanStart
  | deleteIngress
  | pushQueue
  deriving DecidableEq

def TimerStatus.value : TimerStatus → Nat
  | .init => 0
  | .pendingRef => 10
  | .active => 20
  | .timeout1 => 30
  | .timeout2 => 31
  | .release => 40
  | .cleanStart => 50
  | .deleteIngress => 51
  | .pushQueue => 52

inductive CtState where
  | init
  | syn
  | fin
  | lessEst
  deriving DecidableEq

structure MappingKey where
  gress : Gress
  l4proto : UInt8
  fromPort : UInt16
  fromAddr : UInt32
  deriving DecidableEq

structure MappingValue where
  stateRef : Nat
  addr : UInt32
  triggerAddr : UInt32
  port : UInt16
  triggerPort : UInt16
  generation : UInt16
  isAllowReuse : Bool
  deriving DecidableEq

structure EgressMappingValue where
  addr : UInt32
  port : UInt16
  triggerPort : UInt16
  triggerAddr : UInt32
  isAllowReuse : Bool
  deriving DecidableEq

structure PortQueueValue where
  port : UInt16
  lastGeneration : UInt16
  deriving DecidableEq

structure TimerKey where
  l4proto : UInt8
  pairIp : Inet4Pair
  deriving DecidableEq

structure TimerValue where
  serverStatus : CtState
  clientStatus : CtState
  status : TimerStatus
  clientAddr : UInt32
  clientPort : UInt16
  gress : Gress
  flowId : UInt8
  generationSnapshot : UInt16
  isStatic : Bool
  deriving DecidableEq

structure StaticValue where
  addr : UInt32
  port : UInt16
  deriving DecidableEq

/- An element of a hash map. A pointer to it stays readable after it has been deleted; `val` is the
   value it was inserted with, of which only the fields kept in `State` change later. -/
structure Elem (K V : Type) where
  id : Nat
  key : K
  val : V
  deriving DecidableEq

abbrev Mapping := Elem MappingKey MappingValue
abbrev EgressMapping := Elem MappingKey EgressMappingValue
abbrev Ct := Elem TimerKey TimerValue

inductive PortQueue where
  | tcp
  | udp
  | icmp
  deriving DecidableEq

variable (l4proto : UInt8)

def nat4FreePortQueue : PortQueue :=
  if l4proto == ipprotoTcp then .tcp else if l4proto == ipprotoUdp then .udp else .icmp

structure BpfTimer where
  inited : Bool
  armed : Bool
  running : Bool

structure FragCacheKey where
  l4proto : UInt8
  id : UInt16
  saddr : UInt32
  daddr : UInt32
  deriving DecidableEq

structure State where
  nextId : Nat
  ingress : MappingKey → Option Mapping
  egress : MappingKey → Option EgressMapping
  timer : TimerKey → Option Ct
  queue : PortQueue → List PortQueueValue
  stateRef : Mapping → Nat
  mappingReuse : Mapping → Bool
  egressReuse : EgressMapping → Bool
  status : Ct → TimerStatus
  serverStatus : Ct → CtState
  clientStatus : Ct → CtState
  bpfTimer : Ct → BpfTimer
  frags : FragCacheKey → Option (UInt16 × UInt16)

/-- One map operation, one compare-and-swap or one read or write of a shared field. -/
inductive Op where
  | ingressLookup (k : MappingKey)
  | ingressInsert (k : MappingKey) (v : MappingValue)
  | ingressDelete (k : MappingKey)
  | egressLookup (k : MappingKey)
  | egressInsert (k : MappingKey) (v : EgressMappingValue)
  | egressDelete (k : MappingKey)
  | timerLookup (k : TimerKey)
  | timerInsert (k : TimerKey) (v : TimerValue)
  | timerDelete (k : TimerKey)
  | queuePop (l4proto : UInt8)
  | queuePush (l4proto : UInt8) (v : PortQueueValue)
  | readStateRef (m : Mapping)
  | casStateRef (m : Mapping) (old new : Nat)
  | readMappingReuse (m : Mapping)
  | writeMappingReuse (m : Mapping) (allow : Bool)
  | readEgressReuse (e : EgressMapping)
  | writeEgressReuse (e : EgressMapping) (allow : Bool)
  | readStatus (c : Ct)
  | casStatus (c : Ct) (old new : TimerStatus)
  | storeStatus (c : Ct) (st : TimerStatus)
  | readCtState (gress : Gress) (c : Ct)
  | casCtState (gress : Gress) (c : Ct) (old new : CtState)
  | timerInit (c : Ct)
  | timerSetCallback (c : Ct)
  | timerStart (c : Ct)
  | timerReturn (c : Ct)
  | fragLookup (k : FragCacheKey)
  | fragUpdate (k : FragCacheKey) (v : UInt16 × UInt16)

/-- An insert answers with the new element; the programs only look at whether there is one.
A compare-and-swap on `state_ref` answers with the previous word, the others with success. -/
@[reducible] def Res : Op → Type
  | .ingressLookup _ | .ingressInsert _ _ => Option Mapping
  | .egressLookup _ | .egressInsert _ _ => Option EgressMapping
  | .timerLookup _ | .timerInsert _ _ => Option Ct
  | .ingressDelete _ | .egressDelete _ | .timerDelete _ => Unit
  | .queuePop _ => Option PortQueueValue
  | .queuePush _ _ => Bool
  | .readStateRef _ | .casStateRef _ _ _ => Nat
  | .readMappingReuse _ | .readEgressReuse _ => Bool
  | .writeMappingReuse _ _ | .writeEgressReuse _ _ | .storeStatus _ _ => Unit
  | .readStatus _ => TimerStatus
  | .casStatus _ _ _ | .casCtState _ _ _ _ => Bool
  | .readCtState _ _ => CtState
  | .timerInit _ | .timerSetCallback _ | .timerStart _ => Bool
  | .timerReturn _ => Unit
  | .fragLookup _ => Option (UInt16 × UInt16)
  | .fragUpdate _ _ => Bool

abbrev M := Prog Op Res

variable (s : State)

def State.insertIngress (k : MappingKey) (v : MappingValue) : Option Mapping × State :=
  match s.ingress k with
  | some _ => (none, s)
  | none =>
    let m : Mapping := ⟨s.nextId,k,v⟩
    (some m, { s with
      nextId := s.nextId + 1
      ingress := update s.ingress k (some m)
      stateRef := update s.stateRef m v.stateRef
      mappingReuse := update s.mappingReuse m v.isAllowReuse })

def State.insertEgress (k : MappingKey) (v : EgressMappingValue) : Option EgressMapping × State :=
  match s.egress k with
  | some _ => (none, s)
  | none =>
    let e : EgressMapping := ⟨s.nextId,k,v⟩
    (some e, { s with
      nextId := s.nextId + 1
      egress := update s.egress k (some e)
      egressReuse := update s.egressReuse e v.isAllowReuse })

def State.insertTimer (k : TimerKey) (v : TimerValue) : Option Ct × State :=
  match s.timer k with
  | some _ => (none, s)
  | none =>
    let c : Ct := ⟨s.nextId,k,v⟩
    (some c, { s with
      nextId := s.nextId + 1
      timer := update s.timer k (some c)
      status := update s.status c v.status
      serverStatus := update s.serverStatus c v.serverStatus
      clientStatus := update s.clientStatus c v.clientStatus
      bpfTimer := update s.bpfTimer c ⟨false,false,false⟩ })

/-- Deleting an element that holds a `bpf_timer` cancels and frees the timer. -/
def State.deleteTimer (k : TimerKey) : State :=
  match s.timer k with
  | none => s
  | some c => { s with
      timer := update s.timer k none
      bpfTimer := update s.bpfTimer c { s.bpfTimer c with inited := false, armed := false } }

def State.popQueue (q : PortQueue) : Option PortQueueValue × State :=
  match s.queue q with
  | [] => (none, s)
  | v :: rest => (some v, { s with queue := update s.queue q rest })

def State.ctState : Gress → Ct → CtState
  | .ingress => s.serverStatus
  | .egress => s.clientStatus

def State.setCtState (gress : Gress) (c : Ct) (x : CtState) : State :=
  match gress with
  | .ingress => { s with serverStatus := update s.serverStatus c x }
  | .egress => { s with clientStatus := update s.clientStatus c x }

variable (c : Ct)

def State.setStatus (x : TimerStatus) : State :=
  { s with status := update s.status c x }

def State.setTimer (x : BpfTimer) : State :=
  { s with bpfTimer := update s.bpfTimer c x }

/-- The meaning of the accesses. Inserts fail on an existing key only, pushes never: the maps
and queues are taken to be large enough. Starting a timer needs an initialised one. -/
def exec : (o : Op) → State → Res o × State
  | .ingressLookup k, s => (s.ingress k, s)
  | .ingressInsert k v, s => s.insertIngress k v
  | .ingressDelete k, s => ((), { s with ingress := update s.ingress k none })
  | .egressLookup k, s => (s.egress k, s)
  | .egressInsert k v, s => s.insertEgress k v
  | .egressDelete k, s => ((), { s with egress := update s.egress k none })
  | .timerLookup k, s => (s.timer k, s)
  | .timerInsert k v, s => s.insertTimer k v
  | .timerDelete k, s => ((), s.deleteTimer k)
  | .queuePop l4proto, s => s.popQueue (nat4FreePortQueue l4proto)
  | .queuePush l4proto v, s =>
    let q := nat4FreePortQueue l4proto
    (true, { s with queue := update s.queue q (s.queue q ++ [v]) })
  | .readStateRef m, s => (s.stateRef m, s)
  | .casStateRef m old new, s =>
    (s.stateRef m,
      if s.stateRef m = old then { s with stateRef := update s.stateRef m new } else s)
  | .readMappingReuse m, s => (s.mappingReuse m, s)
  | .writeMappingReuse m allow, s => ((), { s with mappingReuse := update s.mappingReuse m allow })
  | .readEgressReuse e, s => (s.egressReuse e, s)
  | .writeEgressReuse e allow, s => ((), { s with egressReuse := update s.egressReuse e allow })
  | .readStatus c, s => (s.status c, s)
  | .casStatus c old new, s =>
    if s.status c = old then (true, s.setStatus c new) else (false, s)
  | .storeStatus c st, s => ((), s.setStatus c st)
  | .readCtState g c, s => (s.ctState g c, s)
  | .casCtState g c old new, s =>
    if s.ctState g c = old then (true, s.setCtState g c new) else (false, s)
  | .timerInit c, s =>
    let x := s.bpfTimer c
    if x.inited then (false, s) else (true, s.setTimer c { x with inited := true })
  | .timerSetCallback c, s => ((s.bpfTimer c).inited, s)
  | .timerStart c, s =>
    let x := s.bpfTimer c
    if x.inited then (true, s.setTimer c { x with armed := true }) else (false, s)
  | .timerReturn c, s => ((), s.setTimer c { s.bpfTimer c with running := false })
  | .fragLookup k, s => (s.frags k, s)
  | .fragUpdate k v, s => (true, { s with frags := update s.frags k (some v) })

def ingressLookup (k : MappingKey) : M (Option Mapping) := .perform (Op.ingressLookup k)
def ingressInsert (k : MappingKey) (v : MappingValue) : M (Option Mapping) :=
  .perform (Op.ingressInsert k v)

def ingressDelete (k : MappingKey) : M Unit := .perform (Op.ingressDelete k)
def egressLookup (k : MappingKey) : M (Option EgressMapping) := .perform (Op.egressLookup k)
def egressInsert (k : MappingKey) (v : EgressMappingValue) : M (Option EgressMapping) :=
  .perform (Op.egressInsert k v)

def egressDelete (k : MappingKey) : M Unit := .perform (Op.egressDelete k)
def timerLookup (k : TimerKey) : M (Option Ct) := .perform (Op.timerLookup k)
def timerInsert (k : TimerKey) (v : TimerValue) : M (Option Ct) := .perform (Op.timerInsert k v)
def timerDelete (k : TimerKey) : M Unit := .perform (Op.timerDelete k)
def nat4QueuePop : M (Option PortQueueValue) := .perform (Op.queuePop l4proto)
def nat4QueuePush (v : PortQueueValue) : M Bool :=
  .perform (Op.queuePush l4proto v)

def readStateRef (m : Mapping) : M Nat := .perform (Op.readStateRef m)
def casStateRef (m : Mapping) (old new : Nat) : M Nat := .perform (Op.casStateRef m old new)
def readMappingReuse (m : Mapping) : M Bool := .perform (Op.readMappingReuse m)
def writeMappingReuse (m : Mapping) (allow : Bool) : M Unit :=
  .perform (Op.writeMappingReuse m allow)

def readEgressReuse (e : EgressMapping) : M Bool := .perform (Op.readEgressReuse e)
def writeEgressReuse (e : EgressMapping) (allow : Bool) : M Unit :=
  .perform (Op.writeEgressReuse e allow)

def readStatus (c : Ct) : M TimerStatus := .perform (Op.readStatus c)
def ctTrySetStatus (curr next : TimerStatus) : M Bool := .perform (Op.casStatus c curr next)
def storeStatus (c : Ct) (st : TimerStatus) : M Unit := .perform (Op.storeStatus c st)
def readCtState (g : Gress) (c : Ct) : M CtState := .perform (Op.readCtState g c)
def casCtState (g : Gress) (c : Ct) (curr next : CtState) : M Bool :=
  .perform (Op.casCtState g c curr next)

def bpfTimerInit : M Bool := .perform (Op.timerInit c)
def bpfTimerSetCallback : M Bool := .perform (Op.timerSetCallback c)
def bpfTimerStart : M Bool := .perform (Op.timerStart c)
def timerReturn (c : Ct) : M Unit := .perform (Op.timerReturn c)
def fragLookup (k : FragCacheKey) : M (Option (UInt16 × UInt16)) := .perform (Op.fragLookup k)
def fragUpdate (k : FragCacheKey) (v : UInt16 × UInt16) : M Bool := .perform (Op.fragUpdate k v)

end Landscape.Nat4
