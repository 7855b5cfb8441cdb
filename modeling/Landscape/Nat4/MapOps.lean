import Landscape.Nat4.State

/-! `nat4_map_ops.h`: the packed reference word of a mapping, the free-port queues and the
mapping pair. -/
namespace Landscape.Nat4
open Packet

def nat4RefMask : Nat := 2 ^ 56 - 1
def nat4StateActive : Nat := 1
def nat4StateClosed : Nat := 2
def deleteRetryInterval : Nat := 100000000
def queueRetryInterval : Nat := 500000000

variable (l4proto : UInt8) (m : Mapping) (state : Nat)

def nat4StateMake (refcnt : Nat) : Nat := (state <<< 56) ||| (refcnt &&& nat4RefMask)

def nat4StateGet (stateRef : Nat) : Nat := (stateRef >>> 56) % 256

def nat4RefGet (stateRef : Nat) : Nat := stateRef &&& nat4RefMask

variable {refcnt : Nat}

theorem nat4StateMake_eq (h : refcnt < 2 ^ 56) :
    nat4StateMake state refcnt = state * 2 ^ 56 + refcnt := by
  have hmask : refcnt &&& nat4RefMask = refcnt := by
    rw [nat4RefMask, Nat.and_two_pow_sub_one_eq_mod, Nat.mod_eq_of_lt h]
  rw [nat4StateMake, hmask, ← Nat.shiftLeft_add_eq_or_of_lt h, Nat.shiftLeft_eq]

theorem nat4StateGet_make {state : Nat} (hs : state < 256) (h : refcnt < 2 ^ 56) :
    nat4StateGet (nat4StateMake state refcnt) = state := by
  rw [nat4StateMake_eq state h, nat4StateGet, Nat.shiftRight_eq_div_pow]
  omega

theorem nat4RefGet_make (h : refcnt < 2 ^ 56) :
    nat4RefGet (nat4StateMake state refcnt) = refcnt := by
  rw [nat4StateMake_eq state h, nat4RefGet, nat4RefMask, Nat.and_two_pow_sub_one_eq_mod]
  omega

theorem nat4RefGet_lt (sr : Nat) : nat4RefGet sr < 2 ^ 56 := by
  rw [nat4RefGet, nat4RefMask, Nat.and_two_pow_sub_one_eq_mod]
  exact Nat.mod_lt _ (by decide)

def nat4CanCreateCt : M Bool := do
  let sr ← readStateRef m
  let allow ← readMappingReuse m
  pure (allow && nat4StateGet sr == nat4StateActive && 0 < nat4RefGet sr)

def tryIncLoop (m : Mapping) : Nat → Nat → M Bool
  | 0, _ => pure false
  | n + 1, old =>
    if nat4StateGet old ≠ nat4StateActive then pure false
    else if nat4RefGet old = nat4RefMask then pure false
    else do
      let prev ← casStateRef m old (nat4StateMake nat4StateActive (nat4RefGet old + 1))
      if prev = old then pure true else tryIncLoop m n prev

def nat4StateTryInc : M Bool := do
  let old ← readStateRef m
  tryIncLoop m 8 old

def tryDecLoop (m : Mapping) : Nat → Nat → M Bool
  | 0, _ => pure false
  | n + 1, old =>
    if nat4StateGet old ≠ nat4StateActive then pure false
    else if nat4RefGet old ≤ 1 then pure false
    else do
      let prev ← casStateRef m old (nat4StateMake nat4StateActive (nat4RefGet old - 1))
      if prev = old then pure true else tryDecLoop m n prev

def nat4StateTryDec : M Bool := do
  let old ← readStateRef m
  tryDecLoop m 8 old

def nat4StateTryCloseLast : M Bool := do
  let old := nat4StateMake nat4StateActive 1
  let prev ← casStateRef m old (nat4StateMake nat4StateClosed 1)
  pure (prev = old)

structure Env where
  kernel : Kernel
  currentL3Offset : Nat
  nat4StaticMap : MappingKey → Option StaticValue
  wanIpBinding : UInt32 → Option UInt32

variable (env : Env)

def nat4LookupStaticIngress (l4proto : UInt8) (fromPort : UInt16) : Option StaticValue :=
  env.nat4StaticMap ⟨.ingress,l4proto,fromPort,0⟩

def nat4StaticPortReserved (l4proto : UInt8) (natPort : UInt16) : Bool :=
  (nat4LookupStaticIngress env l4proto natPort).isSome

def nat4PortQueueSize : Nat := 65536

/- `bpf_loop` over `nat4_alloc_port_callback`, with the iterations left. -/
def allocPortLoop (env : Env) (l4proto : UInt8) : Nat → M (Option PortQueueValue)
  | 0 => pure none
  | n + 1 => do
    match ← nat4QueuePop l4proto with
    | none => pure none
    | some v =>
      if nat4StaticPortReserved env l4proto v.port then do
        let _ ← nat4QueuePush l4proto v
        allocPortLoop env l4proto n
      else pure (some v)

def nat4AllocPort (l4proto : UInt8) : M (Option PortQueueValue) :=
  allocPortLoop env l4proto nat4PortQueueSize

/- The end of `nat4_insert_mappings`: both entries are looked up again. -/
def nat4ReadBackMappings (key ingressKey : MappingKey) : M (Option Mapping) := do
  match ← ingressLookup ingressKey with
  | none => do
    egressDelete key
    ingressDelete ingressKey
    pure none
  | some m =>
    match ← egressLookup key with
    | none => do
      egressDelete key
      ingressDelete ingressKey
      pure none
    | some _ => pure (some m)

/-- `nat4_insert_mappings`, called with `lk_val_rev` set. -/
def nat4InsertMappings (key : MappingKey) (val : EgressMappingValue) (generation : UInt16) :
    M (Option Mapping) := do
  let ingressKey : MappingKey := ⟨.ingress,key.l4proto,val.port,val.addr⟩
  let ingressVal : MappingValue :=
    { stateRef := nat4StateMake nat4StateActive 0
      addr := key.fromAddr
      triggerAddr := val.triggerAddr
      port := key.fromPort
      triggerPort := val.triggerPort
      generation := generation
      isAllowReuse := val.isAllowReuse }
  match ← egressInsert key val with
  | none => pure none
  | some _ =>
    match ← ingressInsert ingressKey ingressVal with
    | none => do
      egressDelete key
      pure none
    | some _ => nat4ReadBackMappings key ingressKey

def nat4LookupIngressDynamic (natAddr : UInt32) (natPort : UInt16) : M (Option Mapping) :=
  ingressLookup ⟨.ingress,l4proto,natPort,natAddr⟩

def nat4LookupEgressDynamic (clientAddr : UInt32) (clientPort : UInt16) :
    M (Option EgressMapping) :=
  egressLookup ⟨.egress,l4proto,clientPort,clientAddr⟩

def nat4DeleteMappingPair (natAddr : UInt32) (natPort : UInt16)
    (clientAddr : UInt32) (clientPort : UInt16) : M Unit := do
  ingressDelete ⟨.ingress,l4proto,natPort,natAddr⟩
  egressDelete ⟨.egress,l4proto,clientPort,clientAddr⟩

end Landscape.Nat4
