import Landscape.Nat4.TcNat
import Mathlib.Data.Finset.Card

/-! The programs of the IPv4 NAT run side by side: packets and timer callbacks on any number
of CPUs, one access at a time. Every handler keeps a record of what it has done so far. -/
namespace Landscape.Nat4
open Interleave Packet Function

def ctMapKey (k : TimerKey) : MappingKey := ⟨.ingress,k.l4proto,k.pairIp.dstPort,k.pairIp.dstAddr⟩

/- What a handler has done. The first group of fields is written by packets, the second by
   callbacks; `eg` is shared. -/
structure Log where
  /-- The entry whose timer callback this is. -/
  callback : Option Ct
  /-- The key and the address of the egress entry that may exist for the port in hand. -/
  eg : Option (MappingKey × UInt32)
  /-- The port taken from the free queue and not pushed back. -/
  item : Option (UInt8 × PortQueueValue)
  /-- The mapping inserted for that port and not deleted again. -/
  mine : Option Mapping
  /-- That mapping may still be without a reference. -/
  zero : Bool
  /-- Its state word had no reference when the handler last looked at it. -/
  unused : Bool
  /-- The answer of the last lookup of an ingress mapping. -/
  found : Option Mapping
  /-- The answer of the last lookup of an entry before inserting one. -/
  seen : Option Ct
  /-- The entry inserted and still in `TIMER_PENDING_REF`. -/
  ct : Option Ct
  /-- The reference for that entry has been taken. -/
  counted : Bool
  /-- The entry's status as last read or set. -/
  status : Option TimerStatus
  /-- The entry went from `TIMER_RELEASE` to `TIMER_CLEAN_START`. -/
  released : Bool
  /-- Its reference was given back. -/
  gave : Bool
  /-- Its mapping was closed. -/
  closed : Bool
  /-- The ingress mapping was deleted and the entry is not yet in `TIMER_PUSH_QUEUE`. -/
  detached : Bool
  /-- The port was pushed. -/
  pushed : Bool
  /-- The entry was deleted. -/
  gone : Bool

variable (s : State) (l : Log) (m : Mapping) (c : Ct)

def ctClientKey : MappingKey :=
  ⟨.egress,c.key.l4proto,c.val.clientPort,c.val.clientAddr⟩

def Log.start (callback : Option Ct) : Log where
  callback := callback
  eg := callback.map fun c => (ctClientKey c, c.key.pairIp.dstAddr)
  item := none
  mine := none
  zero := false
  unused := false
  found := none
  seen := none
  ct := none
  counted := false
  status := none
  released := false
  gave := false
  closed := false
  detached := false
  pushed := false
  gone := false

def Log.atItem : Bool :=
  match l.item with
  | some (proto, v) =>
    nat4FreePortQueue proto == nat4FreePortQueue c.key.l4proto && v.port == c.key.pairIp.dstPort
  | none => false

def Log.onReadStatus (st : TimerStatus) : Log :=
  match l.callback with
  | some _ => { l with status := some st }
  | none =>
    if nat4CtStatusUsable st && !c.val.isStatic && l.atItem c then { l with zero := false } else l

def Log.onCasStatus (old new : TimerStatus) (done : Bool) : Log :=
  if l.callback.isSome && done then
    { l with
      status := some new
      released := l.released || old == .release
      detached := l.detached && old != .deleteIngress }
  else l

def Log.onCasStateRef (old new prev : Nat) : Log :=
  if prev = old then
    match l.callback with
    | none => { l with
        counted := true
        zero := l.zero && l.mine != some m
        unused := l.unused && l.mine != some m }
    | some _ =>
      if nat4StateGet new = nat4StateClosed then { l with closed := true }
      else { l with gave := true }
  else l

def Log.onEgressLookup (r : Option EgressMapping) : Log :=
  match l.callback with
  | none => l
  | some c =>
    if r.any fun e => e.val.addr == c.key.pairIp.dstAddr && e.val.port == c.key.pairIp.dstPort
    then l else { l with eg := none }

def record : (o : Op) → Res o → Log
  | .ingressLookup _, r => { l with found := r }
  | .ingressInsert _ _, r =>
    if r.isSome then { l with mine := r, zero := true, unused := true } else l
  | .ingressDelete _, _ =>
    if l.callback.isSome then { l with detached := true }
    else { l with mine := none, found := none, zero := false }
  | .egressLookup _, r => l.onEgressLookup r
  | .egressInsert k v, r => if r.isSome then { l with eg := some (k, v.addr) } else l
  | .egressDelete k, _ => if l.eg.map (·.1) = some k then { l with eg := none } else l
  | .timerLookup _, r =>
    if l.ct.isSome then (if r.isSome then l else { l with ct := none }) else { l with seen := r }
  | .timerInsert _ v, r => if r.isSome && !v.isStatic then { l with ct := r } else l
  | .timerDelete _, _ =>
    if l.callback.isSome then { l with gone := true } else { l with ct := none }
  | .queuePop proto, r =>
    match r with
    | some v => { l with item := some (proto, v) }
    | none => l
  | .queuePush _ _, _ => { l with item := none, pushed := l.callback.isSome }
  | .readStateRef m, r =>
    if l.mine = some m then
      let unused := decide (r = nat4StateMake nat4StateActive 0)
      { l with zero := l.zero && unused, unused := unused }
    else l
  | .casStateRef m old new, r => l.onCasStateRef m old new r
  | .readStatus c, r => l.onReadStatus c r
  | .casStatus _ old new, r => l.onCasStatus old new r
  | .storeStatus _ _, _ => { l with ct := none, counted := false }
  | .timerReturn _, _ => Log.start none
  | _, _ => l

inductive Event where
  | egress (skb : Skb)
  | ingress (skb : Skb)
  | fire (c : Ct) (reported : Bool)

/-- A packet can arrive at any time. A callback runs when the timer of an entry that is still
in the map is armed, and never twice at once for one entry. -/
def launch (env : Env) : Event → State → Option (State × Thread Op Res Log)
  | .egress skb, s => some (s, ⟨tcNatV4EgressDo env skb >>= fun _ => pure (),Log.start none⟩)
  | .ingress skb, s => some (s, ⟨tcNatV4IngressDo env skb >>= fun _ => pure (),Log.start none⟩)
  | .fire c reported, s =>
    let x := s.bpfTimer c
    if s.timer c.key = some c ∧ x.armed ∧ !x.running then
      some (s.setTimer c { x with armed := false, running := true },
        ⟨nat4TimerCleanCallback reported c,Log.start (some c)⟩)
    else none

def machine (env : Env) : Sys Op Res State Log Event := ⟨exec,record,launch env⟩

def seedPortQueue (first last : UInt16) : List PortQueueValue :=
  ((List.range (last.toNat + 1)).drop first.toNat).map fun p => ⟨UInt16.ofNat p,0⟩

structure NatConfig where
  tcpRange : UInt16 × UInt16
  udpRange : UInt16 × UInt16
  icmpInRange : UInt16 × UInt16

def NatConfig.range (cfg : NatConfig) : PortQueue → UInt16 × UInt16
  | .tcp => cfg.tcpRange
  | .udp => cfg.udpRange
  | .icmp => cfg.icmpInRange

def State.seeded (cfg : NatConfig) : State where
  nextId := 0
  ingress _ := none
  egress _ := none
  timer _ := none
  queue q := seedPortQueue (cfg.range q).1 (cfg.range q).2
  stateRef _ := 0
  mappingReuse _ := false
  egressReuse _ := false
  status _ := .pendingRef
  serverStatus _ := .init
  clientStatus _ := .init
  bpfTimer _ := ⟨false,false,false⟩
  frags _ := none

abbrev Conf := Config Op Res State Log

def Conf.seeded (cfg : NatConfig) : Conf := ⟨State.seeded cfg,fun _ => none⟩

/-! Who owns a port: the queue, one handler, one mapping, or the entry that closed that mapping. A
mapping's reference count covers the entries that count on it. -/

inductive Owner where
  | queue
  | thread (t : Nat)
  | mapped (m : Mapping)
  | closed (c : Ct) (m : Mapping)
  | port (c : Ct)
  | nobody
  deriving DecidableEq

structure Ghost where
  owner : PortQueue → UInt16 → Owner
  holders : Mapping → Finset Ct
  maker : Mapping → Nat

variable (g : Ghost)

def mapOwner (m : Mapping) : Owner :=
  g.owner (nat4FreePortQueue m.key.l4proto) m.key.fromPort

def ctOwner (c : Ct) : Owner :=
  g.owner (nat4FreePortQueue c.key.l4proto) c.key.pairIp.dstPort

structure Belongs (c : Ct) (m : Mapping) : Prop where
  key : m.key = ctMapKey c.key
  gen : c.val.generationSnapshot = m.val.generation
  addr : c.val.clientAddr = m.val.addr
  port : c.val.clientPort = m.val.port
  dynamic : c.val.isStatic = false

theorem Belongs.owner {c : Ct} {m : Mapping} (h : Belongs c m) (g : Ghost) :
    mapOwner g m = ctOwner g c := by
  simp [mapOwner, ctOwner, h.key, ctMapKey]

/-- A mapping that a handler points to is either in force or closed for good. -/
def Live (m : Mapping) : Prop :=
  mapOwner g m = .mapped m ∨ nat4StateGet (s.stateRef m) = nat4StateClosed

/-- What an entry past `TIMER_RELEASE` has to do next is its own business alone. -/
def Idle (c : Ct) : Prop :=
  (s.status c = .cleanStart ∨ s.status c = .deleteIngress → ∃ m, ctOwner g c = .closed c m) ∧
  (s.status c = .pushQueue → ctOwner g c = .port c)

structure CallbackOk (s : State) (g : Ghost) (c : Ct) (l : Log) : Prop where
  idle : (l.released = true → l.closed = true) → l.gone = false → l.detached = false →
    l.pushed = false → Idle s g c
  current : l.released = false → l.gone = false → ∀ st, l.status = some st →
    TimerStatus.cleanStart.value ≤ st.value → s.status c = st
  releasing : l.released = true → s.status c = .cleanStart
  holding : l.released = true → l.closed = false → l.gave = false → l.gone = false →
    c.val.isStatic = false → ∃ m, c ∈ g.holders m ∧ ∀ m', l.found = some m' → m' = m
  closing : l.released = false → l.status = some .deleteIngress → l.detached = false →
    l.gone = false → ∀ m, l.found = some m → ctOwner g c = .closed c m
  detached : l.detached = true → l.gone = false → ctOwner g c = .port c
  gone : l.gone = true → s.timer c.key ≠ some c

structure Local (env : Env) (s : State) (g : Ghost) (t : Nat) (l : Log) : Prop where
  token : ∀ p v, l.item = some (p, v) → l.mine = none →
    g.owner (nat4FreePortQueue p) v.port = .thread t
  mineAt : ∀ m, l.mine = some m → m.id < s.nextId ∧ ∃ p v, l.item = some (p, v) ∧
    nat4FreePortQueue p = nat4FreePortQueue m.key.l4proto ∧ v.port = m.key.fromPort
  mineLive : ∀ m, l.mine = some m → Live s g m
  nonzero : ∀ m, l.mine = some m → l.zero = false →
    s.stateRef m ≠ nat4StateMake nat4StateActive 0
  found : ∀ m, l.found = some m → m.id < s.nextId ∧ Live s g m
  ct : ∀ c, l.ct = some c → c.id < s.nextId ∧ s.status c = .pendingRef ∧
    ∃ m, l.found = some m ∧ Belongs c m ∧
      (l.counted = true → c ∈ g.holders m) ∧ (l.counted = false → ∀ m', c ∉ g.holders m')
  seen : ∀ c, l.seen = some c → c.val.isStatic = true →
    nat4StaticPortReserved env c.key.l4proto c.key.pairIp.dstPort = true
  callback : ∀ c, l.callback = some c →
    c.id < s.nextId ∧ (s.bpfTimer c).running = true ∧ l.mine = none ∧ CallbackOk s g c l

def clientKey : MappingKey := ⟨.egress,m.key.l4proto,m.val.port,m.val.addr⟩

/-- An egress entry leads to a port whose owner knows about it. -/
def EgressHeld (logs : Nat → Option Log) (e : EgressMapping) : Prop :=
  match g.owner (nat4FreePortQueue e.key.l4proto) e.val.port with
  | .thread t => ∃ l, logs t = some l ∧ l.callback = none ∧ l.eg = some (e.key, e.val.addr)
  | .mapped m => e.key = clientKey m ∧ e.val.addr = m.key.fromAddr ∧
    ∀ t l, logs t = some l → l.mine = some m → l.eg = some (e.key, e.val.addr)
  | .closed c m => e.key = clientKey m ∧ e.val.addr = m.key.fromAddr ∧ s.status c = .cleanStart ∧
    ∀ t l, logs t = some l → l.callback = some c → l.eg = some (e.key, e.val.addr)
  | _ => False

def HasToken (logs : Nat → Option Log) (t : Nat) (q : PortQueue) (p : UInt16) : Prop :=
  ∃ l proto v, logs t = some l ∧ l.callback = none ∧ l.mine = none ∧ l.item = some (proto, v) ∧
    nat4FreePortQueue proto = q ∧ v.port = p

structure Base (env : Env) (s : State) (g : Ghost) (logs : Nat → Option Log) : Prop where
  ingressKey : ∀ k m, s.ingress k = some m → m.key = k ∧ m.id < s.nextId
  timerKey : ∀ k c, s.timer k = some c → c.key = k ∧ c.id < s.nextId
  egressKey : ∀ k e, s.egress k = some e → e.key = k
  ingressOwner : ∀ k m, s.ingress k = some m →
    mapOwner g m = .mapped m ∨ ∃ c, mapOwner g m = .closed c m
  mappedAt : ∀ q p m, g.owner q p = .mapped m → q = nat4FreePortQueue m.key.l4proto ∧
    p = m.key.fromPort ∧ s.ingress m.key = some m ∧
    nat4StaticPortReserved env m.key.l4proto m.key.fromPort = false
  mappedRef : ∀ m, mapOwner g m = .mapped m → ∃ r, s.stateRef m = nat4StateMake nat4StateActive r ∧
    r < 2 ^ 56 ∧ (g.holders m).card ≤ r
  closedAt : ∀ q p c m, g.owner q p = .closed c m → q = nat4FreePortQueue m.key.l4proto ∧
    p = m.key.fromPort ∧ s.ingress m.key = some m ∧ Belongs c m ∧ c.id < s.nextId ∧
    s.stateRef m = nat4StateMake nat4StateClosed 1
  portAt : ∀ q p c, g.owner q p = .port c → q = nat4FreePortQueue c.key.l4proto ∧
    p = c.key.pairIp.dstPort ∧ c.id < s.nextId ∧ c.val.isStatic = false
  queueNodup : ∀ q, ((s.queue q).map (·.port)).Nodup
  queueOwner : ∀ q, ∀ v ∈ s.queue q, g.owner q v.port = .queue
  holder : ∀ c m, c ∈ g.holders m → mapOwner g m = .mapped m ∧ Belongs c m ∧ c.id < s.nextId
  usable : ∀ c, nat4CtStatusUsable (s.status c) = true → c.val.isStatic = false →
    ∃ m, c ∈ g.holders m
  idle : ∀ c, s.timer c.key = some c → (s.bpfTimer c).running = false → Idle s g c
  static : ∀ k c, s.timer k = some c → c.val.isStatic = true →
    nat4StaticPortReserved env c.key.l4proto c.key.pairIp.dstPort = true
  threads : ∀ t l, logs t = some l → Local env s g t l
  callbackUnique : ∀ t u l l' c, logs t = some l → logs u = some l' → l.callback = some c →
    l'.callback = some c → t = u
  ctUnique : ∀ t u l l' c, logs t = some l → logs u = some l' → l.ct = some c →
    l'.ct = some c → t = u
  mineUnique : ∀ t u l l' m, logs t = some l → logs u = some l' → l.mine = some m →
    l'.mine = some m → t = u
  egressHeld : ∀ k e, s.egress k = some e → EgressHeld s g logs e
  threadOwner : ∀ q p t, g.owner q p = .thread t → HasToken logs t q p

end Landscape.Nat4
