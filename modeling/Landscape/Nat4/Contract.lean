import Landscape.Nat4.Machine

/-! What the programs of the NAT promise before each access, what they may rely on after it,
and how the ownership of ports moves. -/
namespace Landscape.Nat4
open Interleave Function
variable (env : Env) (l : Log) (g : Ghost) (q : PortQueue) (p : UInt16) (o : Owner)

def Ghost.setOwner : Ghost :=
  { g with owner := update g.owner q (update (g.owner q) p o) }

theorem setOwner_owner (q' : PortQueue) (p p' : UInt16) (o : Owner) :
    (g.setOwner q p o).owner q' p' = if q' = q ∧ p' = p then o else g.owner q' p' := by
  by_cases hq : q' = q
  · subst hq
    by_cases hp : p' = p
    · subst hp; simp [Ghost.setOwner]
    · simp [Ghost.setOwner, hp]
  · simp [Ghost.setOwner, hq]

@[simp] theorem setOwner_holders : (g.setOwner q p o).holders = g.holders := rfl

@[simp] theorem setOwner_maker : (g.setOwner q p o).maker = g.maker := rfl

def Ghost.drop (m : Mapping) (c : Ct) (new : Nat) : Ghost :=
  if nat4StateGet new = nat4StateClosed then
    { g.setOwner (nat4FreePortQueue m.key.l4proto) m.key.fromPort (.closed c m) with
      holders := update g.holders m ∅ }
  else { g with holders := update g.holders m ((g.holders m).erase c) }

def ghostNext (s : State) (t : Nat) (l : Log) : Op → Ghost
  | .queuePop proto =>
    match s.queue (nat4FreePortQueue proto) with
    | [] => g
    | v :: _ => g.setOwner (nat4FreePortQueue proto) v.port (.thread t)
  | .queuePush proto v => g.setOwner (nat4FreePortQueue proto) v.port .queue
  | .ingressInsert k v =>
    let m : Mapping := ⟨s.nextId,k,v⟩
    { g.setOwner (nat4FreePortQueue k.l4proto) k.fromPort (.mapped m) with
      maker := update g.maker m t }
  | .ingressDelete k =>
    g.setOwner (nat4FreePortQueue k.l4proto) k.fromPort
      (match l.callback with
        | none => .thread t
        | some c => .port c)
  | .casStateRef m old new =>
    if s.stateRef m = old then
      match l.callback, l.ct with
      | some c, _ => g.drop m c new
      | none, some c => { g with holders := update g.holders m (insert c (g.holders m)) }
      | none, none => g
    else g
  | _ => g

def After (I : State → Ghost → (Nat → Option Log) → Prop) (s : State) (g : Ghost)
    (logs : Nat → Option Log) (t : Nat) (l : Log) (o : Op) : Prop :=
  I (exec o s).2 (ghostNext g s t l o) (update logs t (some (record l o (exec o s).1)))

section
variable {I : State → Ghost → (Nat → Option Log) → Prop} {s : State} {g : Ghost}
  {logs : Nat → Option Log} {t : Nat} {l : Log} {proto : UInt8} {c : Ct}

theorem after_queuePop_nil (hq : s.queue (nat4FreePortQueue proto) = []) :
    After I s g logs t l (.queuePop proto) = I s g (update logs t (some l)) := by
  simp [After, exec, State.popQueue, ghostNext, record, hq]

theorem after_queuePop_cons {v : PortQueueValue} {rest : List PortQueueValue}
    (hq : s.queue (nat4FreePortQueue proto) = v :: rest) : After I s g logs t l (.queuePop proto) =
      I { s with queue := update s.queue (nat4FreePortQueue proto) rest }
        (g.setOwner (nat4FreePortQueue proto) v.port (.thread t))
        (update logs t (some (record l (.queuePop proto) (some v)))) := by
  simp [After, exec, State.popQueue, ghostNext, hq]

theorem after_ingressDelete_packet (hcb : l.callback = none) (k : MappingKey) :
    After I s g logs t l (.ingressDelete k) = I { s with ingress := update s.ingress k none }
        (g.setOwner (nat4FreePortQueue k.l4proto) k.fromPort (.thread t))
        (update logs t (some { l with mine := none, found := none, zero := false })) := by
  simp [After, exec, ghostNext, record, hcb]

theorem after_ingressDelete_callback (hcb : l.callback = some c) (k : MappingKey) :
    After I s g logs t l (.ingressDelete k) = I { s with ingress := update s.ingress k none }
        (g.setOwner (nat4FreePortQueue k.l4proto) k.fromPort (.port c))
        (update logs t (some { l with detached := true })) := by
  simp [After, exec, ghostNext, record, hcb]

theorem after_casStatus_fail {old new : TimerStatus} (hne : s.status c ≠ old) :
    After I s g logs t l (.casStatus c old new) = I s g (update logs t (some l)) := by
  simp [After, exec, ghostNext, record, Log.onCasStatus, hne]

theorem after_timerInsert_some {k : TimerKey} (hk : s.timer k = some c) (v : TimerValue) :
    After I s g logs t l (.timerInsert k v) = I s g (update logs t (some l)) := by
  simp [After, exec, State.insertTimer, ghostNext, record, hk]

end

def Log.holds (proto : UInt8) (p : UInt16) : Prop :=
  ∃ proto' v, l.item = some (proto', v) ∧ nat4FreePortQueue proto' = nat4FreePortQueue proto ∧
    v.port = p

/- The callback of `c` is giving the reference of its entry on `m` back. -/
structure Log.Releasing (l : Log) (c : Ct) (m : Mapping) : Prop where
  callback : l.callback = some c
  released : l.released = true
  closed : l.closed = false
  gave : l.gave = false
  gone : l.gone = false
  dynamic : c.val.isStatic = false
  found : l.found = some m
  eg : l.eg = some (ctClientKey c, c.key.pairIp.dstAddr)

structure Log.Fresh (l : Log) : Prop where
  released : l.released = false
  detached : l.detached = false
  pushed : l.pushed = false
  gone : l.gone = false

def AllowedDelete (k : MappingKey) : Prop :=
  match l.callback with
  | none => l.ct = none ∧ l.unused = true ∧ ∃ m, l.mine = some m ∧ k = m.key
  | some c => k = ctMapKey c.key ∧ l.Fresh ∧ l.status = some .deleteIngress ∧ l.found.isSome

/- A packet deletes the entry it has just inserted, or one that is left over from an earlier
   owner of the mapping's port. -/
def AllowedTimerDelete (k : TimerKey) : Prop :=
  match l.callback with
  | none => l.counted = false ∧ (l.ct = none →
      nat4StaticPortReserved env k.l4proto k.pairIp.dstPort = true ∨
      ∃ m tv, l.found = some m ∧ m.key = ctMapKey k ∧ l.seen = some tv ∧
        tv.val.generationSnapshot ≠ m.val.generation)
  | some c => k = c.key ∧ l.detached = false ∧ l.closed = false ∧ l.gone = false ∧
    (l.released = true ∨ l.pushed = true ∨ l.status = some .pendingRef)

def AllowedPush (proto : UInt8) (v : PortQueueValue) : Prop :=
  match l.callback with
  | none => l.mine = none ∧ l.eg = none ∧ l.holds proto v.port
  | some c => l.Fresh ∧ l.status = some .pushQueue ∧
    nat4FreePortQueue proto = nat4FreePortQueue c.key.l4proto ∧ v.port = c.key.pairIp.dstPort

def AllowedCasStateRef (m : Mapping) (old new : Nat) : Prop :=
  match l.callback with
  | none => (∃ c, l.ct = some c) ∧ l.counted = false ∧ l.found = some m ∧
    nat4StateGet old = nat4StateActive ∧ nat4RefGet old ≠ nat4RefMask ∧
    new = nat4StateMake nat4StateActive (nat4RefGet old + 1)
  | some c => l.Releasing c m ∧
    ((old = nat4StateMake nat4StateActive 1 ∧ new = nat4StateMake nat4StateClosed 1) ∨
      (nat4StateGet old = nat4StateActive ∧ 2 ≤ nat4RefGet old ∧
        new = nat4StateMake nat4StateActive (nat4RefGet old - 1)))

def AllowedCasStatus (c : Ct) (old new : TimerStatus) : Prop :=
  (nat4CtStatusUsable old = true ∧ nat4CtStatusUsable new = true ∧
    (l.callback = none ∨ (l.Fresh ∧ old ≠ .release))) ∨
  (l.callback = some c ∧ l.released = false ∧ l.pushed = false ∧ l.gone = false ∧
    ((old = .release ∧ new = .cleanStart ∧ l.found = none ∧ l.detached = false ∧
        l.closed = false) ∨
      (old = .cleanStart ∧ new = .deleteIngress ∧ l.status = some .cleanStart ∧ l.eg = none ∧
        l.found = none ∧ l.detached = false) ∨
      (old = .deleteIngress ∧ new = .pushQueue ∧ l.status = some .deleteIngress ∧
        l.detached = true)))

/- The entry a handler inserts is a static one on a reserved port, or belongs to the mapping
   it has looked up. -/
def AllowedTimerInsert (k : TimerKey) (v : TimerValue) : Prop :=
  l.callback = none ∧ l.ct = none ∧ l.counted = false ∧
  ((v.isStatic = true ∧ v.status = .init ∧
      nat4StaticPortReserved env k.l4proto k.pairIp.dstPort = true) ∨
    (v.status = .pendingRef ∧ ∃ m, l.found = some m ∧ ∀ id, Belongs ⟨id,k,v⟩ m))

def Allowed : Op → Prop
  | .ingressLookup k => l.ct = none ∧
    ∀ c, l.callback = some c → k = ctMapKey c.key ∧ l.pushed = false
  | .egressLookup k => ∀ c, l.callback = some c → k = ctClientKey c
  | .ingressInsert k v => l.callback = none ∧ l.mine = none ∧ k.gress = .ingress ∧
    v.stateRef = nat4StateMake nat4StateActive 0 ∧
    nat4StaticPortReserved env k.l4proto k.fromPort = false ∧
    (∃ i, env.wanIpBinding i = some k.fromAddr) ∧
    l.eg = some (⟨.egress,k.l4proto,v.port,v.addr⟩, k.fromAddr) ∧
    l.holds k.l4proto k.fromPort
  | .ingressDelete k => AllowedDelete l k
  | .egressInsert k v =>
    l.callback = none ∧ l.mine = none ∧ l.eg = none ∧ l.holds k.l4proto v.port
  | .timerLookup _ => l.callback = none ∧ l.counted = false
  | .timerInsert k v => AllowedTimerInsert env l k v
  | .timerDelete k => AllowedTimerDelete env l k
  | .queuePop _ => l.callback = none ∧ l.item = none
  | .queuePush proto v => AllowedPush l proto v
  | .casStateRef m old new => AllowedCasStateRef l m old new
  | .readStatus c => ∀ c', l.callback = some c' →
    c = c' ∧ l.Fresh ∧ l.status = none ∧ l.found = none
  | .casStatus c old new => AllowedCasStatus l c old new
  | .storeStatus c st => l.callback = none ∧ st = .init ∧ l.ct = some c ∧ l.counted = true
  | .timerReturn c => l.callback = some c ∧ l.detached = false ∧
    (l.released = true → l.closed = true ∨ l.gone = true) ∧ (l.pushed = true → l.gone = true)
  | _ => True

def Answers : (o : Op) → Res o → Prop
  | .ingressLookup k, r => (∀ m, r = some m → m.key = k) ∧
    (∀ m, l.mine = some m → k = m.key → r = none ∨ r = some m) ∧
    ∀ c, l.callback = some c → k = ctMapKey c.key → c.val.isStatic = false → l.gone = false →
      (l.released = true ∧ l.closed = false ∧ l.gave = false) ∨
        (l.Fresh ∧ l.status = some .deleteIngress) →
      ∃ m, r = some m ∧ m.val.generation = c.val.generationSnapshot
  | .ingressInsert k v, r => ∃ m, r = some m ∧ m.key = k ∧ m.val = v
  | .timerLookup k, r => (∀ c, r = some c → c.key = k ∧ (c.val.isStatic = true →
      nat4StaticPortReserved env k.l4proto k.pairIp.dstPort = true)) ∧
    ∀ c, l.ct = some c → k = c.key → r = none ∨ r = some c
  | .timerInsert k v, r => ∀ c, r = some c → c.key = k ∧ c.val = v
  | .queuePush _ _, r => r = true
  | .readStatus c, r => l.callback = some c → TimerStatus.cleanStart.value ≤ r.value →
    c.val.isStatic = false
  | .casStatus c old _, r => l.callback = some c → old = .cleanStart ∨ old = .deleteIngress →
    r = true
  | _, _ => True

def contract : Contract Op Res Log := ⟨Allowed env,Answers env⟩

def Done : Prop :=
  l.callback = none ∧ (l.item = none ∨ l.mine ≠ none) ∧ l.zero = false ∧ l.ct = none

end Landscape.Nat4
