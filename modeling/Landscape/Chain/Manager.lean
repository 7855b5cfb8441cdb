import Landscape.Lib.Interleave
import Landscape.Lib.Writeback

/-! The two chain managers and the packets in their chains. An interface has a chain for each
direction: a root program and the installed stages, linked by tail-call slots. Calls are cut where
the mutex is free, and a rebuild where it touches a slot. -/
namespace Landscape.Chain
open Interleave Writeback Function

inductive Manager where
  | tc
  | xdp
deriving DecidableEq

inductive StageType where
  | mss
  | firewall
  | nat
  | pppoe
deriving DecidableEq

def StageType.all : List StageType := [.mss, .firewall, .nat, .pppoe]

/- `wanIngress` is the `Wan` chain of the XDP manager, `wanEgress` its `Lan` chain. -/
inductive ChainDir where
  | wanIngress
  | wanEgress
deriving DecidableEq

structure StageEntry where
  ifindex : Nat
  stage : StageType
  id : Nat
  wanIngressProg : Bool
  wanEgressProg : Bool
deriving DecidableEq

variable (m : Manager) (i : Nat) (d : ChainDir) (st : StageType) (e : StageEntry)

def StageEntry.hasProg : ChainDir → Bool
  | .wanIngress => e.wanIngressProg
  | .wanEgress => e.wanEgressProg

structure ChainRoot where
  ifindex : Nat
  dir : ChainDir
  id : Nat
deriving DecidableEq

inductive Slot where
  | root (r : ChainRoot)
  | next (e : StageEntry) (d : ChainDir)
deriving DecidableEq

abbrev LinkWrites := Queue Slot StageEntry

/- The TC manager keeps one record per interface with both roots; here that is one record per
   direction with the same stages. -/
structure ChainState where
  root : Option ChainRoot := none
  stages : StageType → Option StageEntry := fun _ => none

structure State where
  chains : Nat → ChainDir → Option ChainState := fun _ _ => none
  rootProgs : ChainDir → Nat → Option ChainRoot := fun _ _ => none
  introDispatch : Nat → Bool := fun _ => false
  links : Slot → Option StageEntry := fun _ => none
  locked : Bool := false
  nextId : Nat := 0
  -- What the services asked for: interfaces whose route is active, the stage that was put in last
  -- and not taken out, and the stage whose installation is over.
  active : Nat → Bool := fun _ => false
  installed : Nat → StageType → Option StageEntry := fun _ _ => none
  settled : Nat → StageType → Option StageEntry := fun _ _ => none

namespace State
variable (s : State) (i : Nat) (d : ChainDir)

def chain : ChainState := (s.chains i d).getD {}

def setChain (c : ChainState) : State :=
  { s with chains := update s.chains i (update (s.chains i) d (some c)) }

/- `create_ingress_root`, `create_egress_roots`, `create_wan_root` and `create_lan_root`. -/
def createRoot : State :=
  let r : ChainRoot := ⟨i,d,s.nextId⟩
  { s.setChain i d { s.chain i d with root := some r } with
    rootProgs := update s.rootProgs d (update (s.rootProgs d) i (some r))
    introDispatch := if d = .wanIngress then update s.introDispatch i true else s.introDispatch
    nextId := s.nextId + 1 }

def ensureRoot : State :=
  match (s.chain i d).root with
  | some _ => s
  | none => s.createRoot i d

def ensureRootsLocked : State := (s.ensureRoot i .wanIngress).ensureRoot i .wanEgress

end State

def ChainState.noStages (c : ChainState) : Bool := StageType.all.all fun st => (c.stages st).isNone

def ChainState.entries (c : ChainState) : List StageEntry := StageType.all.filterMap c.stages

variable (s : State)

def insertStage : State :=
  { s with
    chains := update s.chains i fun d =>
      some { s.chain i d with stages := update (s.chain i d).stages st (some e) }
    installed := update s.installed i (update (s.installed i) st (some e))
    settled := update s.settled i (update (s.settled i) st none) }

def dropStage : State :=
  { s with
    chains := update s.chains i fun d =>
      (s.chains i d).map fun c => { c with stages := update c.stages st none }
    installed := update s.installed i (update (s.installed i) st none)
    settled := update s.settled i (update (s.settled i) st none) }

/- The first critical section of `remove`: whether no stage is left, or nothing if the TC manager
   does not know the interface. -/
def removeStage : Option Bool × State :=
  let s' := dropStage i st s
  match m with
  | .tc =>
    match s.chains i .wanIngress with
    | none => (none, s')
    | some _ => (some (s'.chain i .wanIngress).noStages, s')
  | .xdp => (some ((s'.chain i .wanEgress).noStages && (s'.chain i .wanIngress).noStages), s')

def State.dropChain (i : Nat) (d : ChainDir) : State :=
  { s with
    chains := update s.chains i (update (s.chains i) d none)
    rootProgs := update s.rootProgs d (update (s.rootProgs d) i none)
    introDispatch := if d = .wanIngress then update s.introDispatch i false else s.introDispatch }

def removeChainLocked : State :=
  match s.chains i d with
  | none => s
  | some c => if c.noStages then s.dropChain i d else s

def removeRoots : State :=
  match m with
  | .tc =>
    match s.chains i .wanIngress with
    | none => s
    | some _ => (s.dropChain i .wanIngress).dropChain i .wanEgress
  | .xdp => removeChainLocked i .wanIngress (removeChainLocked i .wanEgress s)

/- Whether a rebuild clears the slot of this stage: the TC stages have a slot array per direction,
   the XDP stages one array for both. -/
def hasNext : Bool :=
  match m with
  | .tc => e.hasProg d
  | .xdp => true

def sortedStages (c : ChainState) : List StageEntry :=
  (c.entries.filter fun e => !(e.stage = .pppoe && d = .wanIngress)).filter fun e =>
    match m with
    | .tc => e.hasProg d
    | .xdp => true

def linkWrites (d : ChainDir) : Slot → List StageEntry → LinkWrites
  | _, [] => []
  | c, e :: es => (c, some e) :: linkWrites d (.next e d) es

def rebuildWrites (r : ChainRoot) (c : ChainState) : LinkWrites :=
  (c.entries.filter (hasNext m d)).map (fun e => (.next e d, none)) ++
    (.root r, none) :: linkWrites d (.root r) (sortedStages m d c)

def rebuildRoots : State :=
  match m, d with
  | .tc, .wanEgress => (s.setChain i .wanIngress (s.chain i .wanIngress)).ensureRoot i .wanEgress
  | _, _ => s.ensureRootsLocked i

/- What `rebuild` does before it touches the slots: the writes that follow, with the mutex taken. -/
def rebuildStart : Option LinkWrites × State :=
  if m = .tc ∧ d = .wanIngress ∧ (s.chain i .wanIngress).root = none then (none, s)
  else
    let s' := rebuildRoots m i d s
    match (s'.chain i d).root with
    | none => (none, s')
    | some r => (some (rebuildWrites m d r (s'.chain i d)), { s' with locked := true })

def State.rootFor (i : Nat) (d : ChainDir) : Option ChainRoot :=
  if d = .wanIngress ∧ s.introDispatch i = false then none else s.rootProgs d i

/- The accesses: the critical sections, the single writes of a rebuild, and the tail calls.
   `route` tells the calls of the route service from those of the stages. -/
inductive Op where
  | ensureRoots (i : Nat) (route : Bool)
  | insertStage (i : Nat) (st : StageType) (e : StageEntry)
  | removeStage (i : Nat) (st : StageType)
  | removeRoots (i : Nat) (route : Bool)
  | rebuild (i : Nat) (d : ChainDir)
  | setLink (c : Slot) (v : Option StageEntry)
  | unlock
  | settle (i : Nat) (st : StageType) (e : StageEntry)
  | enter (i : Nat) (d : ChainDir)
  | tailCall (c : Slot)
  | leave (i : Nat)

abbrev Res : Op → Type
  | .removeStage _ _ => Option Bool
  | .rebuild _ _ => Option LinkWrites
  | .enter _ _ => Option ChainRoot × (StageType → Option StageEntry)
  | .tailCall _ => Option StageEntry
  | .leave _ => StageType → Option StageEntry
  | _ => Unit

def exec : (o : Op) → State → Res o × State
  | .ensureRoots i route, s =>
    let s' := s.ensureRootsLocked i
    ((), if route then { s' with active := update s'.active i true } else s')
  | .insertStage i st e, s => ((), insertStage i st e s)
  | .removeStage i st, s => removeStage m i st s
  | .removeRoots i route, s =>
    let s' := removeRoots m i s
    ((), if route then { s' with active := update s'.active i false } else s')
  | .rebuild i d, s => rebuildStart m i d s
  | .setLink c v, s => ((), { s with links := update s.links c v })
  | .unlock, s => ((), { s with locked := false })
  | .settle i st e, s =>
    ((), if s.installed i st = some e then
      { s with settled := update s.settled i (update (s.settled i) st (some e)) } else s)
  | .enter i d, s => ((s.rootFor i d, s.settled i), s)
  | .tailCall c, s => (s.links c, s)
  | .leave i, s => (s.settled i, s)

abbrev P := Prog Op Res

abbrev access (o : Op) : P (Res o) := Prog.perform o

def relink : LinkWrites → P Unit
  | [] => access .unlock
  | w :: ws => do
    let () ← access (.setLink w.1 w.2)
    relink ws

def rebuild (i : Nat) (d : ChainDir) : P Unit := do
  match ← access (.rebuild i d) with
  | none => pure ()
  | some ws => relink ws

/- The TC manager starts with the ingress chain, the XDP manager with its `Lan` chain. -/
def rebuildBoth : P Unit :=
  match m with
  | .tc => do
    rebuild i .wanIngress
    rebuild i .wanEgress
  | .xdp => do
    rebuild i .wanEgress
    rebuild i .wanIngress

def inject : P Unit := do
  let () ← access (.insertStage i st e)
  rebuildBoth m i

/- The TC stages call `ensure_roots` before `inject`; the XDP stages may leave it to the rebuild. -/
def install (ensures : Bool) (e : StageEntry) : P Unit := do
  if ensures then
    let () ← access (.ensureRoots e.ifindex false)
  inject m e.ifindex e.stage e
  access (.settle e.ifindex e.stage e)

def remove : P Unit := do
  match ← access (.removeStage i st) with
  | none => pure ()
  | some empty =>
    match m with
    | .tc => if empty then access (.removeRoots i false) else rebuildBoth m i
    | .xdp => do
      let () ← access (.removeRoots i false)
      if empty then pure () else rebuildBoth m i

/- A tail call to an empty slot returns to the program, which goes on to the exit; `ends` are the
   stages that end the packet themselves. The kernel follows at most so many tail calls. -/
def walk (i : Nat) (d : ChainDir) (ends : StageType → Bool) : Nat → Slot → P Unit
  | 0, _ => pure ()
  | n + 1, c => do
    match ← access (.tailCall c) with
    | none =>
      let _ ← access (.leave i)
      pure ()
    | some e => if ends e.stage then pure () else walk i d ends n (.next e d)

def maxTailCallCnt : Nat := 33

def packet (ends : StageType → Bool) : P Unit := do
  match (← access (.enter i d)).1 with
  | none => pure ()
  | some r => walk i d ends maxTailCallCnt (.root r)

/- What a call is about and has done: the stage it puts in, the chains it has changed and not
   rebuilt, whether it has taken out the last stage, and the writes of the rebuild it is in. -/
structure CallLog where
  ifindex : Nat
  ensured : Bool := false
  entry : Option StageEntry := none
  owes : ChainDir → Bool := fun _ => false
  emptied : Bool := false
  rebuilding : Option (ChainDir × LinkWrites) := none

structure PacketLog where
  ifindex : Nat
  dir : ChainDir
  entered : StageType → Option StageEntry := fun _ => none
  at? : Option Slot := none
  visited : List StageEntry := []
  missed : Bool := false
  left : Option (StageType → Option StageEntry) := none

inductive Log where
  | call (l : CallLog)
  | packet (p : PacketLog)

def CallLog.record (l : CallLog) : (o : Op) → Res o → CallLog
  | .ensureRoots _ route, _ => { l with ensured := l.ensured || !route }
  | .insertStage _ _ _, _ => { l with owes := fun _ => true }
  | .removeStage _ _, some true => { l with emptied := true }
  | .removeStage _ _, some false => { l with owes := fun _ => true }
  | .removeRoots _ _, _ => { l with emptied := false }
  | .rebuild _ d, none => { l with owes := update l.owes d false }
  | .rebuild _ d, some ws => { l with rebuilding := some (d, ws) }
  | .setLink _ _, _ => { l with rebuilding := l.rebuilding.map fun w => (w.1, w.2.tail) }
  | .unlock, _ =>
    match l.rebuilding with
    | some (d, _) => { l with rebuilding := none, owes := update l.owes d false }
    | none => l
  | _, _ => l

def PacketLog.record (p : PacketLog) : (o : Op) → Res o → PacketLog
  | .enter _ _, (r, stages) => { p with entered := stages, at? := r.map .root }
  | .tailCall _, none => { p with missed := true }
  | .tailCall _, some e => { p with visited := p.visited ++ [e], at? := some (.next e p.dir) }
  | .leave _, stages => { p with left := some stages, at? := none }
  | _, _ => p

def record : Log → (o : Op) → Res o → Log
  | .call l, o, r => .call (l.record o r)
  | .packet p, o, r => .packet (p.record o r)

/- `shutdown` is the end of a route: the XDP manager is told, the TC manager is not. -/
inductive Event where
  | activate (i : Nat)
  | shutdown (i : Nat)
  | install (i : Nat) (st : StageType) (wanIngressProg wanEgressProg ensures : Bool)
  | remove (i : Nat) (st : StageType)
  | packet (i : Nat) (d : ChainDir) (ends : StageType → Bool)

/- The programs the callers hand over: an XDP stage has one for each direction, except PPPoE. -/
def programsFit : Bool :=
  match m with
  | .tc => true
  | .xdp => e.wanEgressProg && (e.wanIngressProg || e.stage = .pppoe)

def launch : Event → State → Option (State × Thread Op Res Log)
  | .activate i, s => some (s, ⟨access (.ensureRoots i true),.call { ifindex := i }⟩)
  | .shutdown i, s =>
    match m with
    | .tc => some ({ s with active := update s.active i false }, ⟨pure (),.call { ifindex := i }⟩)
    | .xdp => some (s, ⟨access (.removeRoots i true),.call { ifindex := i }⟩)
  | .install i st ingress egress ensures, s =>
    let e : StageEntry := ⟨i,st,s.nextId,ingress,egress⟩
    if programsFit m e && (m = .xdp || ensures) then
      some ({ s with nextId := s.nextId + 1 },
        ⟨install m ensures e,.call { ifindex := i, entry := some e }⟩)
    else none
  | .remove i st, s =>
    some ({ s with settled := update s.settled i (update (s.settled i) st none) },
      ⟨remove m i st,.call { ifindex := i }⟩)
  | .packet i d ends, s => some (s, ⟨packet i d ends,.packet { ifindex := i, dir := d }⟩)

def machine : Sys Op Res State Log Event := ⟨exec m,record,launch m⟩

def Op.locks : Op → Bool
  | .ensureRoots _ _ | .insertStage _ _ _ | .removeStage _ _ | .removeRoots _ _ | .rebuild _ _ =>
    true
  | _ => false

def mutex : Schedule Op State Log Event :=
  ⟨fun _ _ => True,fun s _ _ o => o.locks = true → s.locked = false⟩

/-- The stages of an interface for a direction, in the order of their types. PPPoE encapsulates on
the way out only. -/
def stagesFor (installed : StageType → Option StageEntry) (d : ChainDir) : List StageEntry :=
  (StageType.all.filterMap installed).filter fun e =>
    e.hasProg d && !(e.stage = .pppoe && d = .wanIngress)

def follow (links : Slot → Option StageEntry) (d : ChainDir) : Nat → Slot → Option (List StageEntry)
  | 0, _ => none
  | n + 1, c =>
    match links c with
    | none => some []
    | some e => (follow links d n (.next e d)).map (e :: ·)

end Landscape.Chain
