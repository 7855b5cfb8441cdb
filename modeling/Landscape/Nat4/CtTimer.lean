import Landscape.Nat4.MapOps

/-! `nat4_ct_timer.h`: the life of a conntrack entry, from its insertion over the packets
that keep it alive to the timer steps that give its port back. -/
namespace Landscape.Nat4
open Packet

def reportInterval : Nat := 5000000000
def tcpSynTimeout : Nat := 6000000000
def tcpTimeout : Nat := 600000000000
def udpTimeout : Nat := 300000000000

inductive TimerStep where
  | deleteCt
  | restart
  deriving DecidableEq

def nat4CtStatusUsable (status : TimerStatus) : Bool :=
  status != .pendingRef && status.value < TimerStatus.cleanStart.value

def ctStatusCanActivate (status : TimerStatus) : Bool :=
  status != .active && status != .pendingRef && status.value < TimerStatus.cleanStart.value

def nat4TimerDeleteCt (c : Ct) : M (TimerStep × Nat) := do
  timerDelete c.key
  pure (.deleteCt, reportInterval)

def nat4TimerRestart (c : Ct) (current next : TimerStatus) (timeout : Nat) :
    M (TimerStep × Nat) := do
  if current ≠ next then
    let ok ← ctTrySetStatus c current next
    pure (.restart, if ok then timeout else reportInterval)
  else pure (.restart, timeout)

def CtState.afterPkt (curr : CtState) : PktType → CtState
  | .connless => .lessEst
  | .tcpRst => .init
  | .tcpSyn => .syn
  | .tcpFin => .fin
  | .tcpData | .tcpAck => curr

/- The second half of `nat4_ct_advance`: bring the entry back to `TIMER_ACTIVE`. -/
def nat4CtActivate (c : Ct) : M TcAct := do
  let current ← readStatus c
  if ctStatusCanActivate current then
    if ← ctTrySetStatus c current .active then
      let _ ← bpfTimerStart c
      pure .ok
    else pure .ok
  else pure .ok

def nat4CtAdvance (pktType : PktType) (gress : Gress) (c : Ct) : M TcAct := do
  let curr ← readCtState gress c
  let next := curr.afterPkt pktType
  if next ≠ curr then
    if ← casCtState gress c curr next then nat4CtActivate c else pure .shot
  else nat4CtActivate c

/- `TIMER_RELEASE`: give back the reference, or close the mapping if it was the last one. -/
def nat4TimerRelease (c : Ct) : M (TimerStep × Nat) := do
  if ← ctTrySetStatus c .release .cleanStart then
    if c.val.isStatic then nat4TimerDeleteCt c
    else
      match ← nat4LookupIngressDynamic c.key.l4proto c.key.pairIp.dstAddr c.key.pairIp.dstPort with
      | none => nat4TimerDeleteCt c
      | some m =>
        if m.val.generation ≠ c.val.generationSnapshot then nat4TimerDeleteCt c
        else if ← nat4StateTryCloseLast m then pure (.restart, deleteRetryInterval)
        else do
          let _ ← nat4StateTryDec m
          nat4TimerDeleteCt c
  else pure (.restart, reportInterval)

def nat4TimerDeleteEgress (c : Ct) : M (TimerStep × Nat) := do
  match ← nat4LookupEgressDynamic c.key.l4proto c.val.clientAddr c.val.clientPort with
  | some e =>
    if e.val.addr = c.key.pairIp.dstAddr ∧ e.val.port = c.key.pairIp.dstPort then
      egressDelete ⟨.egress,c.key.l4proto,c.val.clientPort,c.val.clientAddr⟩
      nat4TimerRestart c .cleanStart .deleteIngress deleteRetryInterval
    else nat4TimerRestart c .cleanStart .deleteIngress deleteRetryInterval
  | none => nat4TimerRestart c .cleanStart .deleteIngress deleteRetryInterval

def nat4TimerDeleteIngress (c : Ct) : M (TimerStep × Nat) := do
  let ingressKey : MappingKey :=
    ⟨.ingress,c.key.l4proto,c.key.pairIp.dstPort,c.key.pairIp.dstAddr⟩
  match ← ingressLookup ingressKey with
  | none => nat4TimerRestart c .deleteIngress .pushQueue queueRetryInterval
  | some m =>
    if m.val.generation ≠ c.val.generationSnapshot then nat4TimerDeleteCt c
    else do
      ingressDelete ingressKey
      nat4TimerRestart c .deleteIngress .pushQueue queueRetryInterval

def nat4TimerPushQueue (c : Ct) : M (TimerStep × Nat) := do
  if c.val.isStatic then nat4TimerDeleteCt c
  else if ← nat4QueuePush c.key.l4proto ⟨c.key.pairIp.dstPort,c.val.generationSnapshot⟩ then
    nat4TimerDeleteCt c
  else nat4TimerRestart c .pushQueue .pushQueue queueRetryInterval

def nat4TimerAgeTo (c : Ct) (current next : TimerStatus) (timeout : Nat) :
    M (TimerStep × Nat) := do
  let ok ← ctTrySetStatus c current next
  pure (.restart, if ok then timeout else reportInterval)

def nat4TimerAge (c : Ct) (current : TimerStatus) : M (TimerStep × Nat) := do
  match current with
  | .active => nat4TimerAgeTo c .active .timeout1 reportInterval
  | .timeout1 => nat4TimerAgeTo c .timeout1 .timeout2 reportInterval
  | .timeout2 =>
    if c.key.l4proto = ipprotoTcp then
      let cs ← readCtState .egress c
      let ss ← readCtState .ingress c
      nat4TimerAgeTo c .timeout2 .release
        (if cs = .syn ∧ ss = .syn then tcpTimeout else tcpSynTimeout)
    else nat4TimerAgeTo c .timeout2 .release udpTimeout
  | _ => nat4TimerAgeTo c current .timeout2 reportInterval

/-- `nat4_handle_timer_step`. `reported` says whether the metric ring buffer had room;
deletes of single elements fail with `-ENOENT` only. -/
def nat4HandleTimerStep (reported : Bool) (c : Ct) : M (TimerStep × Nat) := do
  let current ← readStatus c
  match current with
  | .pendingRef => nat4TimerDeleteCt c
  | .release => nat4TimerRelease c
  | .cleanStart => nat4TimerDeleteEgress c
  | .deleteIngress => nat4TimerDeleteIngress c
  | .pushQueue => nat4TimerPushQueue c
  | _ => if reported then nat4TimerAge c current else pure (.restart, reportInterval)

/-- `nat4_timer_clean_callback`, with the return to the kernel as an access of its own. -/
def nat4TimerCleanCallback (reported : Bool) (c : Ct) : M Unit := do
  let (action, _) ← nat4HandleTimerStep reported c
  if action = .restart then
    let _ ← bpfTimerStart c
    timerReturn c
  else timerReturn c

def nat4InsertCt (key : TimerKey) (val : TimerValue) : M (Option Ct) := do
  match ← timerInsert key val with
  | none => pure none
  | some _ =>
    match ← timerLookup key with
    | none => pure none
    | some value =>
      if ← bpfTimerInit value then
        if ← bpfTimerSetCallback value then
          if ← bpfTimerStart value then pure (some value)
          else do
            timerDelete key
            pure none
        else do
          timerDelete key
          pure none
      else do
        timerDelete key
        pure none

inductive CtIngressResolve where
  | miss
  | ok (c : Ct)
  | unusable

def nat4CtIngressResolve (ctKey : TimerKey) : M CtIngressResolve := do
  match ← timerLookup ctKey with
  | none => pure .miss
  | some tv =>
    let st ← readStatus tv
    pure (if nat4CtStatusUsable st then .ok tv else .unusable)

def nat4CtResolve (ctKey : TimerKey) (dynIngress : Option Mapping) : M (Option Ct) := do
  match ← timerLookup ctKey with
  | none => pure none
  | some tv =>
    if dynIngress.any (fun m => tv.val.generationSnapshot != m.val.generation) then
      timerDelete ctKey
      pure none
    else
      let st ← readStatus tv
      pure (if nat4CtStatusUsable st then some tv else none)

end Landscape.Nat4
