import Landscape.Nat4.Ownership
import Landscape.Nat4.Callbacks

/-! A port serves one client at a time, and a free port serves nobody. -/
namespace Landscape.Nat4
open Interleave Packet Function List

/-- The runs in which no handler acts on a mapping or an entry that has meanwhile become
somebody else's. -/
def timelySchedule : Schedule Op State Log Event where
  starts _ _ := True
  acts s logs t o := ∀ l, logs t = some l → Timely s logs t l o

variable {env : Env} {s : State} {g : Ghost} {logs : Nat → Option Log} {c : Conf}

theorem launch_base {s' : State} {t : Nat} {e : Event} {th : Thread Op Res Log}
    (h : Base env s g logs) (ht : logs t = none) (hl : launch env e s = some (s', th)) :
    Base env s' g (update logs t (some th.log)) ∧ Keeps env (fun _ => Done) th.prog th.log := by
  cases e with
  | egress skb =>
    cases hl
    exact ⟨h.start ht (by simp) (by simp),tcNatV4EgressDo_keeps skb⟩
  | ingress skb =>
    cases hl
    exact ⟨h.start ht (by simp) (by simp),tcNatV4IngressDo_keeps skb⟩
  | fire c reported =>
    simp only [launch] at hl
    split at hl
    · rename_i hc
      cases hl
      refine ⟨h.start ht (fun c' => ?_) ?_,nat4TimerCleanCallback_keeps reported⟩
      · by_cases hcc : c' = c
        · simp [hcc]
        · simp [hcc, Ne.symm hcc]
      · rintro _ ⟨⟩
        exact ⟨hc.1,by simpa using hc.2.2⟩
    · cases hl

theorem timely_outline : Outline (machine env) (contract env) timelySchedule Done
    fun s logs => ∃ g, Base env s g logs where
  start s logs t e s' th hinv ht _ hl := by
    obtain ⟨g,h⟩ := hinv
    obtain ⟨h1,h2⟩ := launch_base h ht hl
    exact ⟨⟨g,h1⟩,h2⟩
  act s logs t l o hinv ht hr ha := by
    obtain ⟨g,h⟩ := hinv
    exact ⟨h.answers ht ha (hr l ht),_,h.step ht ha (hr l ht)⟩
  finish s logs t l hinv ht hd := by
    obtain ⟨g,h⟩ := hinv
    exact ⟨g,h.leave ht hd⟩

theorem base_of_reach {cfg : NatConfig}
    (h : Reach (machine env) timelySchedule (Conf.seeded cfg) c) :
    ∃ g, Base env c.shared g c.logs :=
  timely_outline.reach ⟨_,Base.seeded env cfg⟩ h

theorem Base.mapped_of_usable {c : Ct} (h : Base env s g logs)
    (hu : nat4CtStatusUsable (s.status c) = true) (hst : c.val.isStatic = false) :
    ∃ m, ctOwner g c = .mapped m ∧ Belongs c m := by
  obtain ⟨m,hm⟩ := h.usable c hu hst
  obtain ⟨ho,hb,-⟩ := h.holder c m hm
  exact ⟨m,(hb.owner g).symm.trans ho,hb⟩

theorem Base.same_client {c c' : Ct} (h : Base env s g logs)
    (hu : nat4CtStatusUsable (s.status c) = true) (hu' : nat4CtStatusUsable (s.status c') = true)
    (hst : c.val.isStatic = false) (hst' : c'.val.isStatic = false)
    (hq : nat4FreePortQueue c.key.l4proto = nat4FreePortQueue c'.key.l4proto)
    (hp : c.key.pairIp.dstPort = c'.key.pairIp.dstPort) :
    c.val.clientAddr = c'.val.clientAddr ∧ c.val.clientPort = c'.val.clientPort := by
  obtain ⟨m,ho,hb⟩ := h.mapped_of_usable hu hst
  obtain ⟨m',ho',hb'⟩ := h.mapped_of_usable hu' hst'
  have heq : m = m' := by
    rw [ctOwner, hq, hp] at ho
    exact Owner.mapped.inj (ho.symm.trans ho')
  subst heq
  exact ⟨hb.addr.trans hb'.addr.symm,hb.port.trans hb'.port.symm⟩

/-- At most one client per NAT port, and none for a port in the free queue. -/
structure PortExclusive (s : State) : Prop where
  sameClient : ∀ k k' c c', s.timer k = some c → s.timer k' = some c' →
    nat4CtStatusUsable (s.status c) = true → nat4CtStatusUsable (s.status c') = true →
    k.l4proto = k'.l4proto → k.pairIp.dstAddr = k'.pairIp.dstAddr →
    k.pairIp.dstPort = k'.pairIp.dstPort →
    c.val.clientAddr = c'.val.clientAddr ∧ c.val.clientPort = c'.val.clientPort
  noEntry : ∀ q, ∀ v ∈ s.queue q, ∀ k c, s.timer k = some c → nat4FreePortQueue k.l4proto = q →
    k.pairIp.dstPort = v.port → nat4CtStatusUsable (s.status c) = false
  noIngress : ∀ q, ∀ v ∈ s.queue q, ∀ k m, s.ingress k = some m →
    nat4FreePortQueue k.l4proto = q → k.fromPort ≠ v.port
  noEgress : ∀ q, ∀ v ∈ s.queue q, ∀ k e, s.egress k = some e →
    nat4FreePortQueue k.l4proto = q → e.val.port ≠ v.port

theorem Base.portExclusive (h : Base env s g logs) (hstatic : ∀ k, env.nat4StaticMap k = none) :
    PortExclusive s := by
  have hdyn : ∀ k c, s.timer k = some c → c.val.isStatic = false := by
    intro k c hc
    cases hst : c.val.isStatic with
    | false => rfl
    | true =>
      have hres := h.static k c hc hst
      simp [nat4StaticPortReserved, nat4LookupStaticIngress, hstatic] at hres
  constructor
  case sameClient =>
    intro k k' c c' hc hc' hu hu' hproto _ hport
    obtain ⟨rfl,-⟩ := h.timerKey k c hc
    obtain ⟨rfl,-⟩ := h.timerKey k' c' hc'
    exact h.same_client hu hu' (hdyn _ c hc) (hdyn _ c' hc') (by rw [hproto]) hport
  case noEntry =>
    intro q v hv k c hc hq hp
    obtain ⟨rfl,-⟩ := h.timerKey k c hc
    by_contra hu
    obtain ⟨m,ho,-⟩ := h.mapped_of_usable (by simpa using hu) (hdyn _ c hc)
    have ho' := h.queueOwner q v hv
    rw [ctOwner, hq, hp, ho'] at ho
    cases ho
  case noIngress =>
    intro q v hv k m hm hq hp
    have ho := h.queueOwner q v hv
    obtain ⟨rfl,-⟩ := h.ingressKey k m hm
    rcases h.ingressOwner m.key m hm with hm' | ⟨c,hm'⟩ <;> simp [mapOwner, hq, hp, ho] at hm'
  case noEgress =>
    intro q v hv k e he hq hp
    have ho := h.queueOwner q v hv
    have hheld := h.egressHeld k e he
    rw [← h.egressKey k e he] at hq
    simp [EgressHeld, hq, hp, ho] at hheld

def sampleEnv : Env :=
  ⟨⟨fun _ _ _ _ => 0,fun _ _ _ _ _ _ => 0⟩,0,fun _ => none,fun _ => some 0x01010101⟩

def sampleConfig : NatConfig := ⟨(1, 2),(50, 51),(1, 2)⟩

def samplePacket : Skb :=
  ⟨.ofList [0x45, 0, 0, 28, 0, 0, 0, 0, 64, 17, 0, 0, 10, 0, 0, 2, 8, 8, 8, 8, 3, 232, 0, 53, 0,
    8, 0, 0],0x8000,1⟩

def secondPacket : Skb :=
  ⟨.ofList [0x45, 0, 0, 29, 0, 0, 0, 0, 64, 17, 0, 0, 10, 0, 0, 2, 9, 9, 9, 9, 3, 232, 0, 53, 0, 9,
    0, 0, 0],0x8000,1⟩

def sampleKey : TimerKey := ⟨17,⟨0x08080808,0x01010101,53,50⟩⟩

def timelyCheck (s : State) (logs : Nat → Option Log) (t : Nat) : Op → Bool
  | .ingressDelete _ => (logs t).all fun l => l.callback.isSome
  | .ingressLookup k => (logs t).all fun l =>
      l.mine.all fun m => s.ingress k == none || s.ingress k == some m
  | .timerLookup k => (logs t).all fun l =>
      l.ct.all fun c => s.timer k == none || s.timer k == some c
  | _ => true

theorem timely_of_check {logs : Nat → Option Log} {t : Nat} {o : Op}
    (h : timelyCheck s logs t o = true) : timelySchedule.acts s logs t o := by
  intro l hl
  cases o <;> try trivial
  case ingressDelete k =>
    intro hcb
    simp [timelyCheck, hl, hcb] at h
  case ingressLookup k =>
    intro m hm _
    simpa [timelyCheck, hl, hm] using h
  case timerLookup k =>
    intro c hc _
    simpa [timelyCheck, hl, hc] using h

def packetRun (t : Nat) (skb : Skb) (n : Nat) : List (Label Event) :=
  .start t (.egress skb) :: (replicate n (.act t) ++ [.finish t])

/- Two packets of a client on two CPUs: the second takes up the mapping of the first, step by step
   beside it. -/
def sharedRun : List (Label Event) :=
  .start 0 (.egress samplePacket) :: .start 1 (.egress secondPacket) ::
    (replicate 8 (.act 0) ++ (replicate 12 [.act 0, .act 1]).flatten ++ replicate 5 (.act 1) ++
      [.finish 0, .finish 1])

/- Two packets of one connection. The first makes the mapping, the second finds it and inserts the
   conntrack entry; the first one's insert fails, it sees no reference, deletes the mapping and
   pushes the port; the second takes its reference and makes its entry usable. -/
def rollbackRace : List (Label Event) :=
  .start 0 (.egress samplePacket) :: (replicate 7 (.act 0) ++
    .start 1 (.egress samplePacket) :: (replicate 7 (.act 1) ++
      (replicate 5 (.act 0) ++ replicate 7 (.act 1))))

def freeAndUsed (c : Conf) : Bool :=
  (c.shared.queue .udp).any (fun v => v.port == sampleKey.pairIp.dstPort) &&
    (c.shared.timer sampleKey).any fun e => nat4CtStatusUsable (c.shared.status e)

theorem not_exclusive_of_freeAndUsed (h : freeAndUsed c = true) : ¬PortExclusive c.shared := by
  intro hx
  simp only [freeAndUsed, Bool.and_eq_true, any_eq_true, beq_iff_eq, Option.any_eq_true] at h
  obtain ⟨⟨v,hv,hp⟩,e,he,hu⟩ := h
  have hno := hx.noEntry .udp v hv sampleKey e he rfl hp.symm
  simp [hu] at hno

end Landscape.Nat4
