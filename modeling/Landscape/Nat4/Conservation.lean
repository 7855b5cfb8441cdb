import Landscape.Nat4.ExactRefs
import Landscape.Nat4.Exclusivity

/-! A port that no conntrack entry uses is back in its queue. -/
namespace Landscape.Nat4
open Interleave Packet Function List
variable {env : Env} {cfg : NatConfig} {s : State} {g : Ghost} {logs : Nat → Option Log} {t : Nat}
  {l : Log} {o : Op} {p : UInt16} {k : TimerKey}

section
variable (hx : Exact env cfg s g logs)
include hx

theorem exact_egressInsert (ht : logs t = some l) (k : MappingKey) (v : EgressMappingValue) :
    Exact env cfg (exec (.egressInsert k v) s).2 g
      (update logs t (some (record l (.egressInsert k v) (exec (.egressInsert k v) s).1))) := by
  cases hk : s.egress k with
  | some e =>
    have he : exec (.egressInsert k v) s = (none, s) := by simp [exec, State.insertEgress, hk]
    rw [he]
    exact hx.silent ht (.rfl s)
  | none =>
    have he : record l (.egressInsert k v) (exec (.egressInsert k v) s).1 =
        { l with eg := some (k, v.addr) } := by
      simp [record, exec, State.insertEgress, hk]
    refine exact_egress hx ht ?_ (.inr ⟨_,he⟩)
    simp only [exec, State.insertEgress, hk]
    exact ⟨Nat.le_succ _,rfl,rfl,rfl,rfl,rfl,fun _ => rfl⟩

theorem exact_egressDelete (ht : logs t = some l) (k : MappingKey) :
    Exact env cfg (exec (.egressDelete k) s).2 g
      (update logs t (some (record l (.egressDelete k) ()))) := by
  have E : SameMaps s (exec (.egressDelete k) s).2 :=
    ⟨le_rfl,rfl,rfl,rfl,rfl,rfl,fun _ => rfl⟩
  refine exact_egress (o := .egressDelete k) hx ht E ?_
  simp only [record]
  split
  · exact .inr ⟨none,rfl⟩
  · exact .inl rfl

theorem Exact.step (hb : Base env s g logs) (hstatic : ∀ k, env.nat4StaticMap k = none)
    (ht : logs t = some l) (ha : Allowed env l o) (hr : Timely s logs t l o) (hs : Steady s l o) :
    Exact env cfg (exec o s).2 (ghostNext g s t l o)
      (update logs t (some (record l o (exec o s).1))) := by
  cases o with
  | ingressLookup k => exact exact_ingressLookup hx ht ha.1 _
  | ingressInsert k v => exact exact_ingressInsert hx hb ht ha hs
  | ingressDelete k =>
    simp only [Allowed, AllowedDelete] at ha
    cases hcb : l.callback with
    | none =>
      simp only [hcb] at ha
      obtain ⟨-,-,m,hm,rfl⟩ := ha
      exact exact_ingressDelete_packet hx hb ht hcb hm (hr hcb m hm)
    | some c =>
      simp only [hcb] at ha
      obtain ⟨rfl,hf,hst,hfound⟩ := ha
      exact exact_ingressDelete_callback hx hb ht hcb hf hst hfound
  | egressLookup k => exact exact_egress hx ht (.rfl s) (record_egressLookup k _)
  | egressInsert k v => exact exact_egressInsert hx ht k v
  | egressDelete k => exact exact_egressDelete hx ht k
  | timerLookup k => exact exact_timerLookup hx ht _
  | timerInsert k v => exact exact_timerInsert hx hb ht ha
  | timerDelete k => exact exact_timerDelete hx hb ht ha hs hstatic
  | queuePop proto => exact exact_queuePop hx hb ht ha.1
  | queuePush proto v => exact exact_queuePush hx hb ht ha
  | readStateRef m => exact exact_readStateRef hx hb ht
  | casStateRef m old new => exact exact_casStateRef hx hb ht ha
  | readStatus c => exact exact_readStatus hx hb ht ha hs
  | casStatus c old new => exact exact_casStatus hx hb ht ha
  | storeStatus c st => exact exact_storeStatus hx hb ht ha
  | timerReturn c => exact exact_timerReturn hx hb ht ha.1
  | readMappingReuse | writeMappingReuse | readEgressReuse | writeEgressReuse | readCtState
  | casCtState
  | timerInit | timerSetCallback | timerStart | fragLookup | fragUpdate =>
    exact hx.silent ht (exec_plain rfl).1

theorem Exact.start (ht : logs t = none) (c : Option Ct) (b : Ct → BpfTimer) :
    Exact env cfg { s with bpfTimer := b } g (update logs t (some (Log.start c))) := by
  refine ⟨hx.count,?_,hx.held,hx.closing,hx.porting,hx.queued,hx.nobody,hx.ours,
    forall_update ?_ fun u x _ h => ?_⟩
  · intro m ho he
    obtain ⟨x,hxm,hmine⟩ := hx.made m ho he
    have hu : g.maker m ≠ t := by
      intro hu
      rw [hu, ht] at hxm
      cases hxm
    exact ⟨x,by simpa [hu] using hxm,hmine⟩
  · constructor <;> simp [Log.start]
  · have h' := hx.threads u x h
    exact ⟨h'.pending,h'.started,h'.gave,h'.pushed,h'.rid⟩

theorem Exact.leave (ht : logs t = some l) (hd : Done l) :
    Exact env cfg s g (update logs t none) := by
  refine ⟨hx.count,?_,hx.held,hx.closing,hx.porting,hx.queued,hx.nobody,hx.ours,?_⟩
  · intro m ho he
    obtain ⟨x,hxm,hmine,hz⟩ := hx.made m ho he
    have hu : g.maker m ≠ t := by
      intro hu
      rw [hu, ht] at hxm
      cases hxm
      simp [hd.2.2.1] at hz
    exact ⟨x,by simpa [hu] using hxm,hmine,hz⟩
  · intro u x hxu
    exact hx.threads u x (Table.of_update_none hxu).2

end

theorem Exact.seeded (env : Env) (cfg : NatConfig) :
    Exact env cfg (State.seeded cfg) (Ghost.seeded cfg) fun _ => none := by
  constructor
  case count | made | closing | porting =>
    intros
    exact (not_seeded (by assumption) (by simp) (by simp)).elim
  case held =>
    simp [Ghost.seeded]
  case queued =>
    intro q p hq
    by_contra hp
    rw [show (Ghost.seeded cfg).owner q p = .nobody from if_neg hp] at hq
    cases hq
  case nobody =>
    intro q p hq hp
    rw [show (Ghost.seeded cfg).owner q p = .queue from if_pos hp] at hq
    cases hq
  case ours =>
    simp [State.seeded]
  case threads =>
    intro t l hl
    cases hl

/-- The runs in which, besides, no entry is deleted before its reference has been given back. -/
def steadySchedule : Schedule Op State Log Event where
  starts _ _ := True
  acts s logs t o := ∀ l, logs t = some l → Timely s logs t l o ∧ Steady s l o

theorem launch_exact {s' : State} {e : Event} {th : Thread Op Res Log}
    (hx : Exact env cfg s g logs) (ht : logs t = none) (hl : launch env e s = some (s', th)) :
    Exact env cfg s' g (update logs t (some th.log)) := by
  cases e with
  | egress skb | ingress skb =>
    cases hl
    exact hx.start ht none s.bpfTimer
  | fire c reported =>
    simp only [launch] at hl
    split at hl
    · cases hl
      exact hx.start ht (some c) _
    · cases hl

theorem steady_outline (hstatic : ∀ k, env.nat4StaticMap k = none) :
    Outline (machine env) (contract env) steadySchedule Done
      fun s logs => ∃ g, Base env s g logs ∧ Exact env cfg s g logs where
  start s logs t e s' th hinv ht _ hl := by
    obtain ⟨g,hb,hx⟩ := hinv
    obtain ⟨h1,h2⟩ := launch_base hb ht hl
    exact ⟨⟨g,h1,launch_exact hx ht hl⟩,h2⟩
  act s logs t l o hinv ht hr ha := by
    obtain ⟨g,hb,hx⟩ := hinv
    obtain ⟨hr,hs⟩ := hr l ht
    exact ⟨hb.answers ht ha hr,_,hb.step ht ha hr,hx.step hb hstatic ht ha hr hs⟩
  finish s logs t l hinv ht hd := by
    obtain ⟨g,hb,hx⟩ := hinv
    exact ⟨g,hb.leave ht hd,hx.leave ht hd⟩

theorem mem_seedPortQueue {first last : UInt16} (h₁ : first ≤ p) (h₂ : p ≤ last) :
    p ∈ (seedPortQueue first last).map (·.port) := by
  have h₁' := UInt16.le_iff_toNat_le.mp h₁
  have h₂' := UInt16.le_iff_toNat_le.mp h₂
  refine mem_map.mpr ⟨⟨p,0⟩,mem_map.mpr ⟨p.toNat,?_,by simp⟩,rfl⟩
  refine mem_iff_getElem.mpr ⟨p.toNat - first.toNat,?_,?_⟩
  · rw [length_drop, length_range]
    omega
  · rw [getElem_drop, getElem_range]
    omega

theorem freePortQueue_inj {a b : UInt8} (ha : a = ipprotoTcp ∨ a = ipprotoUdp ∨ a = ipprotoIcmp)
    (hb : b = ipprotoTcp ∨ b = ipprotoUdp ∨ b = ipprotoIcmp)
    (h : nat4FreePortQueue a = nat4FreePortQueue b) : a = b := by
  rcases ha with rfl | rfl | rfl <;> rcases hb with rfl | rfl | rfl <;>
    first | rfl | exact absurd h (by decide)

def NoEntry (s : State) (proto : UInt8) (n : UInt32) (p : UInt16) : Prop :=
  ∀ k c, s.timer k = some c → k.l4proto = proto → k.pairIp.dstAddr = n → k.pairIp.dstPort ≠ p

/-- Under a NAT address for which a port of the range has no conntrack entry it has no mapping
either. The queues are shared by all addresses: a port without an entry under any of them is in its
queue, once. -/
def PortConserved (env : Env) (cfg : NatConfig) (s : State) : Prop :=
  ∀ proto p, proto = ipprotoTcp ∨ proto = ipprotoUdp ∨ proto = ipprotoIcmp →
    (cfg.range (nat4FreePortQueue proto)).1 ≤ p → p ≤ (cfg.range (nat4FreePortQueue proto)).2 →
    (∀ n, NoEntry s proto n p → s.ingress ⟨.ingress,proto,p,n⟩ = none ∧
      ∀ k e, s.egress k = some e → k.l4proto = proto → e.val.addr = n → e.val.port ≠ p) ∧
    ((∀ i n, env.wanIpBinding i = some n → NoEntry s proto n p) →
      (∀ k e, s.egress k = some e → k.l4proto = proto → e.val.port ≠ p) ∧
        ((s.queue (nat4FreePortQueue proto)).map (·.port)).count p = 1)

section Quiet
variable (hx : Exact env cfg s g logs) (hb : Base env s g logs) (hquiet : ∀ t, logs t = none)
include hx hb hquiet

/- With no handler in flight a mapping has an entry to show for it. -/
theorem Exact.exists_entry {m : Mapping}
    (ho : mapOwner g m = .mapped m ∨ ∃ c, mapOwner g m = .closed c m) :
    ∃ c, Attached s c ∧ Belongs c m := by
  rcases ho with ho | ⟨c,ho⟩
  · rcases (g.holders m).eq_empty_or_nonempty with he | ⟨c,hc⟩
    · obtain ⟨l,hl,-⟩ := hx.made m ho he
      simp [hquiet] at hl
    · exact ⟨c,hx.held c m hc,(hb.holder c m hc).2.1⟩
  · obtain ⟨-,-,-,hbel,-⟩ := hb.closedAt _ _ c m ho
    exact ⟨c,(hx.closing _ _ c m ho).1,hbel⟩

theorem Exact.noMapping {proto : UInt8} {n : UInt32} {m : Mapping} (hfree : NoEntry s proto n p)
    (hm : s.ingress m.key = some m) (hproto : m.key.l4proto = proto) (haddr : m.key.fromAddr = n) :
    m.key.fromPort ≠ p := by
  obtain ⟨c,hc,hbel⟩ := hx.exists_entry hb hquiet (hb.ingressOwner _ m hm)
  rw [hbel.key] at hproto haddr ⊢
  exact hfree c.key c hc hproto haddr

/-- Every owner of a port but the queue has an entry to show for it. -/
theorem Exact.owner_queue {proto : UInt8}
    (hproto : proto = ipprotoTcp ∨ proto = ipprotoUdp ∨ proto = ipprotoIcmp)
    (hfirst : (cfg.range (nat4FreePortQueue proto)).1 ≤ p)
    (hlast : p ≤ (cfg.range (nat4FreePortQueue proto)).2)
    (hfree : ∀ i n, env.wanIpBinding i = some n → NoEntry s proto n p) :
    g.owner (nat4FreePortQueue proto) p = .queue := by
  -- an entry that leads to the port has an address of an interface and the protocol itself
  have hnone : ∀ c, Attached s c → Ours env c.key.l4proto c.key.pairIp.dstAddr →
      nat4FreePortQueue proto = nat4FreePortQueue c.key.l4proto → p ≠ c.key.pairIp.dstPort := by
    intro c hc ⟨hp,i,ha⟩ hq hpp
    exact hfree i _ ha c.key c hc (freePortQueue_inj hp hproto hq.symm) rfl hpp.symm
  have hmapped : ∀ m, (mapOwner g m = .mapped m ∨ ∃ c, mapOwner g m = .closed c m) →
      s.ingress m.key = some m → nat4FreePortQueue proto = nat4FreePortQueue m.key.l4proto →
        p ≠ m.key.fromPort := by
    intro m ho hin hq hpp
    obtain ⟨c,hc,hbel⟩ := hx.exists_entry hb hquiet ho
    have hours := hx.ours _ m hin
    rw [hbel.key] at hours hq hpp
    exact hnone c hc hours hq hpp
  cases ho : g.owner (nat4FreePortQueue proto) p with
  | queue => rfl
  | thread t =>
    obtain ⟨l,_,_,hl,-⟩ := hb.threadOwner _ _ t ho
    simp [hquiet t] at hl
  | mapped m =>
    obtain ⟨hq,hp,hin,-⟩ := hb.mappedAt _ _ m ho
    exact absurd hp (hmapped m (.inl (by rw [mapOwner, ← hq, ← hp, ho])) hin hq)
  | closed c m =>
    obtain ⟨hq,hp,hin,-⟩ := hb.closedAt _ _ c m ho
    exact absurd hp (hmapped m (.inr ⟨c,by rw [mapOwner, ← hq, ← hp, ho]⟩) hin hq)
  | port c =>
    obtain ⟨hq,hp,-⟩ := hb.portAt _ _ c ho
    obtain ⟨hat,-,hours⟩ := hx.porting _ _ c ho
    exact absurd hp (hnone c hat hours hq)
  | nobody => exact absurd (mem_seedPortQueue hfirst hlast) (hx.nobody _ _ ho)

end Quiet

def Inverse (s : State) (key : MappingKey) (e : EgressMapping) : Prop :=
  ∃ m, s.ingress m.key = some m ∧ key = clientKey m ∧ e.val.addr = m.key.fromAddr ∧
    e.val.port = m.key.fromPort

theorem Base.inverse {key : MappingKey} {e : EgressMapping} (hb : Base env s g logs)
    (hquiet : ∀ t, logs t = none) (he : s.egress key = some e) : Inverse s key e := by
  have hheld := hb.egressHeld key e he
  have hkey := hb.egressKey key e he
  unfold EgressHeld at hheld
  split at hheld
  · obtain ⟨l,hl,-⟩ := hheld
    simp [hquiet] at hl
  · rename_i m ho
    obtain ⟨-,hp,hin,-⟩ := hb.mappedAt _ _ m ho
    exact ⟨m,hin,hkey.symm.trans hheld.1,hheld.2.1,hp⟩
  · rename_i c m ho
    obtain ⟨-,hp,hin,-⟩ := hb.closedAt _ _ c m ho
    exact ⟨m,hin,hkey.symm.trans hheld.1,hheld.2.1,hp⟩
  · exact hheld.elim

theorem Exact.portConserved (hx : Exact env cfg s g logs) (hb : Base env s g logs)
    (hquiet : ∀ t, logs t = none) : PortConserved env cfg s := by
  intro proto p hproto hfirst hlast
  refine ⟨fun n hfree => ?_,fun hfree => ?_⟩
  · constructor
    · rw [Option.eq_none_iff_forall_ne_some]
      intro m hm
      have hkey := (hb.ingressKey _ m hm).1
      exact hx.noMapping hb hquiet hfree (hkey ▸ hm) (by rw [hkey]) (by rw [hkey]) (by rw [hkey])
    · intro k e he hk haddr hport
      obtain ⟨m,hm,rfl,ha,hp⟩ := hb.inverse hquiet he
      exact hx.noMapping hb hquiet hfree hm hk (ha.symm.trans haddr) (hp.symm.trans hport)
  · have ho := hx.owner_queue hb hquiet hproto hfirst hlast hfree
    refine ⟨?_,count_eq_one_of_mem (hb.queueNodup _) (hx.queued _ _ ho)⟩
    rintro k e he hk rfl
    have hheld := hb.egressHeld k e he
    simp [EgressHeld, hb.egressKey k e he, hk, ho] at hheld

instance (s : State) (l : Log) (o : Op) : Decidable (Steady s l o) := by
  cases o <;> simp only [Steady] <;> try infer_instance
  case timerDelete k =>
    split
    · infer_instance
    · infer_instance
    · cases hf : l.found with
      | none => exact decidable_of_iff (s.timer k = none ∨ s.timer k = l.seen) (by simp)
      | some m =>
        exact decidable_of_iff ((s.timer k = none ∨ s.timer k = l.seen) ∧ s.ingress m.key = some m)
          (by simp)

def steadyCheck (s : State) (logs : Nat → Option Log) (t : Nat) (o : Op) : Bool :=
  timelyCheck s logs t o && (logs t).all fun l => decide (Steady s l o)

theorem steady_of_check {logs : Nat → Option Log} {t : Nat} (h : steadyCheck s logs t o = true) :
    steadySchedule.acts s logs t o := by
  simp only [steadyCheck, Bool.and_eq_true] at h
  intro l hl
  exact ⟨timely_of_check h.1 l hl,by simpa [hl] using h.2⟩

def sampleCt : Ct := ⟨2,sampleKey,⟨.init,.init,.pendingRef,0x0a000002,1000,.egress,0,1,false⟩⟩

def secondKey : TimerKey := ⟨17,⟨0x09090909,0x01010101,53,50⟩⟩

def secondCt : Ct := ⟨3,secondKey,⟨.init,.init,.pendingRef,0x0a000002,1000,.egress,0,1,false⟩⟩

def fireRun (t : Nat) (c : Ct) (n : Nat) : List (Label Event) :=
  .start t (.fire c true) :: (replicate n (.act t) ++ [.finish t])

def lifeRun : List (Label Event) :=
  packetRun 0 samplePacket 20 ++ [4, 4, 4, 6, 6, 6, 4].flatMap (fireRun 0 sampleCt)

theorem exec_timer {c : Ct} (h : (exec o s).2.timer k = some c) :
    s.timer k = some c ∨ ∃ v, o = .timerInsert k v := by
  cases o with
  | timerInsert k' v =>
    simp only [exec, State.insertTimer] at h
    split at h
    · exact .inl h
    · by_cases hk : k = k'
      · exact .inr ⟨v,by rw [hk]⟩
      · exact .inl (by simpa [hk] using h)
  | timerDelete k' => exact .inl (deleteTimer_timer h).2
  | casCtState d c' old new =>
    simp only [exec] at h
    split at h
    · rw [(sameMaps_setCtState d new).1.timer] at h
      exact .inl h
    · exact .inl h
  | _ =>
    simp only [exec, State.insertIngress, State.insertEgress, State.popQueue, State.setStatus,
      State.setTimer] at h
    first
    | exact .inl h
    | (split at h <;> exact .inl h)

def insertsInto (ks : List TimerKey) (_ : State) (_ : Nat → Option Log) (_ : Nat) : Op → Bool
  | .timerInsert k _ => ks.contains k
  | _ => true

theorem timer_insertsInto {ks : List TimerKey} {c : Conf}
    (h : Reach (machine env) ⟨fun _ _ => True,fun s logs t o => insertsInto ks s logs t o = true⟩
      (Conf.seeded cfg) c) {e : Ct} (he : c.shared.timer k = some e) : k ∈ ks := by
  refine Reach.shared (fun s => ∀ k e, s.timer k = some e → k ∈ ks) ?_ ?_ ?_ h k e he
  · intro ev s s' th hinv hl k' e' he'
    cases ev with
    | egress skb | ingress skb =>
      cases hl
      exact hinv k' e' he'
    | fire c' reported =>
      simp only [machine, launch] at hl
      split at hl
      · cases hl
        exact hinv k' e' he'
      · cases hl
  · intro s logs t o hinv ho k' e' he'
    rcases exec_timer he' with he' | ⟨v,rfl⟩
    · exact hinv k' e' he'
    · simpa [insertsInto] using ho
  · simp [Conf.seeded, State.seeded]

/- Two connections of one client share a port, and their last callbacks run at the same time:
   both see two references, neither closes the mapping, and both delete their entries. -/
def doubleRelease : List (Label Event) :=
  packetRun 0 samplePacket 20 ++ packetRun 0 secondPacket 17 ++
    [4, 4, 4].flatMap (fireRun 0 sampleCt) ++ [4, 4, 4].flatMap (fireRun 0 secondCt) ++
    .start 0 (.fire sampleCt true) :: .start 1 (.fire secondCt true) ::
      (replicate 4 (.act 0) ++ replicate 4 (.act 1) ++ replicate 4 (.act 0) ++
        replicate 3 (.act 1) ++ [.finish 0, .finish 1])

def sampleMapKey : MappingKey := ⟨.ingress,17,50,0x01010101⟩

/-- A mapping that is in force has a reference for each of the entries that count on it: they are
its own, and every usable one is among them. A mapping that was closed waits for the entry that
closed it, and no usable one is left. -/
def Accounted (s : State) (m : Mapping) : Prop :=
  (nat4StateGet (s.stateRef m) = nat4StateActive ∧ ∃ cs : Finset Ct, cs.Nonempty ∧
    cs.card = nat4RefGet (s.stateRef m) ∧ (∀ c ∈ cs, Attached s c ∧ Belongs c m) ∧
    ∀ c, Belongs c m → nat4CtStatusUsable (s.status c) = true → c ∈ cs) ∨
  (s.stateRef m = nat4StateMake nat4StateClosed 1 ∧
    (∃ c, Attached s c ∧ Belongs c m ∧ ¬Low (s.status c)) ∧
    ∀ c, Belongs c m → nat4CtStatusUsable (s.status c) = false)

theorem Exact.accounted {m : Mapping} {key : MappingKey} (hx : Exact env cfg s g logs)
    (hb : Base env s g logs) (hquiet : ∀ t, logs t = none) (hm : s.ingress key = some m) :
    Accounted s m := by
  -- a usable entry counts on the mapping that owns its port
  have husable : ∀ c, Belongs c m → nat4CtStatusUsable (s.status c) = true →
      ∃ m', c ∈ g.holders m' ∧ mapOwner g m = .mapped m' := by
    intro c hbel hu
    obtain ⟨m',hc⟩ := hb.usable c hu hbel.dynamic
    obtain ⟨ho,hbel',-⟩ := hb.holder c m' hc
    rw [hbel'.owner, ← hbel.owner] at ho
    exact ⟨m',hc,ho⟩
  rcases hb.ingressOwner key m hm with ho | ⟨c,ho⟩
  · obtain ⟨r,hr,hlt,-⟩ := hb.mappedRef m ho
    refine .inl ⟨by rw [hr]; exact nat4StateGet_make (by decide) hlt,g.holders m,?_,hx.count m
      ho,?_,?_⟩
    · rw [Finset.nonempty_iff_ne_empty]
      intro he
      obtain ⟨l,hl,-⟩ := hx.made m ho he
      simp [hquiet] at hl
    · intro c hc
      exact ⟨hx.held c m hc,(hb.holder c m hc).2.1⟩
    · intro c hbel hu
      obtain ⟨m',hc,ho'⟩ := husable c hbel hu
      cases ho.symm.trans ho'
      exact hc
  · obtain ⟨-,-,-,hbel,-,href⟩ := hb.closedAt _ _ c m ho
    obtain ⟨hat,hlow⟩ := hx.closing _ _ c m ho
    refine .inr ⟨href,⟨c,hat,hbel,hlow⟩,?_⟩
    intro c' hbel'
    by_contra hu
    obtain ⟨m',-,ho'⟩ := husable c' hbel' (by simpa using hu)
    cases ho.symm.trans ho'

end Landscape.Nat4
