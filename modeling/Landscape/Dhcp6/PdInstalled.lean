import Landscape.Dhcp6.PdLoop

/-! What the client has installed against the lease it holds. -/
namespace Landscape.Dhcp6.PdClient
open Timed Run Lpm Function Option BitVec

variable {ip : Ipv6Addr} {len : UInt8}

theorem checkedAllocateSubnet_zero (h : len.toNat ≤ 64) :
    ∃ router, checkedAllocateSubnet ip len 64 0 =
      some (ip &&& (allOnes 128 <<< (128 - len.toNat)) &&& (allOnes 128 <<< 64), router) := by
  have hfits : Fits len 64 0 := ⟨h,by decide,Nat.two_pow_pos _⟩
  have halloc := checkedAllocateSubnet_of_fits hfits ip
  rw [subnetAt, Nat.zero_mul, Nat.add_zero, ← hfits.toNat_base, ofNat_toNat, setWidth_eq] at halloc
  exact ⟨_,halloc⟩

def wanAddr (iid : BitVec 64) (ip : Ipv6Addr) (len : UInt8) : Option Ipv6Addr :=
  if len.toNat ≤ 64 then
    some ((ip &&& (allOnes 128 <<< (128 - len.toNat)) &&& (allOnes 128 <<< 64)) |||
      iid.setWidth 128)
  else none

theorem deriveWanPdAddr_eq (iid : BitVec 64) (q : LDIAPrefix) :
    deriveWanPdAddr q iid = wanAddr iid q.prefixIp q.prefixLen := by
  have h64 : (64 : UInt8).toNat = 64 := rfl
  rw [deriveWanPdAddr, wanAddr]
  by_cases hlt : q.prefixLen < 64
  · have hle : q.prefixLen.toNat ≤ 64 := by
      rw [UInt8.lt_iff_toNat_lt] at hlt
      omega
    obtain ⟨router,halloc⟩ : ∃ router, checkedAllocateSubnet q.prefixIp q.prefixLen 64 0 =
        some (_, router) :=
      checkedAllocateSubnet_zero hle
    rw [if_pos hlt, if_pos hle, halloc, map_some, map_some, BitVec.and_assoc, BitVec.and_self]
  · by_cases heq : q.prefixLen = 64
    · have hle : q.prefixLen.toNat ≤ 64 := by
        rw [heq]
        decide
      rw [if_neg hlt, if_pos heq, if_pos hle, map_some, heq, h64, BitVec.and_assoc, BitVec.and_self]
    · have hgt : ¬q.prefixLen.toNat ≤ 64 := by
        rw [UInt8.lt_iff_toNat_lt] at hlt
        have hne : q.prefixLen.toNat ≠ 64 := fun h => heq (UInt8.toNat_inj.mp h)
        omega
      rw [if_neg hlt, if_neg heq, if_neg hgt]
      rfl

variable {addr : Ipv6Addr}

theorem wanAddr_inside {iid : BitVec 64}
    (h : wanAddr iid ip len = some addr) : (Net.around len.toNat ip).Contains addr := by
  obtain ⟨hle,heq⟩ := ite_none_right_eq_some.mp h
  obtain rfl := some.inj heq
  unfold Net.Contains Net.around
  ext i hi
  simp only [getElem_ushiftRight, getLsbD_or, getLsbD_and, getLsbD_shiftLeft,
    getLsbD_allOnes, getLsbD_setWidth]
  by_cases hin : 128 - len.toNat + i < 128
  · have hhigh : ¬128 - len.toNat + i < 64 := by omega
    have hiid : iid.getLsbD (128 - len.toNat + i) = false := getLsbD_of_ge _ _ (by omega)
    have hpos : 128 - len.toNat + i - 64 < 128 := by omega
    simp [hin, hhigh, hiid, hpos, hi]
  · rw [getLsbD_of_ge ip _ (by omega)]
    simp [hin]

def PdRuntime.lease? : PdRuntime → Option PdLease
  | .bound lease | .renewing lease | .rebinding lease => some lease
  | .idle | .soliciting | .requesting | .stopped => none

def IAPrefix.lease (p : IAPrefix) : PdLease :=
  ⟨p.prefixIp,p.prefixLen,p.validLifetime,p.preferredLifetime⟩

structure Belongs (cfg : Config) (c : Client) (p : IAPrefix) : Prop where
  map : ∃ now, c.installed.prefixMap = some (.new cfg.expectedPdLen (ldiaPrefix now p))
  runtime : c.pdRuntime.lease? = some p.lease
  routes : ∀ key, (c.installed.sourceRoutes key).isSome = true ↔ key = (p.prefixIp, p.prefixLen)
  binding : ∃ gateway, c.installed.binding = some ⟨p.prefixIp,some gateway,p.prefixLen,cfg.macAddr⟩
  address : p.prefixLen.toNat ≤ 64 →
    ∃ addr, (Net.around p.prefixLen.toNat p.prefixIp).Contains addr ∧
    ∀ a, c.installed.addrs a = true ↔ a = addr
  noAddress : 64 < p.prefixLen.toNat → ∀ a, c.installed.addrs a = false

structure Withdrawn (c : Client) : Prop where
  map : c.installed.prefixMap = none
  runtime : c.pdRuntime.lease? = none
  routes : ∀ key, c.installed.sourceRoutes key = none
  binding : c.installed.binding = none
  address : ∀ a, c.installed.addrs a = false

/-- What is installed is one prefix of the last accepted reply while there is a lease, and else
nothing. -/
def InstalledIsHeld (cfg : Config) (c : Client) : Prop :=
  (c.status.held?.isSome = true → ∃ s iapd earlier p, c.trace.accepted = (s, iapd) :: earlier ∧
    .iaPrefix p ∈ iapd.opts ∧ Belongs cfg c p) ∧
  (c.status.held? = none → Withdrawn c)

/-- An accepted reply has one prefix, and while a lease is held it is the prefix of that lease. -/
def SamePrefix (cfg : Config) (c : Clocked Client) : Moment Drawn → Prop
  | .event ⟨_,.datagram d⟩ => ∀ r ∈ acceptedReply cfg c.state.status d, r.1.getIaPrefix = some r.2 ∧
    ∀ held ∈ c.state.status.held?, ∀ q ∈ held.iapd.getIaPrefix,
      q.prefixIp = r.2.prefixIp ∧ q.prefixLen = r.2.prefixLen
  | _ => True

instance (cfg : Config) (c : Clocked Client) (m : Moment Drawn) : Decidable (SamePrefix cfg c m) :=
  match m with
  | .event ⟨_,.datagram d⟩ =>
    inferInstanceAs (Decidable (∀ r ∈ acceptedReply cfg c.state.status d, _))
  | .event ⟨_,.timer⟩ | .event ⟨_,.stop⟩ | .pass _ => inferInstanceAs (Decidable True)

def installedFor (cfg : Config) (now : Nat) (p : IAPrefix) (gateway : Ipv6Addr) : Installed where
  prefixMap := some (.new cfg.expectedPdLen (ldiaPrefix now p))
  addrs a := wanAddr cfg.sharedWanIid p.prefixIp p.prefixLen = some a
  sourceRoutes key := if key = (p.prefixIp, p.prefixLen) then some gateway else none
  linkRoute := some ⟨wanAddr cfg.sharedWanIid p.prefixIp p.prefixLen,gateway⟩
  binding := some ⟨p.prefixIp,some gateway,p.prefixLen,cfg.macAddr⟩

structure Mirrors (cfg : Config) (c : Client) : Prop where
  runtime : c.pdRuntime = pdRuntimeProjection c.status
  held : ∀ held, c.status.held? = some held → ∃ p gateway earlier,
    held.iapd.getIaPrefix = some p ∧ c.trace.accepted = (held.boundTime, held.iapd) :: earlier ∧
    c.installed = installedFor cfg held.boundTime p gateway ∧
      c.currentWanAddr = wanAddr cfg.sharedWanIid p.prefixIp p.prefixLen
  free : c.status.held? = none → c.installed = .nothing ∧ c.currentWanAddr = none

variable {cfg : Config} {c : Client} {p : IAPrefix}

theorem runtime_lease (status : IpV6PdState) :
    (pdRuntimeProjection status).lease? = status.held?.bind
    fun held => leaseProjection held.iapd := by
  cases status with
  | solicit | request => rfl
  | bound xid held | renew xid held t | waitToRebind xid held | rebind xid held t =>
    dsimp only [pdRuntimeProjection, IpV6PdState.held?, bind_some]
    cases leaseProjection held.iapd <;> rfl

theorem mem_of_getIaPrefix {iapd : IAPD} (h : iapd.getIaPrefix = some p) :
    .iaPrefix p ∈ iapd.opts := by
  obtain ⟨opt,hmem,hopt⟩ := List.exists_of_findSome?_eq_some h
  cases opt with
  | iaPrefix q =>
    cases hopt
    exact hmem
  | statusCode | other => cases hopt

theorem installedIsHeld_of_mirrors (h : Mirrors cfg c) : InstalledIsHeld cfg c := by
  have hlease := runtime_lease c.status
  rw [← h.runtime] at hlease
  refine ⟨?_,?_⟩
  · intro hsome
    obtain ⟨held,hheld⟩ := isSome_iff_exists.mp hsome
    obtain ⟨p,gateway,earlier,hp,haccepted,hinstalled,hwan⟩ := h.held held hheld
    refine ⟨held.boundTime,held.iapd,earlier,p,haccepted,mem_of_getIaPrefix hp,?_⟩
    refine ⟨⟨held.boundTime,by rw [hinstalled]; rfl⟩,?_,?_,⟨gateway,by rw [hinstalled]; rfl⟩,?_,?_⟩
    · rw [hlease, hheld, bind_some, leaseProjection, hp]
      rfl
    · intro key
      rw [hinstalled]
      dsimp only [installedFor]
      split
      · rename_i hkey
        exact iff_of_true rfl hkey
      · rename_i hkey
        exact iff_of_false nofun hkey
    · intro hlen
      obtain ⟨addr,haddr⟩ : ∃ addr, wanAddr cfg.sharedWanIid p.prefixIp p.prefixLen = some addr :=
        ⟨_,if_pos hlen⟩
      refine ⟨addr,wanAddr_inside haddr,?_⟩
      intro a
      rw [hinstalled]
      dsimp only [installedFor]
      rw [haddr, decide_eq_true_iff, some.injEq]
      exact eq_comm
    · intro hlen a
      have hnone : wanAddr cfg.sharedWanIid p.prefixIp p.prefixLen = none := if_neg (by omega)
      rw [hinstalled]
      dsimp only [installedFor]
      rw [hnone]
      rfl
  · intro hfree
    obtain ⟨hinstalled,-⟩ := h.free hfree
    refine ⟨by rw [hinstalled]; rfl,?_,?_,by rw [hinstalled]; rfl,?_⟩
    · rw [hlease, hfree]
      rfl
    · intro key
      rw [hinstalled]
      rfl
    · intro a
      rw [hinstalled]
      rfl

theorem clear_installedFor (now : Nat) {t : Nat} {gateway : Ipv6Addr}
    (hinst : c.installed = installedFor cfg t p gateway)
    (hwan : c.currentWanAddr = wanAddr cfg.sharedWanIid p.prefixIp p.prefixLen) :
    (clearActivePdPrefix now c).installed = .nothing := by
  dsimp only [clearActivePdPrefix]
  rw [hinst, hwan]
  refine Installed.ext rfl ?_ ?_ rfl rfl
  · funext a
    dsimp only [installedFor, Installed.nothing]
    cases wanAddr cfg.sharedWanIid p.prefixIp p.prefixLen with
    | none => rfl
    | some addr =>
      rw [elim_some]
      by_cases ha : a = addr
      · rw [ha, update_self]
      · rw [update_of_ne ha, decide_eq_false]
        intro heq
        exact ha (some.inj heq).symm
  · funext key
    change
      update (installedFor cfg t p gateway).sourceRoutes (p.prefixIp, p.prefixLen) none key = none
    by_cases hkey : key = (p.prefixIp, p.prefixLen)
    · rw [hkey, update_self]
    · rw [update_of_ne hkey]
      exact if_neg hkey

theorem replaceWanAddr_eq {addrs : Ipv6Addr → Bool} {current : Option Ipv6Addr}
    (haddrs : ∀ a, addrs a = true → a = addr) (hcurrent : ∀ old, current = some old → old = addr) :
    replaceWanAddr addrs current addr = fun a => decide (some addr = some a) := by
  have hkept : (current.elim addrs fun old => if old ≠ addr then update addrs old false
      else addrs) = addrs := by
    cases current with
    | none => rfl
    | some old => exact if_neg (not_not.mpr (hcurrent old rfl))
  funext a
  rw [replaceWanAddr, hkept]
  by_cases ha : a = addr
  · rw [ha, update_self, decide_eq_true rfl]
  · rw [update_of_ne ha, decide_eq_false fun heq => ha (some.inj heq).symm]
    exact Bool.eq_false_iff.mpr fun htrue => ha (haddrs a htrue)

theorem install_installedFor (now : Nat) (gateway : Ipv6Addr)
    (haddrs : ∀ a, c.installed.addrs a = true →
      wanAddr cfg.sharedWanIid p.prefixIp p.prefixLen = some a)
    (hroutes : ∀ key, key ≠ (p.prefixIp, p.prefixLen) → c.installed.sourceRoutes key = none)
    (hwan : ∀ old, c.currentWanAddr = some old →
      wanAddr cfg.sharedWanIid p.prefixIp p.prefixLen = some old) :
    (installPrefix cfg now gateway (ldiaPrefix now p) c).installed =
        installedFor cfg now p gateway ∧
      (installPrefix cfg now gateway (ldiaPrefix now p) c).currentWanAddr =
        wanAddr cfg.sharedWanIid p.prefixIp p.prefixLen := by
  have hderive : deriveWanPdAddr (ldiaPrefix now p) cfg.sharedWanIid =
      wanAddr cfg.sharedWanIid p.prefixIp p.prefixLen := deriveWanPdAddr_eq _ _
  dsimp only [installPrefix]
  rw [hderive]
  refine ⟨Installed.ext rfl ?_ ?_ rfl rfl,?_⟩
  · dsimp only [installedFor]
    cases hw : wanAddr cfg.sharedWanIid p.prefixIp p.prefixLen with
    | none =>
      simp only [hw] at haddrs
      funext a
      exact Bool.eq_false_iff.mpr fun htrue => nomatch haddrs a htrue
    | some addr =>
      simp only [hw, some.injEq] at haddrs hwan
      exact replaceWanAddr_eq (fun a ha => (haddrs a ha).symm) fun old hold => (hwan old hold).symm
  · funext key
    dsimp only [installedFor, ldiaPrefix]
    by_cases hkey : key = (p.prefixIp, p.prefixLen)
    · rw [hkey, update_self, if_pos rfl]
    · rw [update_of_ne hkey, if_neg hkey]
      exact hroutes key hkey
  · cases hw : wanAddr cfg.sharedWanIid p.prefixIp p.prefixLen with
    | some addr => rfl
    | none =>
      cases hcurrent : c.currentWanAddr with
      | none => rfl
      | some old => cases hw.symm.trans (hwan old hcurrent)

variable {s : Client} {now wait : Nat} {newXid : UInt32}

/-- The state moves on and what is installed stays. -/
theorem Mirrors.move (h : Mirrors cfg c) (hheld : s.status.held? = c.status.held?)
    (hruntime : s.pdRuntime = pdRuntimeProjection s.status)
    (haccepted : s.trace.accepted = c.trace.accepted) (hinstalled : s.installed = c.installed)
    (hwan : s.currentWanAddr = c.currentWanAddr) : Mirrors cfg s := by
  refine ⟨hruntime,?_,?_⟩
  · rw [hheld, haccepted, hinstalled, hwan]
    exact h.held
  · rw [hheld, hinstalled, hwan]
    exact h.free

theorem Mirrors.fired (h : Mirrors cfg c) (hf : Fired cfg now newXid c wait s) : Mirrors cfg s := by
  cases hf with
  | backOff xid failures hstatus =>
    refine h.move ?_ ?_ rfl rfl rfl
    · rw [hstatus]
      rfl
    · have hruntime := h.runtime
      rw [hstatus] at hruntime
      exact hruntime
  | expired held hheld =>
    obtain ⟨p,gateway,earlier,-,-,hinst,hwan⟩ := h.held held hheld
    refine ⟨rfl,nofun,fun _ => ⟨?_,rfl⟩⟩
    exact clear_installedFor (c := { c with status := _ }) now hinst hwan
  | solicit => exact h.move rfl rfl rfl rfl rfl
  | request _ _ _ _ _ hstatus | requestOver _ _ _ _ _ hstatus | bound _ _ hstatus
  | renew _ _ _ hstatus | renewOver _ _ _ hstatus | waitToRebind _ _ hstatus
  | rebind _ _ _ hstatus =>
    refine h.move ?_ rfl rfl rfl rfl
    rw [hstatus]
    rfl

/-- Nothing is installed that is not of the prefix that comes. -/
theorem Mirrors.fits (h : Mirrors cfg c) (hsame : ∀ old q, c.status.held? = some old →
    old.iapd.getIaPrefix = some q → q.prefixIp = p.prefixIp ∧ q.prefixLen = p.prefixLen) :
    (∀ a, c.installed.addrs a = true → wanAddr cfg.sharedWanIid p.prefixIp p.prefixLen = some a) ∧
      (∀ key, key ≠ (p.prefixIp, p.prefixLen) → c.installed.sourceRoutes key = none) ∧
      ∀ old, c.currentWanAddr = some old →
        wanAddr cfg.sharedWanIid p.prefixIp p.prefixLen = some old := by
  cases hold : c.status.held? with
  | none =>
    obtain ⟨hinst,hwan⟩ := h.free hold
    rw [hinst, hwan]
    exact ⟨nofun,fun _ _ => rfl,nofun⟩
  | some old =>
    obtain ⟨q,gateway,earlier,hq,-,hinst,hwan⟩ := h.held old hold
    obtain ⟨hip,hlen⟩ := hsame old q hold hq
    rw [hinst, hwan, ← hip, ← hlen]
    exact ⟨fun a ha => of_decide_eq_true ha,fun key hkey => if_neg hkey,fun _ hw => hw⟩

theorem Mirrors.received (h : Mirrors cfg c) {d : Datagram} {wait : Option Nat}
    (hr : Received cfg now newXid d c (s, wait))
    (hsame : ∀ r ∈ acceptedReply cfg c.status d, r.1.getIaPrefix = some r.2 ∧
      ∀ held ∈ c.status.held?, ∀ q ∈ held.iapd.getIaPrefix,
        q.prefixIp = r.2.prefixIp ∧ q.prefixLen = r.2.prefixLen) : Mirrors cfg s := by
  cases hr with
  | garbled | refused => exact h.move rfl rfl rfl rfl rfl
  | advertise _ _ _ _ _ hstatus =>
    refine h.move ?_ rfl rfl rfl rfl
    rw [hstatus]
    rfl
  | reply _ source held p hacc _ htime =>
    obtain ⟨hp,hpre⟩ := hsame (held.iapd, p) hacc
    obtain ⟨haddrs,hroutes,hwan⟩ := h.fits fun old q hold hq => hpre old hold q hq
    obtain ⟨hinst,hcurrent⟩ := install_installedFor now source
      (c := { logged now d c with
        status := .bound newXid held
        trace := { (logged now d c).trace with accepted := (now, held.iapd) :: c.trace.accepted } })
      haddrs hroutes hwan
    refine ⟨rfl,?_,nofun⟩
    intro held' hheld'
    cases hheld'
    refine ⟨p,source,c.trace.accepted,hp,?_,?_,hcurrent⟩
    · rw [htime]
      rfl
    · rw [htime]
      exact hinst

theorem Mirrors.turn {c c' : Clocked Client} {m : Moment Drawn} (ht : Turn cfg c m c')
    (hc : SamePrefix cfg c m) (h : c.state.running = true → Mirrors cfg c.state) :
    c'.state.running = true → Mirrors cfg c'.state := by
  intro hrun
  cases ht with
  | pass | ended => exact h hrun
  | timer _ _ _ hlive _ hf => exact (h hlive).fired hf
  | datagram _ _ _ _ hlive hr => exact (h hlive).received hr hc
  | stop => cases hrun

theorem mirrors_start (random : UInt32) : Mirrors cfg (start now random).state :=
  ⟨rfl,nofun,fun _ => ⟨rfl,rfl⟩⟩

/-- While every accepted reply has one prefix and keeps the one that is held, what is installed is
that prefix and nothing else. -/
theorem installedIsHeld_of_samePrefix {now : Nat} {random : UInt32} {c : Clocked Client}
    (hrun : Runs (loop cfg).step (SamePrefix cfg) (start now random) c)
    (hlive : c.state.running = true) :
    InstalledIsHeld cfg c.state := by
  have hmirrors := hrun.invariant (fun c => c.state.running = true → Mirrors cfg c.state)
    (fun _ _ _ h hp hs => Mirrors.turn (turn_of_step hs) hp h) fun _ => mirrors_start random
  exact installedIsHeld_of_mirrors (hmirrors hlive)

def sampleConfig : Config := ⟨[0, 3, 0, 1, 2, 0, 0, 0, 0, 1],none,56,1⟩

def sampleServer : Ipv6Addr := 0xfe800000000000000000000000000001

def samplePrefix : IAPrefix := ⟨200,300,56,0x20010db8000100000000000000000000⟩

def sampleIapd (prefixes : List IAPrefix) : IAPD := ⟨1,100,160,prefixes.map .iaPrefix⟩

def sampleDatagram (msgType : MessageType) (prefixes : List IAPrefix) : Moment Drawn :=
  .event ⟨0,.datagram ⟨some sampleServer,some
    ⟨msgType,0,none,some [1],none,some (sampleIapd prefixes)⟩⟩⟩

def timerFires : Moment Drawn := .event ⟨0,.timer⟩

def sampleLease (prefixes : List IAPrefix) : List (Moment Drawn) :=
  [timerFires, sampleDatagram .advertise prefixes, timerFires, sampleDatagram .reply prefixes]

theorem installedIsHeld_sample : ∃ c, Runs (loop sampleConfig).step (SamePrefix sampleConfig)
    (start 0 0) c ∧
    c.state.running = true ∧ c.state.status.held?.isSome = true ∧
    InstalledIsHeld sampleConfig c.state := by
  obtain ⟨c,hrun,hlive,hheld⟩ :=
    runs_of_decide (loop sampleConfig).step (start 0 0) (sampleLease [samplePrefix])
    (fun c => c.state.running = true ∧ c.state.status.held?.isSome = true) (SamePrefix sampleConfig)
      (by decide +kernel)
  exact ⟨c,hrun,hlive,hheld,installedIsHeld_of_samePrefix hrun hlive⟩

def AlwaysInstalledIsHeld : Prop :=
  ∀ cfg now random c, Runs (loop cfg).step (fun _ _ => True) (start now random) c →
    c.state.running = true →
    InstalledIsHeld cfg c.state

def otherPrefix : IAPrefix := ⟨200,300,56,0x20010db8000200000000000000000000⟩

def renumbering : List (Moment Drawn) :=
  sampleLease [samplePrefix] ++ [.pass 100000, timerFires, timerFires,
    sampleDatagram .reply [otherPrefix]]

theorem installedIsHeld_fails : ¬AlwaysInstalledIsHeld := by
  intro h
  obtain ⟨c,hrun,hlive,hheld,hlast,hstale⟩ :=
    runs_of_steps (loop sampleConfig).step (start 0 0) renumbering
    (fun c => c.state.running = true ∧ c.state.status.held?.isSome = true ∧
      c.state.trace.accepted.head? = some (100000, sampleIapd [otherPrefix]) ∧
      (c.state.installed.sourceRoutes (samplePrefix.prefixIp, samplePrefix.prefixLen)).isSome =
        true) (by decide +kernel)
  obtain ⟨s,iapd,earlier,p,haccepted,hmem,hbelongs⟩ := (h sampleConfig 0 0 c hrun hlive).1 hheld
  rw [haccepted] at hlast
  cases hlast
  have hp : p = otherPrefix := by simpa [sampleIapd] using hmem
  have hkey := (hbelongs.routes _).mp hstale
  rw [hp] at hkey
  exact absurd hkey (by decide)

end Landscape.Dhcp6.PdClient
