import Landscape.Lib.Alone
import Landscape.Neigh.Writers

/-! Where the bindings come from, what learning leaves alone, and what a sync leaves behind. -/
namespace Landscape.Neigh
open Interleave Route Table Function List AList
variable {s s' : State} {l : Task} {a : IpAddr} {v : MacValue} {p : Packet} {tb : Tables}

/-- The attestations `known` bear a binding out; one marked as learned from duplicate address
detection needs a claim of the address. -/
def Backs (known : List Attestation) (a : IpAddr) (v : MacValue) : Prop :=
  ∃ x ∈ known, x.ip = a ∧ x.mac = v.mac ∧ (v.sourced = .dad → x.kind = .dad)

theorem Backs.mono {known known' : List Attestation} (h : Backs known a v)
    (hsub : ∀ x ∈ known, x ∈ known') : Backs known' a v := by
  obtain ⟨x,hx,hv⟩ := h
  exact ⟨x,hsub x hx,hv⟩

def State.Truthful (s : State) : Prop := ∀ a v, s.ipMac.lookup a = some v → Backs s.evidence a v

def Writer.learns : Writer → Bool
  | .learnSrcIpMac | .tcLanDao => true
  | _ => false

/-- The next hop the forwarding table has selected is the address the MAC is stored under: the next
hop of the LAN route for what goes to one, the destination of everything else and of all IPv6
packets from the WAN. -/
def Event.FibDirect : Event → FibResult → Prop
  | .xdpLan p _ tb, r => ∀ info, tb.lan p.daddr = some info → r.ifindex ≠ p.ingressIfindex →
      r.nextHop = LanValue.hop info p.daddr
  | .wan p _ tb, r => ∀ info, tb.lan p.daddr = some info → r.ifindex ≠ p.ingressIfindex →
      r.nextHop = if p.daddr.family = .ipv4 then LanValue.hop info p.daddr else p.daddr
  | _, _ => True

/-- Whenever a packet is resolved by the forwarding table, the answer is direct. -/
def direct : Schedule Op State Task Event where
  starts _ _ := True
  acts _ logs t
    | .fibLookup r => ∀ l x, logs t = some l → r = some x → l.event.FibDirect x
    | _ => True

def contract : Contract Op Res Task where
  Allowed l
    | .update w a v flag => Backs l.known a v ∧ (w.learns = true → flag = .noExist)
    | _ => True
  Answers l
    | .fibLookup q, r => r = q ∧ ∀ x, q = some x → l.event.FibDirect x
    | _, _ => True

abbrev Keeps {α : Type} (Q : α → Task → Prop) (p : M α) (l : Task) : Prop :=
  Meets machine contract Q p l

theorem learnSrcIpMac_keeps (h : ⟨.frame,p.saddr,p.hSource⟩ ∈ l.known) :
    Keeps (fun _ x => x = l) (learnSrcIpMac p) l := by
  refine .step trivial fun r _ => ?_
  cases r with
  | some _ => exact .pure rfl
  | none => exact .step ⟨⟨_,h,rfl,rfl,by simp⟩,fun _ => rfl⟩ fun _ _ => .pure rfl

variable {α : Type} {cacheHit : Bool} {keys : List IpAddr} {entries : List (IpAddr × MacValue)}
  {Q : α → Task → Prop} {n : Nat} {wanAddr : Option IpAddr} {desired : List IpAddr} {f : IpFamily}
  {x : Attestation} {c : Conf}

theorem lookupMac_keeps {k : Option MacValue → M α} (hk : ∀ r, Keeps Q (k r) l) :
    Keeps Q (lookupMac a >>= k) l :=
  .step trivial fun r _ => hk r

theorem bpfFibLookup_keeps {q : Option FibResult} {k : Option FibResult → M α}
    (hnone : Keeps Q (k none) (l.answered none))
    (hsome : ∀ x, l.event.FibDirect x → Keeps Q (k (some x)) (l.answered (some x))) :
    Keeps Q (bpfFibLookup q >>= k) l := by
  refine .step trivial fun r hr => ?_
  obtain ⟨hr,hdirect⟩ := (hr : r = q ∧ ∀ x, q = some x → l.event.FibDirect x)
  rw [← hr] at hdirect
  cases r with
  | none => exact hnone
  | some x => exact hsome x (hdirect x rfl)

/- The answer is stored unless it leads back to where the packet came from. -/
theorem storeAnswer_keeps {w : Writer} {key : IpAddr} {x : FibResult} {ifindex i : UInt32}
    {devMac : MacAddr} {back stored : α} (hw : w.learns = false)
    (h : x.ifindex ≠ i → x.nextHop = key) :
    Keeps (fun _ _ => True) (if x.ifindex = i then pure back else do
      let _ ← updateMac w key ⟨ifindex,x.dmac,devMac,.neigh⟩ .any
      pure stored) (l.answered (some x)) := by
  split
  · exact .pure trivial
  · rename_i hin
    refine .step ⟨⟨x.attests,?_,h hin,rfl,nofun⟩,?_⟩ fun _ _ => .pure trivial
    · simp [Task.answered]
    · simp [hw]

theorem lanRedirectCheckInWan_keeps {macKey : LanValue → IpAddr} (he : l.event = .wan p wanAddr tb)
    (hkey : ∀ info, macKey info = if p.daddr.family = .ipv4 then LanValue.hop info p.daddr
      else p.daddr) :
    Keeps (fun _ _ => True) (lanRedirectCheckInWan n macKey p tb) l := by
  unfold lanRedirectCheckInWan
  split
  · exact .pure trivial
  rename_i info hinfo
  repeat' split
  all_goals try exact .pure trivial
  refine lookupMac_keeps fun r => ?_
  cases r with
  | some _ => exact .pure trivial
  | none =>
    refine bpfFibLookup_keeps (.pure trivial) fun x hx => storeAnswer_keeps rfl fun hin => ?_
    rw [he] at hx
    rw [hkey, hx info hinfo hin]

theorem lanRedirectCheckInLan_keeps (he : l.event = .xdpLan p cacheHit tb) :
    Keeps (fun _ _ => True) (lanRedirectCheckInLan n p tb) l := by
  unfold lanRedirectCheckInLan
  split
  · exact .pure trivial
  rename_i info hinfo
  repeat' split
  all_goals try exact .pure trivial
  refine lookupMac_keeps fun r => ?_
  cases r with
  | some _ => exact .pure trivial
  | none =>
    refine bpfFibLookup_keeps (.pure trivial) fun x hx => storeAnswer_keeps rfl fun hin => ?_
    rw [he] at hx
    exact hx info hinfo hin

theorem discard_keeps {q : M α} (h : Keeps (fun _ _ => True) q l) :
    Keeps (fun _ _ => True) (discard q) l :=
  h.call fun _ _ _ => .pure trivial

theorem xdpWanRouteIngress_keeps (he : l.event = .wan p wanAddr tb) :
    Keeps (fun _ _ => True) (xdpWanRouteIngress p wanAddr tb) l := by
  unfold xdpWanRouteIngress
  repeat' split
  all_goals try exact .pure trivial
  · rename_i hd
    exact lanRedirectCheckInWan_keeps he fun info => by rw [if_pos (by rw [hd]; rfl)]
  · rename_i hd
    exact lanRedirectCheckInWan_keeps he fun info => by
      rw [if_neg (by rw [hd]; simp [IpAddr.family])]

theorem xdpLanRoute_keeps (he : l.event = .xdpLan p cacheHit tb)
    (hl : ⟨.frame,p.saddr,p.hSource⟩ ∈ l.known) :
    Keeps (fun _ _ => True) (xdpLanRoute p cacheHit tb) l := by
  unfold xdpLanRoute
  repeat' split
  all_goals try exact .pure trivial
  all_goals
    refine (learnSrcIpMac_keeps hl).call fun _ x hx => ?_
    subst hx
    exact lanRedirectCheckInLan_keeps he

theorem tcRouteLanIngress_keeps {l3 : Nat} (hl : ⟨.frame,p.saddr,p.hSource⟩ ∈ l.known) :
    Keeps (fun _ _ => True) (tcRouteLanIngress p l3 cacheHit) l := by
  unfold tcRouteLanIngress learnSrcIpMacTc
  repeat' split
  all_goals try exact .pure trivial
  exact (learnSrcIpMac_keeps hl).mono fun _ _ _ => trivial

theorem tcLanDao_keeps {q : SolicitFrame} {lan : IpAddr → Option LanValue}
    (hl : ∀ target, q.claimed = some target → ⟨.dad,.v6 target,q.hSource⟩ ∈ l.known) :
    Keeps (fun _ _ => True) (tcLanDao q lan) l := by
  unfold tcLanDao
  split
  · exact .pure trivial
  rename_i target htarget
  split
  · refine .step ⟨⟨_,hl target htarget,rfl,rfl,fun _ => rfl⟩,fun _ => rfl⟩ fun r _ => ?_
    cases r with
    | true => exact .pure trivial
    | false =>
      refine lookupMac_keeps fun r => ?_
      cases r <;> exact .pure trivial
  · exact .pure trivial

theorem kprobeNeighUpdate_keeps {n : NeighUpdate}
    (hl : n.newState &&& nudValid ≠ 0 → ⟨.neighbour,n.key,n.mac⟩ ∈ l.known) :
    Keeps (fun _ _ => True) (kprobeNeighUpdate n) l := by
  unfold kprobeNeighUpdate
  repeat' split
  all_goals try exact .pure trivial
  · rename_i hvalid _
    exact .step ⟨⟨_,hl hvalid,rfl,rfl,by simp⟩,nofun⟩ fun _ _ => .pure trivial
  · exact ⟨trivial,fun _ _ => trivial⟩

theorem collectStale_keeps : Keeps (fun _ x => x = l) (collectStale desired keys) l := by
  induction keys with
  | nil => exact .pure rfl
  | cons key keys ih =>
    unfold collectStale
    split
    · exact ih
    · have hdad : Keeps (fun _ x => x = l) (isDadSourced key) l := by
        unfold isDadSourced
        split
        · exact .pure rfl
        · refine lookupMac_keeps fun r => ?_
          cases r <;> exact .pure rfl
      refine hdad.call fun _ x hx => ?_
      subst hx
      exact ih.call fun _ x hx => .pure hx

theorem deleteStale_keeps : Keeps (fun _ x => x = l) (deleteStale keys) l := by
  induction keys with
  | nil => exact .pure rfl
  | cons key keys ih => exact .step trivial fun _ _ => ih

theorem updateBatch_keeps (h : ∀ e ∈ entries, Backs l.known e.1 e.2) :
    Keeps (fun _ _ => True) (updateBatch entries) l := by
  induction entries with
  | nil => exact .pure trivial
  | cons e entries ih =>
    refine .step ⟨h e mem_cons_self,nofun⟩ fun _ _ => ?_
    exact ih fun e' he' => h e' (mem_cons_of_mem _ he')

theorem reconcileEntriesInMap_keeps (h : ∀ e ∈ entries, Backs l.known e.1 e.2) :
    Keeps (fun _ _ => True) (reconcileEntriesInMap f entries) l := by
  refine .step trivial fun keys _ => ?_
  refine collectStale_keeps.call fun stale x hx => ?_
  subst hx
  refine deleteStale_keeps.call fun _ x hx => ?_
  subst hx
  exact updateBatch_keeps h

theorem neighMsgToEntry_some {msg : NeighbourMessage} {e : IpAddr × MacValue}
    (h : neighMsgToEntry f msg = some e) : e.2.sourced = .neigh := by
  unfold neighMsgToEntry at h
  split at h
  · cases h
  split at h
  · cases h
  split at h
  · cases h
  split at h
  · cases h
    rfl
  · cases h

theorem run_keeps (e : Event) : Keeps (fun _ _ => True) e.run ⟨e,e.attests⟩ := by
  cases e with
  | xdpLan p cacheHit tb => exact discard_keeps (xdpLanRoute_keeps rfl (by simp [Event.attests]))
  | tcLan p l3 cacheHit => exact tcRouteLanIngress_keeps (by simp [Event.attests])
  | solicit q lan =>
    exact discard_keeps (tcLanDao_keeps fun target htarget => by simp [Event.attests, htarget])
  | wan p wanAddr tb => exact discard_keeps (xdpWanRouteIngress_keeps rfl)
  | neighUpdate n =>
    refine kprobeNeighUpdate_keeps fun hvalid => ?_
    dsimp only [Event.attests]
    rw [if_pos hvalid]
    exact mem_singleton_self _
  | learn c =>
    exact .step ⟨⟨⟨.learn,c.ip,c.mac⟩,by simp [Event.attests],rfl,rfl,by simp⟩,
      nofun⟩ fun _ _ => .pure trivial
  | sync f msgs =>
    refine reconcileEntriesInMap_keeps fun e he => ?_
    obtain ⟨msg,-,hmsg⟩ := mem_filterMap.mp he
    refine ⟨⟨.neighbour,e.1,e.2.mac⟩,mem_map.mpr ⟨e,he,rfl⟩,rfl,rfl,fun hdad => ?_⟩
    rw [neighMsgToEntry_some hmsg] at hdad
    cases hdad

theorem evidence_exec (o : Op) (hx : x ∈ s.evidence) : x ∈ (exec o s).2.evidence := by
  cases o with
  | fibLookup r => exact mem_append_right _ hx
  | update w a v flag =>
    cases flag with
    | any => exact hx
    | noExist =>
      simp only [exec]
      split <;> exact hx
  | _ => exact hx

theorem lookup_exec {o : Op} (h : (exec o s).2.ipMac.lookup a = some v) :
    s.ipMac.lookup a = some v ∨ ∃ w flag, o = .update w a v flag := by
  cases o with
  | update w b u flag =>
    cases flag with
    | any =>
      rcases of_lookup_insert h with ⟨rfl,rfl⟩ | ⟨-,h⟩
      · exact .inr ⟨w,.any,rfl⟩
      · exact .inl h
    | noExist =>
      simp only [exec] at h
      split at h
      · exact .inl h
      · rcases of_lookup_insert h with ⟨rfl,rfl⟩ | ⟨-,h⟩
        · exact .inr ⟨w,.noExist,rfl⟩
        · exact .inl h
  | delete b => exact .inl (of_lookup_erase h).2
  | lookup b | keys f | fibLookup r => exact .inl h

def Inv (s : State) (logs : Nat → Option Task) : Prop :=
  s.Truthful ∧ ∀ t l, logs t = some l → ∀ x ∈ l.known, x ∈ s.evidence

theorem mem_record (o : Op) (hl : ∀ x ∈ l.known, x ∈ s.evidence)
    (hx : x ∈ (record l o (exec o s).1).known) : x ∈ (exec o s).2.evidence := by
  cases o with
  | fibLookup r =>
    rcases mem_append.mp hx with hx | hx
    · exact mem_append_left _ hx
    · exact mem_append_right _ (hl x hx)
  | _ => exact evidence_exec _ (hl x hx)

theorem outline : Outline machine contract direct (fun _ => True) Inv where
  start := by
    intro s logs t e s' th hi _ _ hl
    cases hl
    have hgrow : ∀ x ∈ s.evidence, x ∈ e.attests ++ s.evidence := fun x hx => mem_append_right _ hx
    refine ⟨⟨fun a v h => (hi.1 a v h).mono hgrow,fun u l hu x hx => ?_⟩,run_keeps e⟩
    rcases update_eq_some hu with ⟨rfl,⟨⟩⟩ | ⟨-,hu⟩
    · exact mem_append_left _ hx
    · exact hgrow x (hi.2 u l hu x hx)
  act := by
    intro s logs t l o hi ht hr ha
    have hknown := hi.2 t l ht
    refine ⟨?_,fun a v h => ?_,fun u x hu y hy => ?_⟩
    · cases o with
      | fibLookup q => exact ⟨rfl,fun x hx => hr l x ht hx⟩
      | _ => trivial
    · rcases lookup_exec h with h | ⟨w,flag,rfl⟩
      · exact (hi.1 a v h).mono fun x hx => evidence_exec o hx
      · exact ha.1.mono fun x hx => evidence_exec _ (hknown x hx)
    · rcases update_eq_some hu with ⟨rfl,⟨⟩⟩ | ⟨-,hu⟩
      · exact mem_record o hknown hy
      · exact evidence_exec o (hi.2 u x hu y hy)
  finish := by
    intro s logs t l hi _ _
    exact ⟨hi.1,fun u x hu => hi.2 u x (of_update_none hu).2⟩

def dadSourced (s : State) : IpAddr → Bool
  | .v4 _ => false
  | .v6 b => (s.ipMac.lookup (.v6 b)).any fun v => v.sourced = .dad

theorem isDadSourced_run : (isDadSourced a).run exec s = (dadSourced s a, s) := by
  cases a with
  | v4 b => rfl
  | v6 b =>
    have hread : (lookupMac (.v6 b)).run exec s = (s.ipMac.lookup (.v6 b), s) := rfl
    simp only [isDadSourced, dadSourced]
    rw [run_bind, hread]
    cases s.ipMac.lookup (.v6 b) <;> rfl

theorem collectStale_run : (collectStale desired keys).run exec s =
      (keys.filter fun key => key ∉ desired ∧ dadSourced s key = false, s) := by
  induction keys with
  | nil => rfl
  | cons key keys ih =>
    unfold collectStale
    split
    · rename_i hkey
      rw [ih]
      simp [hkey]
    · rename_i hkey
      rw [run_bind, isDadSourced_run, run_bind, ih]
      cases hd : dadSourced s key <;> simp [Prog.run, hkey, hd]

theorem deleteStale_run :
    ((deleteStale keys).run exec s).2.ipMac.lookup a = if a ∈ keys then
    none else s.ipMac.lookup a := by
  induction keys generalizing s with
  | nil => simp [deleteStale, Prog.run]
  | cons key keys ih =>
    show ((deleteStale keys).run exec (exec (.delete key) s).2).2.ipMac.lookup a = _
    rw [ih]
    by_cases hkey : a = key
    · subst hkey
      simp [exec]
    · simp [exec, hkey]

theorem updateBatch_run :
    (∃ v, (a, v) ∈ entries ∧ ((updateBatch entries).run exec s).2.ipMac.lookup a = some v) ∨
      (a ∉ entries.map (·.1) ∧
        ((updateBatch entries).run exec s).2.ipMac.lookup a = s.ipMac.lookup a) := by
  induction entries generalizing s with
  | nil => exact .inr ⟨by simp,rfl⟩
  | cons e entries ih =>
    obtain ⟨key,u⟩ := e
    rcases ih (s := (exec (.update .reconcile key u .any) s).2) with ⟨v,hv,hrun⟩ | ⟨hnot,hrun⟩
    · exact .inl ⟨v,mem_cons_of_mem _ hv,hrun⟩
    · by_cases hkey : a = key
      · subst hkey
        refine .inl ⟨u,mem_cons_self,hrun.trans ?_⟩
        exact lookup_insert _
      · refine .inr ⟨by simpa [hkey] using hnot,hrun.trans ?_⟩
        exact lookup_insert_ne hkey

/-- The addresses of the snapshot have its MACs, and what else is left of the family is marked as
learned from duplicate address detection. -/
def Synced (f : IpFamily) (entries : List (IpAddr × MacValue))
    (ipMac : AList fun _ : IpAddr => MacValue) :
    Prop :=
  (∀ a ∈ entries.map (·.1), ∃ v, (a, v) ∈ entries ∧ ipMac.lookup a = some v) ∧
    ∀ a v, a.family = f → a ∉ entries.map (·.1) → ipMac.lookup a = some v →
      f = .ipv6 ∧ v.sourced = .dad

theorem reconcileEntriesInMap_run :
    Synced f entries ((reconcileEntriesInMap f entries).run exec s).2.ipMac := by
  have hrun : (reconcileEntriesInMap f entries).run exec s =
      (updateBatch entries).run exec
        ((deleteStale ((s.ipMac.keys.filter fun a => a.family = f).filter
        fun key => key ∉ entries.map (·.1) ∧ dadSourced s key = false)).run exec s).2 := by
    show ((collectStale _ (s.ipMac.keys.filter fun a => a.family = f)) >>= _).run exec s = _
    rw [run_bind, collectStale_run, run_bind]
  rw [hrun]
  refine ⟨fun a ha => ?_,fun a v hf ha hv => ?_⟩
  · rcases updateBatch_run (a := a) with h | ⟨hnot,-⟩
    · exact h
    · exact absurd ha hnot
  · rcases updateBatch_run (a := a) with ⟨u,hu,-⟩ | ⟨-,h⟩
    · exact absurd (mem_map.mpr ⟨_,hu,rfl⟩) ha
    · rw [h, deleteStale_run] at hv
      split at hv
      · cases hv
      rename_i hstale
      have hkey : a ∈ s.ipMac.keys := by
        rw [← AList.mem_keys, ← AList.lookup_isSome, hv]
        rfl
      have hdad : dadSourced s a = true := by simpa [hkey, hf, ha] using hstale
      cases a with
      | v4 b => cases hdad
      | v6 b =>
        simp only [dadSourced, hv, Option.any_some, decide_eq_true_eq] at hdad
        exact ⟨hf.symm,hdad⟩

theorem sees_update (w : Writer) (b : IpAddr) (u : MacValue) :
    Sees exec State.ipMac (.update w b u .any) := by
  intro s s' h
  refine ⟨rfl,?_⟩
  show s.ipMac.insert b u = s'.ipMac.insert b u
  rw [h]

theorem sees_delete (b : IpAddr) : Sees exec State.ipMac (.delete b) :=
  fun _ _ h => ⟨rfl,congrArg (erase b) h⟩

theorem sees_lookup (b : IpAddr) : Sees exec State.ipMac (.lookup b) :=
  fun _ _ h => ⟨congrArg (AList.lookup b) h,h⟩

theorem sees_keys : Sees exec State.ipMac (.keys f) := by
  intro s s' h
  refine ⟨?_,h⟩
  show s.ipMac.keys.filter _ = s'.ipMac.keys.filter _
  rw [h]

theorem collectStale_within : (collectStale desired keys).Within exec State.ipMac := by
  induction keys with
  | nil => trivial
  | cons key keys ih =>
    have hdad : (isDadSourced key).Within exec State.ipMac := by
      cases key with
      | v4 b => trivial
      | v6 b =>
        refine ⟨sees_lookup _,fun r => ?_⟩
        cases r <;> trivial
    unfold collectStale
    split
    · exact ih
    · exact hdad.bind fun _ => ih.bind fun _ => trivial

theorem reconcileEntriesInMap_within :
    (reconcileEntriesInMap f entries).Within exec State.ipMac := by
  have hdelete : ∀ keys, (deleteStale keys).Within exec State.ipMac := by
    intro keys
    induction keys with
    | nil => trivial
    | cons key keys ih => exact ⟨sees_delete key,fun _ => ih⟩
  have hupdate : (updateBatch entries).Within exec State.ipMac := by
    induction entries with
    | nil => trivial
    | cons e entries ih => exact ⟨sees_update _ _ _,fun _ => ih⟩
  refine ⟨sees_keys,fun keys => ?_⟩
  exact collectStale_within.bind fun stale => (hdelete stale).bind fun _ => hupdate

/-! The bindings are truthful as long as the forwarding table is asked about neighbours. -/

abbrev Conf := Config Op Res State Task

def idle : Conf := ⟨.empty,fun _ => none⟩

theorem inv_empty : Inv .empty fun _ => none := by
  refine ⟨fun a v h => ?_,by simp⟩
  cases h

/-- An update by which something is learned leaves every binding that exists as it is. -/
def LearningKeeps (c : Conf) : Prop :=
  ∀ t w b u flag k l c', c.threads t = some ⟨.op (.update w b u flag) k,l⟩ → w.learns = true →
    machine.step c (.act t) = some c' → ∀ a v, c.shared.ipMac.lookup a = some v →
      c'.shared.ipMac.lookup a = some v

/-- A sync that starts here and is not disturbed leaves the snapshot's MACs at the snapshot's
addresses; what else is left of the family is IPv6 and was claimed by its host. -/
def SyncSettles (R : Schedule Op State Task Event) (c : Conf) : Prop :=
  ∀ t f msgs c₁ c₂ l, R.Allows c (.start t (.sync f msgs)) →
    machine.step c (.start t (.sync f msgs)) = some c₁ →
    Undisturbed machine R State.ipMac t c₁ c₂ → c₂.threads t = some ⟨.ret (),l⟩ →
    (∀ a ∈ (msgs.filterMap (neighMsgToEntry f)).map (·.1), ∃ v ∈ c₂.shared.ipMac.lookup a,
      ∃ e ∈ msgs.filterMap (neighMsgToEntry f), e.1 = a ∧ v.mac = e.2.mac) ∧
    ∀ a v, a.family = f → a ∉ (msgs.filterMap (neighMsgToEntry f)).map (·.1) →
      c₂.shared.ipMac.lookup a = some v → f = .ipv6 ∧ ⟨.dad,a,v.mac⟩ ∈ c₂.shared.evidence

theorem learningKeeps_of_kept (h : Kept machine contract (fun _ => True) c.threads) :
    LearningKeeps c := by
  intro t w b u flag k l c' ht hw hs a v hv
  have hflag : flag = .noExist := (h t _ ht).1.2 hw
  subst hflag
  simp only [Sys.step, ht, Option.some.injEq] at hs
  subst hs
  show (exec (.update w b u .noExist) c.shared).2.ipMac.lookup a = some v
  simp only [exec]
  split
  · exact hv
  · rename_i hb
    have hab : a ≠ b := by
      rintro rfl
      rw [hv] at hb
      cases hb
    rwa [lookup_insert_ne hab]

theorem syncSettles_of_reach (h : Reach machine direct idle c) : SyncSettles direct c := by
  intro t f msgs c₁ c₂ l ha hs hu hd
  have ht : c₁.threads t = some ⟨reconcileEntriesInMap f (msgs.filterMap (neighMsgToEntry f)),
      ⟨.sync f msgs,(Event.sync f msgs).attests⟩⟩ := by
    simp only [Sys.step] at hs
    split at hs
    · rename_i hl
      cases hl
      cases hs
      exact update_self _ _ _
    · cases hs
  have hdone := hu.done ht reconcileEntriesInMap_within hd
  obtain ⟨hsnap,hrest⟩ := hdone ▸ reconcileEntriesInMap_run
  refine ⟨fun a ha => ?_,fun a v hf hnot hv => ?_⟩
  · obtain ⟨v,hmem,hv⟩ := hsnap a ha
    exact ⟨v,hv,(a, v),hmem,rfl,rfl⟩
  · obtain ⟨hf6,hdad⟩ := hrest a v hf hnot hv
    have htruth : Inv c₂.shared c₂.logs :=
      outline.reach inv_empty (hu.reach (h.next ha hs))
    obtain ⟨x,hx,rfl,hmac,hkind⟩ := htruth.1 a v hv
    refine ⟨hf6,?_⟩
    rw [← hmac, ← hkind hdad]
    exact hx

/-- However the writers interleave: what is learned replaces no binding, every binding has evidence
for it, and an undisturbed sync leaves what the snapshot says. -/
theorem bindings_truthful_of_direct {c : Conf} (h : Reach machine direct idle c) :
    LearningKeeps c ∧ c.shared.Truthful ∧ SyncSettles direct c := by
  obtain ⟨hinv,hkept⟩ := outline.reach_kept inv_empty h
  exact ⟨learningKeeps_of_kept hkept,hinv.1,syncSettles_of_reach h⟩

/- A downstream router `fe80::1` serves `2001:db8::/64`; the packet is for a host of that
   network. -/
def router : IpAddr := .v6 0xfe800000000000000000000000000001
def host : IpAddr := .v6 0x20010db8000000000000000000000007
def remote : IpAddr := .v6 0x26000000000000000000000000000001

def delegated (nextHop : IpAddr) : Tables where
  lan a := if a = host then some ⟨3,router,some 0x020000000003,.nextHop⟩ else none
  fib q := if q.dst = host then some ⟨3,0x0200000000aa,0x020000000003,nextHop⟩ else none

def fromWan : Packet := ⟨2,0x020000000002,0x020000000001,remote,host⟩

def resolveHost (nextHop : IpAddr) : List (Label Event) :=
  [.start 0 (.wan fromWan none (delegated nextHop)), .act 0, .act 0, .act 0, .finish 0]

def direct6 (_ : State) (logs : Nat → Option Task) (t : Nat) : Op → Bool
  | .fibLookup (some r) => (logs t).any fun l =>
      match l.event with
      | .wan p _ _ => decide (p.daddr.family = .ipv6 ∧ r.nextHop = p.daddr)
      | _ => false
  | _ => true

theorem direct_of_direct6 {logs : Nat → Option Task} {t : Nat} {o : Op}
    (h : direct6 s logs t o = true) : direct.acts s logs t o := by
  cases o with
  | fibLookup r =>
    rintro l x hl rfl
    simp only [direct6, hl, Option.any_some] at h
    split at h
    · rename_i p wanAddr tb he
      rw [he]
      obtain ⟨hfam,hnext⟩ := of_decide_eq_true h
      intro info _ _
      rw [hnext, hfam]
      rfl
    · cases h
  | _ => trivial

theorem bindings_truthful_sample :
    ∃ c, Reach machine direct idle c ∧ (∃ v, c.shared.ipMac.lookup host = some v) ∧
      (LearningKeeps c ∧ c.shared.Truthful ∧ SyncSettles direct c) := by
  obtain ⟨c,hc,-,hpost⟩ := reach_of_quietRun machine (resolveHost host) 1 .empty
    (fun _ _ _ _ _ => direct_of_direct6) (fun _ _ => trivial)
      (fun s => (s.ipMac.lookup host).isSome)
    (by decide +kernel)
  exact ⟨c,hc,Option.isSome_iff_exists.mp hpost,bindings_truthful_of_direct hc⟩

/- The forwarding table sends the host's packets to the router, and the router's MAC is stored as
   the host's. -/
theorem bindings_truthful_fails : ∃ c, Reach machine (.any Op State Task Event) idle c ∧
      ¬(LearningKeeps c ∧ c.shared.Truthful ∧ SyncSettles (.any Op State Task Event) c) := by
  obtain ⟨c,hc,-,hsome,hall⟩ :=
    reach_of_quietRun machine (resolveHost router) 1 .empty Schedule.any_acts
    (fun _ _ => trivial) (fun s => (s.ipMac.lookup host).isSome ∧ ∀ x ∈ s.evidence, x.ip ≠ host)
    (by decide +kernel)
  refine ⟨c,hc,fun ⟨_,htruth,_⟩ => ?_⟩
  obtain ⟨v,hv⟩ := Option.isSome_iff_exists.mp hsome
  obtain ⟨x,hx,hip,-⟩ := htruth host v hv
  exact hall x hx hip

end Landscape.Neigh
