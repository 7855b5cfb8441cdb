import Landscape.Nat4.Contract

/-! Every program of the NAT keeps its contract: one specification for each function of the
source. -/
namespace Landscape.Nat4
open Interleave Packet Function
variable {env : Env} {l l' : Log} {α : Type} {allow : Bool} {Q : α → Log → Prop} {st : TimerStatus}

abbrev Keeps (env : Env) (Q : α → Log → Prop) (p : M α) (l : Log) : Prop :=
  Meets (machine env) (contract env) Q p l

theorem Keeps.step {o : Op} {f : Res o → M α} (ha : Allowed env l o)
    (h : ∀ r, Answers env l o r → Keeps env Q (f r) (record l o r)) :
    Keeps env Q (Prog.perform o >>= f) l := ⟨ha,h⟩

structure Log.Carries (l l' : Log) : Prop where
  callback : l'.callback = l.callback
  eg : l'.eg = l.eg
  item : l'.item = l.item
  mine : l'.mine = l.mine
  found : l'.found = l.found
  zero : l.zero = false → l'.zero = false

theorem Log.Carries.rfl (l : Log) : l.Carries l :=
  ⟨.refl _,.refl _,.refl _,.refl _,.refl _,id⟩

theorem Log.Carries.trans {l l' l'' : Log} (h : l.Carries l') (h' : l'.Carries l'') :
    l.Carries l'' :=
  ⟨h'.callback.trans h.callback,h'.eg.trans h.eg,h'.item.trans h.item,h'.mine.trans h.mine,
    h'.found.trans h.found,fun hz => h'.zero (h.zero hz)⟩

structure Log.Ready (l : Log) : Prop where
  callback : l.callback = none
  ct : l.ct = none
  counted : l.counted = false

theorem readStatus_carries (hcb : l.callback = none) (c : Ct) :
    l.Carries (record l (.readStatus c) st) ∧ (record l (.readStatus c) st).ct = l.ct ∧
      (record l (.readStatus c) st).counted = l.counted := by
  simp only [record, Log.onReadStatus, hcb]
  split
  · exact ⟨⟨hcb.symm,rfl,rfl,rfl,rfl,fun _ => rfl⟩,rfl,rfl⟩
  · exact ⟨.rfl l,rfl,rfl⟩

theorem readStatus_ready (hr : l.Ready) (c : Ct) (st : TimerStatus) :
    l.Carries (record l (.readStatus c) st) ∧ (record l (.readStatus c) st).Ready := by
  obtain ⟨h,hct,hco⟩ := readStatus_carries hr.callback c
  exact ⟨h,h.callback.trans hr.callback,hct.trans hr.ct,hco.trans hr.counted⟩

theorem allowed_readStatus (hcb : l.callback = none) (c : Ct) : Allowed env l (.readStatus c) := by
  intro c' hc'
  simp [hcb] at hc'

theorem record_casStatus (hcb : l.callback = none) (c : Ct) (old new : TimerStatus) (done : Bool) :
    record l (.casStatus c old new) done = l := by
  simp [record, Log.onCasStatus, hcb]

theorem frag4Track_keeps (idx : ScanIpv4Idx) (pair : Inet4Pair) :
    Keeps env (fun _ l' => l' = l) (frag4Track idx pair) l := by
  unfold frag4Track
  split
  · exact .pure rfl
  split
  · exact .pure rfl
  split
  · refine .step trivial fun done _ => ?_
    split
    · refine .step trivial fun r _ => ?_
      cases r <;> exact .pure rfl
    · exact .pure rfl
  · refine .step trivial fun r _ => ?_
    cases r <;> exact .pure rfl

theorem usable_of_canActivate (h : ctStatusCanActivate st = true) :
    nat4CtStatusUsable st = true := by
  revert h
  cases st <;> decide

theorem nat4CtActivate_keeps (hr : l.Ready) (c : Ct) :
    Keeps env (fun _ l' => l.Carries l' ∧ l'.Ready) (nat4CtActivate c) l := by
  refine .step (allowed_readStatus hr.callback c) fun st _ => ?_
  have hl := readStatus_ready hr c st
  split
  · rename_i hact
    refine .step (.inl ⟨usable_of_canActivate hact,by decide,.inl hl.2.callback⟩)
      fun done _ => ?_
    rw [record_casStatus hl.2.callback]
    split
    · exact .step trivial fun _ _ => .pure hl
    · exact .pure hl
  · exact .pure hl

theorem nat4CtAdvance_keeps (hr : l.Ready) {pktType : PktType} {gress : Gress} (c : Ct) :
    Keeps env (fun _ l' => l.Carries l' ∧ l'.Ready) (nat4CtAdvance pktType gress c) l := by
  refine .step trivial fun curr _ => ?_
  dsimp only
  split
  · refine .step trivial fun done _ => ?_
    split
    · exact nat4CtActivate_keeps hr c
    · exact .pure ⟨.rfl l,hr⟩
  · exact nat4CtActivate_keeps hr c

theorem timerLookup_ready (hr : l.Ready) (key : TimerKey) (r : Option Ct) :
    l.Carries (record l (.timerLookup key) r) ∧ (record l (.timerLookup key) r).Ready := by
  have hl : record l (.timerLookup key) r = { l with seen := r } := by simp [record, hr.ct]
  rw [hl]
  exact ⟨⟨rfl,rfl,rfl,rfl,rfl,id⟩,hr.callback,hr.ct,hr.counted⟩

/-- `nat4_ct_ingress_resolve`. -/
theorem nat4CtIngressResolve_keeps (hr : l.Ready) (key : TimerKey) :
    Keeps env (fun _ l' => l.Carries l' ∧ l'.Ready) (nat4CtIngressResolve key) l := by
  refine .step ⟨hr.callback,hr.counted⟩ fun r _ => ?_
  obtain ⟨hl,hr'⟩ := timerLookup_ready hr key r
  cases r with
  | none => exact .pure ⟨hl,hr'⟩
  | some tv =>
    refine .step (allowed_readStatus hr'.callback tv) fun st _ => .pure ?_
    obtain ⟨hl',hr''⟩ := readStatus_ready hr' tv st
    exact ⟨hl.trans hl',hr''⟩

def Log.AtKey (env : Env) (l : Log) (key : TimerKey) : Prop :=
  l.holds key.l4proto key.pairIp.dstPort ∧
    nat4StaticPortReserved env key.l4proto key.pairIp.dstPort = false

variable {key : TimerKey} {m : Mapping} {proto : UInt8} {v : PortQueueValue} {pair : Inet4Pair}
  {r : EgressResult} {dynIngress : Option Mapping} {c : Ct}

/-- A usable entry on the port in hand settles that the mapping has a reference. -/
theorem zero_of_usable {tv : Ct} (hcb : l.callback = none) (hk : tv.key = key)
    (hst : tv.val.isStatic = true →
      nat4StaticPortReserved env key.l4proto key.pairIp.dstPort = true)
    (hu : nat4CtStatusUsable st = true) (hat : l.AtKey env key) :
    (record l (.readStatus tv) st).zero = false := by
  obtain ⟨⟨proto,v,hi,hq,hp⟩,hres⟩ := hat
  have hdyn : tv.val.isStatic = false := by
    cases hs : tv.val.isStatic with
    | false => rfl
    | true => simp [hst hs] at hres
  have hitem : l.atItem tv = true := by
    simp [Log.atItem, hi, hq, hp, hk]
  simp [record, Log.onReadStatus, hcb, hu, hdyn, hitem]

theorem timerDelete_ready (hcb : l.callback = none) (hco : l.counted = false)
    (hwhy : l.ct = none → nat4StaticPortReserved env key.l4proto key.pairIp.dstPort = true ∨
      ∃ m tv, l.found = some m ∧ m.key = ctMapKey key ∧ l.seen = some tv ∧
        tv.val.generationSnapshot ≠ m.val.generation) :
    Allowed env l (.timerDelete key) ∧ l.Carries (record l (.timerDelete key) ()) ∧
      (record l (.timerDelete key) ()).Ready := by
  refine ⟨by simpa only [Allowed, AllowedTimerDelete, hcb] using ⟨hco,hwhy⟩,?_⟩
  have hl : record l (.timerDelete key) () = { l with ct := none } := by simp [record, hcb]
  rw [hl]
  exact ⟨⟨rfl,rfl,rfl,rfl,rfl,id⟩,hcb,rfl,hco⟩

/-- `nat4_ct_resolve`. -/
theorem nat4CtResolve_keeps (hr : l.Ready)
    (hdyn : ∀ m, dynIngress = some m → l.found = some m ∧ m.key = ctMapKey key) :
    Keeps env (fun r l' => l.Carries l' ∧ l'.Ready ∧ (r.isSome → l.AtKey env key → l'.zero = false))
      (nat4CtResolve key dynIngress) l := by
  refine .step ⟨hr.callback,hr.counted⟩ fun r hans => ?_
  obtain ⟨hl,hr'⟩ := timerLookup_ready hr key r
  cases r with
  | none => exact .pure ⟨hl,hr',by simp⟩
  | some tv =>
    obtain ⟨hk,hst⟩ := hans.1 tv rfl
    dsimp only
    split
    · rename_i hgen
      simp only [Option.any_eq_true, bne_iff_ne, ne_eq] at hgen
      obtain ⟨m,hm,hne⟩ := hgen
      have hseen : (record l (.timerLookup key) (some tv)).seen = some tv := by
        simp [record, hr.ct]
      obtain ⟨ha,hl',hr''⟩ := timerDelete_ready hr'.callback hr'.counted fun _ =>
        .inr ⟨m,tv,hl.found.trans (hdyn m hm).1,(hdyn m hm).2,hseen,hne⟩
      exact .step ha fun _ _ => .pure ⟨hl.trans hl',hr'',by simp⟩
    · refine .step (allowed_readStatus hr'.callback tv) fun st _ => .pure ?_
      obtain ⟨hl',hr''⟩ := readStatus_ready hr' tv st
      refine ⟨hl.trans hl',hr'',?_⟩
      intro hsome hat
      split at hsome
      · rename_i hu
        refine zero_of_usable hr'.callback hk hst hu ?_
        simpa [Log.AtKey, Log.holds, hl.item] using hat
      · simp at hsome

def Inserted (l : Log) (val : TimerValue) (r : Option Ct) (l' : Log) : Prop :=
  l.Carries l' ∧ l'.counted = false ∧ l'.ct = if val.isStatic then none else r

theorem nat4InsertCt_keeps (hr : l.Ready) {val : TimerValue}
    (ha : AllowedTimerInsert env l key val) :
    Keeps env (Inserted l val) (nat4InsertCt key val) l := by
  have hfail : ∀ {l' : Log} {r : Ct}, l.Carries l' → l'.counted = false →
      (l'.ct = if val.isStatic then none else some r) →
      Keeps env (Inserted l val) (do timerDelete key; pure none) l' := by
    intro l' r h hco hct
    obtain ⟨ha,hl,hr'⟩ := timerDelete_ready (h.callback.trans hr.callback) hco fun hno => by
      rcases ha.2.2.2 with ⟨-,-,hres⟩ | ⟨-,m,-,hb⟩
      · exact .inl hres
      · simp [hno, show val.isStatic = false from (hb 0).dynamic] at hct
    exact .step ha fun _ _ => .pure ⟨h.trans hl,hr'.counted,by simp [hr'.ct]⟩
  refine .step ha fun r hins => ?_
  cases r with
  | none => exact .pure ⟨.rfl l,hr.counted,by simp [record, hr.ct]⟩
  | some c =>
    obtain ⟨hck,-⟩ := hins c rfl
    have hins : l.Carries (record l (.timerInsert key val) (some c)) ∧
        (record l (.timerInsert key val) (some c)).counted = false ∧
        (record l (.timerInsert key val) (some c)).ct = if val.isStatic then none else some c := by
      cases hst : val.isStatic with
      | true => simpa [record, hst] using ⟨.rfl l,hr.counted,hr.ct⟩
      | false => simpa [record, hst] using ⟨⟨rfl,rfl,rfl,rfl,rfl,id⟩,hr.counted⟩
    obtain ⟨hl,hco,hct⟩ := hins
    generalize record l (.timerInsert key val) (some c) = l₁ at hl hco hct
    refine .step ⟨hl.callback.trans hr.callback,hco⟩ fun r hans => ?_
    have hfound : l.Carries (record l₁ (.timerLookup key) r) ∧
        (record l₁ (.timerLookup key) r).counted = false ∧
        (record l₁ (.timerLookup key) r).ct = if val.isStatic then none else r := by
      cases hst : val.isStatic with
      | true =>
        have hl' : record l₁ (.timerLookup key) r = { l₁ with seen := r } := by
          simp [record, hct, hst]
        rw [hl']
        exact ⟨hl.trans ⟨rfl,rfl,rfl,rfl,rfl,id⟩,hco,by simp [hct, hst]⟩
      | false =>
        have hct' : l₁.ct = some c := by simp [hct, hst]
        rcases hans.2 c hct' hck.symm with rfl | rfl
        · have hl' : record l₁ (.timerLookup key) none = { l₁ with ct := none } := by
            simp [record, hct']
          rw [hl']
          exact ⟨hl.trans ⟨rfl,rfl,rfl,rfl,rfl,id⟩,hco,by simp⟩
        · have hl' : record l₁ (.timerLookup key) (some c) = l₁ := by simp [record, hct']
          rw [hl']
          exact ⟨hl,hco,by simp [hct']⟩
    obtain ⟨hl',hco',hct''⟩ := hfound
    cases r with
    | none => exact .pure ⟨hl',hco',hct''⟩
    | some value =>
      refine .step trivial fun ok _ => ?_
      split
      · refine .step trivial fun ok _ => ?_
        split
        · refine .step trivial fun ok _ => ?_
          split
          · exact .pure ⟨hl',hco',hct''⟩
          · exact hfail hl' hco' hct''
        · exact hfail hl' hco' hct''
      · exact hfail hl' hco' hct''

/- The loop of `nat4_state_try_inc`: a success is on record, and settles the count of a mapping
   the handler made itself. -/
theorem tryIncLoop_keeps (hcb : l.callback = none) (hct : l.ct = some c)
    (hco : l.counted = false) (hf : l.found = some m) (n old : Nat) :
    Keeps env (fun ok l' => l.Carries l' ∧ l'.ct = some c ∧ l'.counted = ok ∧
      (ok = true → l.mine = some m → l'.zero = false)) (tryIncLoop m n old) l := by
  induction n generalizing old with
  | zero => exact .pure ⟨.rfl l,hct,hco,by simp⟩
  | succ n ih =>
    unfold tryIncLoop
    split
    · exact .pure ⟨.rfl l,hct,hco,by simp⟩
    split
    · exact .pure ⟨.rfl l,hct,hco,by simp⟩
    rename_i hact hmask
    refine Keeps.step ?_ fun prev _ => ?_
    · simpa [Allowed, AllowedCasStateRef, hcb, hct, hco, hf] using ⟨not_not.mp hact,hmask⟩
    · split
      · rename_i hprev
        refine .pure ?_
        simp only [record, Log.onCasStateRef, hprev, hcb]
        refine ⟨⟨hcb.symm,rfl,rfl,rfl,rfl,?_⟩,hct,rfl,?_⟩
        · intro hz
          simp [hz]
        · intro _ hm
          simp [hm]
      · rename_i hprev
        have hl : record l (.casStateRef m old (nat4StateMake nat4StateActive (nat4RefGet old + 1)))
            prev = l := by simp [record, Log.onCasStateRef, hprev]
        rw [hl]
        exact ih prev

theorem readStateRef_carries (m : Mapping) (sr : Nat) :
    l.Carries (record l (.readStateRef m) sr) ∧ (record l (.readStateRef m) sr).ct = l.ct ∧
      (record l (.readStateRef m) sr).counted = l.counted := by
  simp only [record]
  split
  · refine ⟨⟨rfl,rfl,rfl,rfl,rfl,?_⟩,rfl,rfl⟩
    intro hz
    simp [hz]
  · exact ⟨.rfl l,rfl,rfl⟩

theorem nat4StateTryInc_keeps (hcb : l.callback = none) (hct : l.ct = some c)
    (hco : l.counted = false) (hf : l.found = some m) :
    Keeps env (fun ok l' => l.Carries l' ∧ l'.ct = some c ∧ l'.counted = ok ∧
      (ok = true → l.mine = some m → l'.zero = false)) (nat4StateTryInc m) l := by
  refine .step trivial fun old _ => ?_
  obtain ⟨hl,hct',hco'⟩ := readStateRef_carries (l := l) m old
  refine (tryIncLoop_keeps (hl.callback.trans hcb) (hct'.trans hct) (hco'.trans hco)
    (hl.found.trans hf) 8 old).mono ?_
  rintro ok l' ⟨h1,h2,h3,h4⟩
  exact ⟨hl.trans h1,h2,h3,fun hok hm => h4 hok (hl.mine.trans hm)⟩

/-- `nat4_ct_create`, for a static mapping or for the mapping last looked up. On success a
mapping the handler made itself is referenced. -/
theorem nat4CtCreate_keeps (hr : l.Ready) (mark : UInt32) {clientAddr : UInt32}
    {clientPort : UInt16} {gress : Gress} (hstatic : dynIngress = none →
      nat4StaticPortReserved env key.l4proto key.pairIp.dstPort = true)
    (hdyn : ∀ m, dynIngress = some m → l.found = some m ∧ m.key = ctMapKey key ∧
      clientAddr = m.val.addr ∧ clientPort = m.val.port) :
    Keeps env (fun r l' => l.Carries l' ∧ l'.Ready ∧
        (r.isSome → ∀ m, dynIngress = some m → l.mine = some m → l'.zero = false))
      (nat4CtCreate mark key clientAddr clientPort gress dynIngress) l := by
  have hins : AllowedTimerInsert env l key
      (nat4CtNewValue mark clientAddr clientPort gress dynIngress) := by
    refine ⟨hr.callback,hr.ct,hr.counted,?_⟩
    cases dynIngress with
    | none => exact .inl ⟨rfl,rfl,hstatic rfl⟩
    | some m =>
      obtain ⟨hf,hk,ha,hp⟩ := hdyn m rfl
      exact .inr ⟨rfl,m,hf,fun id => ⟨hk,rfl,ha,hp,rfl⟩⟩
  refine (nat4InsertCt_keeps hr hins).call ?_
  rintro r l₁ ⟨hl,hco,hct⟩
  have hcb := hl.callback.trans hr.callback
  cases r with
  | none => exact .pure ⟨hl,⟨hcb,by simpa using hct,hco⟩,by simp⟩
  | some tv =>
    cases dynIngress with
    | none => exact .pure ⟨hl,⟨hcb,by simpa [nat4CtNewValue] using hct,hco⟩,by simp⟩
    | some m =>
      have hct' : l₁.ct = some tv := by simpa [nat4CtNewValue] using hct
      refine (nat4StateTryInc_keeps hcb hct' hco (hl.found.trans (hdyn m rfl).1)).call ?_
      rintro ok l₂ ⟨hl₂,hct₂,hco₂,hzero⟩
      have hcb₂ := hl₂.callback.trans hcb
      cases ok with
      | true =>
        refine .step ⟨hcb₂,rfl,hct₂,hco₂⟩ fun _ _ => .pure ?_
        refine ⟨hl.trans (hl₂.trans ⟨rfl,rfl,rfl,rfl,rfl,id⟩),⟨hcb₂,rfl,rfl⟩,?_⟩
        rintro _ m' ⟨⟩ hm
        exact hzero rfl (hl.mine.trans hm)
      | false =>
        obtain ⟨ha,hl₃,hr₃⟩ := timerDelete_ready hcb₂ hco₂ (by simp [hct₂])
        exact .step ha fun _ _ => .pure ⟨hl.trans (hl₂.trans hl₃),hr₃,by simp⟩

structure Log.Bare (l : Log) : Prop extends l.Ready where
  eg : l.eg = none
  item : l.item = none
  mine : l.mine = none
  zero : l.zero = false

theorem Log.Bare.carries (h : l.Bare) (hl : l.Carries l') (hr : l'.Ready) : l'.Bare :=
  ⟨hr,hl.eg.trans h.eg,hl.item.trans h.item,hl.mine.trans h.mine,hl.zero h.zero⟩

def Settled (l : Log) : Prop := Done l ∧ l.counted = false

theorem Settled.ready (h : Settled l) : l.Ready := ⟨h.1.1,h.1.2.2.2,h.2⟩

theorem Settled.carries (h : Settled l) (hl : l.Carries l') (hr : l'.Ready) : Settled l' := by
  obtain ⟨⟨-,hi,hz,-⟩,-⟩ := h
  refine ⟨⟨hr.callback,?_,hl.zero hz,hr.ct⟩,hr.counted⟩
  rw [hl.item, hl.mine]
  exact hi

theorem Log.Bare.settled (h : l.Bare) : Settled l :=
  ⟨⟨h.callback,.inl h.item,h.zero,h.ct⟩,h.counted⟩

structure Log.Holding (l : Log) (proto : UInt8) (v : PortQueueValue) : Prop extends l.Ready where
  eg : l.eg = none
  item : l.item = some (proto, v)
  mine : l.mine = none
  zero : l.zero = false

theorem Log.Holding.push (h : l.Holding proto v) (env : Env) :
    Allowed env l (.queuePush proto v) ∧ (record l (.queuePush proto v) true).Bare := by
  refine ⟨?_,?_⟩
  · simp only [Allowed, AllowedPush, h.callback]
    exact ⟨h.mine,h.eg,proto,v,h.item,rfl,rfl⟩
  · exact ⟨⟨h.callback,h.ct,h.counted⟩,h.eg,rfl,h.mine,h.zero⟩

/-- `nat4_alloc_port` returns with a port in hand that no static mapping reserves, or without. -/
theorem allocPortLoop_keeps (h : l.Bare) {n : Nat} : Keeps env (fun r l' => match r with
        | none => l'.Bare
        | some v => l'.Holding proto v ∧ nat4StaticPortReserved env proto v.port = false)
      (allocPortLoop env proto n) l := by
  induction n generalizing l with
  | zero => exact .pure h
  | succ n ih =>
    refine .step ⟨h.callback,h.item⟩ fun r _ => ?_
    cases r with
    | none => exact .pure h
    | some v =>
      have hold : (record l (.queuePop proto) (some v)).Holding proto v :=
        ⟨⟨h.callback,h.ct,h.counted⟩,h.eg,rfl,h.mine,h.zero⟩
      dsimp only
      split
      · obtain ⟨ha,hb⟩ := hold.push env
        refine .step ha ?_
        rintro r ⟨⟩
        exact ih hb
      · rename_i hres
        exact .pure ⟨hold,by simpa using hres⟩

structure Log.Made (l : Log) (proto : UInt8) (v : PortQueueValue) (m : Mapping) : Prop
    extends l.Ready where
  eg : l.eg = some (clientKey m, m.key.fromAddr)
  item : l.item = some (proto, v)
  mine : l.mine = some m
  at_proto : m.key.l4proto = proto
  at_port : m.key.fromPort = v.port

section
variable (h : l.Made proto v m)
include h

theorem Log.Made.carries (hl : l.Carries l') (hr : l'.Ready) : l'.Made proto v m :=
  ⟨hr,hl.eg.trans h.eg,hl.item.trans h.item,hl.mine.trans h.mine,h.at_proto,h.at_port⟩

theorem Log.Made.settled (hz : l.zero = false) : Settled l :=
  ⟨⟨h.callback,.inr (by simp [h.mine]),hz,h.ct⟩,h.counted⟩

theorem Log.Made.ingressDelete (hu : l.unused = true) (env : Env) :
    Allowed env l (.ingressDelete m.key) ∧ record l (.ingressDelete m.key) () =
        { l with mine := none, found := none, zero := false } := by
  refine ⟨?_,by simp [record, h.callback]⟩
  simp only [Allowed, AllowedDelete, h.callback]
  exact ⟨h.ct,hu,m,h.mine,rfl⟩

/-- A failed `nat4_insert_mappings` takes the egress entry back first. -/
theorem Log.Made.unmake (hu : l.unused = true) {p : M α}
    (hQ : ∀ l', l'.Holding proto v → Keeps env Q p l') :
    Keeps env Q (do egressDelete (clientKey m); Nat4.ingressDelete m.key; p) l := by
  refine .step trivial fun _ _ => ?_
  have hl : record l (.egressDelete (clientKey m)) () = { l with eg := none } := by
    simp [record, h.eg]
  rw [hl]
  refine .step ?_ fun _ _ => hQ _ ?_
  · simp only [Allowed, AllowedDelete, h.callback]
    exact ⟨h.ct,hu,m,h.mine,rfl⟩
  · have hl' : record { l with eg := none } (.ingressDelete m.key) () =
        { l with eg := none, mine := none, found := none, zero := false } := by
      simp [record, h.callback]
    rw [hl']
    exact ⟨⟨h.callback,h.ct,h.counted⟩,rfl,h.item,rfl,rfl⟩

/-- `nat4_delete_mapping_pair` takes the ingress entry back first. -/
theorem Log.Made.deletePair (hu : l.unused = true) : Keeps env (fun _ l' => l'.Holding proto v)
      (do Nat4.ingressDelete m.key; egressDelete (clientKey m)) l := by
  obtain ⟨ha,hl⟩ := h.ingressDelete hu env
  refine .step ha fun _ _ => ?_
  rw [hl]
  refine .step trivial fun _ _ => .pure ?_
  have hl' : record { l with mine := none, found := none, zero := false }
      (.egressDelete (clientKey m)) () =
      { l with eg := none, mine := none, found := none, zero := false } := by
    simp [record, h.eg]
  rw [hl']
  exact ⟨⟨h.callback,h.ct,h.counted⟩,rfl,h.item,rfl,rfl⟩

end

structure MapsTo (m : Mapping) (proto : UInt8) (natAddr : UInt32) (natPort : UInt16)
    (addr : UInt32) (port : UInt16) : Prop where
  key : m.key = ⟨.ingress,proto,natPort,natAddr⟩
  addr : m.val.addr = addr
  port : m.val.port = port

def Installed (proto : UInt8) (v : PortQueueValue) (natAddr : UInt32) (natPort : UInt16)
    (addr : UInt32) (port : UInt16) : Option Mapping → Log → Prop
  | none, l => l.Holding proto v
  | some m, l => l.Made proto v m ∧ l.found = some m ∧ MapsTo m proto natAddr natPort addr port

theorem nat4ReadBackMappings_keeps {natAddr addr : UInt32} {natPort port : UInt16}
    (h : l.Made proto v m) (hu : l.unused = true) (hm : MapsTo m proto natAddr natPort addr port) :
    Keeps env (Installed proto v natAddr natPort addr port)
      (nat4ReadBackMappings (clientKey m) m.key) l := by
  refine Keeps.step ⟨h.ct,by simp [h.callback]⟩ fun r hans => ?_
  have hmade : (record l (.ingressLookup m.key) r).Made proto v m :=
    ⟨⟨h.callback,h.ct,h.counted⟩,h.eg,h.item,h.mine,h.at_proto,h.at_port⟩
  rcases hans.2.1 m h.mine rfl with rfl | rfl
  · exact hmade.unmake hu fun _ h' => .pure h'
  · refine Keeps.step (by simp [Allowed, record, h.callback]) fun r _ => ?_
    have hl : record (record l (.ingressLookup m.key) (some m)) (.egressLookup (clientKey m)) r =
        record l (.ingressLookup m.key) (some m) := by
      simp [record, Log.onEgressLookup, h.callback]
    rw [hl]
    cases r with
    | none => exact hmade.unmake hu fun _ h' => .pure h'
    | some e => exact .pure ⟨hmade,rfl,hm⟩

/-- `nat4_insert_mappings` installs both entries for the port in hand, or none. -/
theorem nat4InsertMappings_keeps (h : l.Holding proto v)
    (hres : nat4StaticPortReserved env proto v.port = false) (addr : UInt32) (port : UInt16)
    {val : EgressMappingValue} (hv : val.port = v.port)
    (hwan : ∃ i, env.wanIpBinding i = some val.addr) (generation : UInt16) :
    Keeps env (Installed proto v val.addr val.port addr port)
      (nat4InsertMappings ⟨.egress,proto,port,addr⟩ val generation) l := by
  refine .step ⟨h.callback,h.mine,h.eg,proto,v,h.item,rfl,hv.symm⟩ fun r _ => ?_
  cases r with
  | none => exact .pure h
  | some e =>
    have hl : record l (.egressInsert ⟨.egress,proto,port,addr⟩ val) (some e) =
        { l with eg := some (⟨.egress,proto,port,addr⟩, val.addr) } := by
      simp [record]
    dsimp only
    refine .step ⟨h.callback,h.mine,rfl,rfl,hv ▸ hres,hwan,rfl,proto,v,h.item,
      rfl,hv.symm⟩ ?_
    rintro r ⟨m,rfl,hk,hm⟩
    have hmap : MapsTo m proto val.addr val.port addr port := ⟨hk,by rw [hm],by rw [hm]⟩
    have hkey : clientKey m = ⟨.egress,proto,port,addr⟩ := by
      simp [clientKey, hmap.key, hmap.addr, hmap.port]
    rw [← hkey, ← hk]
    refine nat4ReadBackMappings_keeps ?_ rfl hmap
    refine ⟨⟨h.callback,h.ct,h.counted⟩,?_,h.item,rfl,by rw [hk],by rw [hk]; exact hv⟩
    simp [record, hk]

inductive EgressReady (env : Env) (proto : UInt8) (allow : Bool) (pair : Inet4Pair) :
    Option EgressResult → Log → Prop
  | shot {l : Log} (h : l.Bare) : EgressReady env proto allow pair none l
  | static {l : Log} {r : EgressResult} (h : l.Bare) (hd : r.dynIngress = none)
      (hc : r.isCreated = false) (hres : nat4StaticPortReserved env proto r.natPort = true) :
      EgressReady env proto allow pair (some r) l
  | reuse {l : Log} {r : EgressResult} {m : Mapping} (h : l.Bare) (hd : r.dynIngress = some m)
      (hc : r.isCreated = false) (hf : l.found = some m)
      (hm : MapsTo m proto r.natAddr r.natPort pair.srcAddr pair.srcPort) :
      EgressReady env proto allow pair (some r) l
  | created {l : Log} {r : EgressResult} {m : Mapping} (h : l.Made proto r.allocItem m)
      (ha : allow = true) (hd : r.dynIngress = some m) (hc : r.isCreated = true)
      (hf : l.found = some m) (hm : MapsTo m proto r.natAddr r.natPort pair.srcAddr pair.srcPort)
      (hres : nat4StaticPortReserved env proto r.natPort = false) :
      EgressReady env proto allow pair (some r) l

theorem nat4DynEgressReuse_keeps (h : l.Bare) (mark : UInt32) {e : EgressMapping}
    (hf : l.found = some m) (hm : MapsTo m proto e.val.addr e.val.port pair.srcAddr pair.srcPort) :
    Keeps env (EgressReady env proto allow pair) (nat4DynEgressReuse mark proto pair e m) l := by
  refine .step trivial fun reuse _ => ?_
  split
  · exact .pure (.shot h)
  split
  · exact .step trivial fun _ _ => .step trivial fun _ _ =>
      .pure (.reuse h rfl rfl hf hm)
  · exact .pure (.reuse h rfl rfl hf hm)

theorem nat4DynEgressCreate_keeps (h : l.Bare) (mark ifindex : UInt32) (hallow : allow = true) :
    Keeps env (EgressReady env proto allow pair)
      (nat4DynEgressCreate env mark ifindex proto pair) l := by
  unfold nat4DynEgressCreate
  split
  · exact .pure (.shot h)
  · rename_i wanIp hwan
    refine (allocPortLoop_keeps h).call ?_
    rintro (_ | item) l₁ h₁
    · exact .pure (.shot h₁)
    · obtain ⟨hold,hres⟩ := h₁
      refine (nat4InsertMappings_keeps hold hres pair.srcAddr pair.srcPort rfl
        ⟨ifindex,hwan⟩ _).call ?_
      rintro (_ | m) l₂ h₂
      · obtain ⟨ha,hb⟩ := Log.Holding.push h₂ env
        refine .step ha ?_
        rintro r ⟨⟩
        exact .pure (.shot hb)
      · obtain ⟨hmade,hf,hm⟩ := h₂
        exact .pure (.created hmade hallow rfl rfl hf hm hres)

theorem bare_ingressLookup (h : l.Bare) (key : MappingKey) (r : Option Mapping) :
    (record l (.ingressLookup key) r).Bare :=
  ⟨⟨h.callback,h.ct,h.counted⟩,h.eg,h.item,h.mine,h.zero⟩

/-- `nat4_dyn_egress_lookup_and_check`. -/
theorem nat4DynEgressLookupAndCheck_keeps (h : l.Bare) (mark ifindex : UInt32) :
    Keeps env (EgressReady env proto allow pair)
      (nat4DynEgressLookupAndCheck env mark ifindex proto allow pair) l := by
  have hcreate : ∀ {l : Log}, l.Bare → Keeps env (EgressReady env proto allow pair)
      (if allow then nat4DynEgressCreate env mark ifindex proto pair else pure none) l := by
    intro l h
    split
    · rename_i hallow
      exact nat4DynEgressCreate_keeps h mark ifindex hallow
    · exact .pure (.shot h)
  have hdel : ∀ {l : Log}, l.Bare → Keeps env (EgressReady env proto allow pair)
      (do egressDelete ⟨.egress,proto,pair.srcPort,pair.srcAddr⟩
          if allow then nat4DynEgressCreate env mark ifindex proto pair else pure none) l := by
    intro l h
    refine Keeps.step trivial fun _ _ => hcreate ?_
    have hl : record l (.egressDelete ⟨.egress,proto,pair.srcPort,pair.srcAddr⟩) () = l := by
      simp [record, h.eg]
    rw [hl]
    exact h
  refine Keeps.step (by simp [Allowed, h.callback]) fun r _ => ?_
  have hl : record l (.egressLookup ⟨.egress,proto,pair.srcPort,pair.srcAddr⟩) r = l := by
    simp [record, Log.onEgressLookup, h.callback]
  rw [hl]
  cases r with
  | none => exact hcreate h
  | some e =>
    refine Keeps.step ⟨h.ct,by simp [h.callback]⟩ fun r hans => ?_
    have hb := bare_ingressLookup h ⟨.ingress,proto,e.val.port,e.val.addr⟩ r
    cases r with
    | none => exact hdel hb
    | some m =>
      dsimp only
      split
      · exact hdel hb
      · rename_i hcl
        rw [not_or, not_not, not_not] at hcl
        exact nat4DynEgressReuse_keeps hb mark rfl ⟨hans.1 m rfl,hcl.1,hcl.2⟩

theorem nat4EgressLookup_keeps (h : l.Bare) (mark ifindex : UInt32) :
    Keeps env (EgressReady env proto allow pair)
      (nat4EgressLookup env mark ifindex proto allow pair) l := by
  unfold nat4EgressLookup
  split
  · rename_i result hst
    refine .pure ?_
    simp only [nat4StEgressLookup, Option.bind_eq_bind, Option.bind_eq_some_iff] at hst
    obtain ⟨v,-,w,hw,wan,-,hr⟩ := hst
    cases hr
    exact .static h rfl rfl (by simp [nat4StaticPortReserved, hw])
  · exact nat4DynEgressLookupAndCheck_keeps h mark ifindex

/-- The rollback at the end of `tc_nat_v4_egress_do`: afterwards the mapping made for this
packet is referenced, or gone with its port back in the queue. -/
theorem nat4EgressRollback_keeps {result : EgressResult}
    (h : EgressReady env proto allow pair (some result) l) :
    Keeps env (fun _ => Settled) (nat4EgressRollback proto pair result) l := by
  unfold nat4EgressRollback
  cases h with
  | static h hd hc _ | reuse h hd hc _ _ =>
    rw [hd, hc]
    exact .pure h.settled
  | @created _ _ m h _ hd hc hf hm hres =>
    rw [hd, hc]
    refine .step trivial fun sr _ => ?_
    obtain ⟨hl,hct,hco⟩ := readStateRef_carries (l := l) m sr
    have hmade := h.carries hl ⟨hl.callback.trans h.callback,hct.trans h.ct,hco.trans h.counted⟩
    split
    · rename_i hsr
      have hu : (record l (.readStateRef m) sr).unused = true := by simp [record, h.mine, hsr]
      have hkey : clientKey m = ⟨.egress,proto,pair.srcPort,pair.srcAddr⟩ := by
        simp [clientKey, hm.key, hm.addr, hm.port]
      unfold nat4DeleteMappingPair
      rw [← hkey, ← hm.key]
      refine (hmade.deletePair hu).call ?_
      intro _ l' h'
      obtain ⟨ha,hb⟩ := Log.Holding.push h' env
      refine .step ha ?_
      rintro r ⟨⟩
      exact .pure hb.settled
    · rename_i hsr
      refine .pure (hmade.settled ?_)
      simp [record, h.mine, hsr]

section
variable (h : EgressReady env proto allow pair (some r) l)
include h

theorem EgressReady.carries (hl : l.Carries l') (hr : l'.Ready) :
    EgressReady env proto allow pair (some r) l' := by
  cases h with
  | static h hd hc hres => exact .static (h.carries hl hr) hd hc hres
  | reuse h hd hc hf hm => exact .reuse (h.carries hl hr) hd hc (hl.found.trans hf) hm
  | created h ha hd hc hf hm hres =>
    exact .created (h.carries hl hr) ha hd hc (hl.found.trans hf) hm hres

theorem EgressReady.ready : l.Ready := by
  cases h with
  | static h | reuse h | created h => exact h.toReady

theorem EgressReady.settled (hz : r.isCreated = true → l.zero = false) : Settled l := by
  cases h with
  | static h | reuse h => exact h.settled
  | created h ha hd hc => exact h.settled (hz hc)

theorem EgressReady.atKey (hc : r.isCreated = true) : l.AtKey env (egressCtKey proto pair r) := by
  cases h with
  | static h hd hc' | reuse h hd hc' => simp [hc] at hc'
  | created h _ hd _ hf hm hres =>
    refine ⟨⟨proto,r.allocItem,h.item,rfl,?_⟩,hres⟩
    rw [← h.at_port, hm.key]
    rfl

theorem EgressReady.found (hd' : r.dynIngress = some m) :
    l.found = some m ∧ MapsTo m proto r.natAddr r.natPort pair.srcAddr pair.srcPort := by
  cases h with
  | static h hd => simp [hd] at hd'
  | reuse h hd hc hf hm | created h _ hd hc hf hm =>
    rw [hd] at hd'
    cases hd'
    exact ⟨hf,hm⟩

theorem EgressReady.reserved (hd' : r.dynIngress = none) :
    nat4StaticPortReserved env proto r.natPort = true := by
  cases h with
  | static h hd hc hres => exact hres
  | reuse h hd | created h _ hd => simp [hd] at hd'

theorem EgressReady.createCt (mark : UInt32) : Keeps env (fun c l' => l.Carries l' ∧ l'.Ready ∧
        (c.isSome → r.isCreated = true → l'.zero = false))
      (nat4CtCreate mark (egressCtKey proto pair r) pair.srcAddr pair.srcPort .egress r.dynIngress)
      l := by
  refine (nat4CtCreate_keeps h.ready mark h.reserved ?_).mono ?_
  · intro m hd
    obtain ⟨hf,hm⟩ := h.found hd
    exact ⟨hf,hm.key,hm.addr.symm,hm.port.symm⟩
  · rintro c l' ⟨hl,hr,hz⟩
    refine ⟨hl,hr,?_⟩
    intro hc hcr
    cases h with
    | static h hd hc' | reuse h hd hc' => simp [hcr] at hc'
    | created h _ hd => exact hz hc _ hd h.mine

/-- The conntrack half of `tc_nat_v4_egress_do`. -/
theorem nat4EgressCt_keeps (mark : UInt32) :
    Keeps env (fun _ => Settled) (nat4EgressCt mark proto allow pair r) l := by
  refine (nat4CtResolve_keeps h.ready ?_).call ?_
  · intro m hd
    exact ⟨(h.found hd).1,(h.found hd).2.key⟩
  rintro (_ | c) l₁ ⟨hl,hr,hz⟩
  · have h₁ := h.carries hl hr
    dsimp only
    split
    · refine (h₁.createCt mark).call ?_
      rintro (_ | c) l₂ ⟨hl₂,hr₂,hz₂⟩
      · exact (nat4EgressRollback_keeps (h₁.carries hl₂ hr₂)).call fun _ _ h₃ => .pure h₃
      · exact .pure ((h₁.carries hl₂ hr₂).settled (hz₂ rfl))
    · rename_i hno
      refine .pure (h₁.settled ?_)
      intro hc
      cases h with
      | static h hd hc' | reuse h hd hc' => simp [hc] at hc'
      | created h ha => exact absurd ha hno
  · exact .pure ((h.carries hl hr).settled fun hc => hz rfl (h.atKey hc))

end

theorem egressTranslate_keeps (h : l.Bare) (skb : Skb) (idx : ScanIpv4Idx) (pair : Inet4Pair) :
    Keeps env (fun _ => Settled) (egressTranslate env skb idx pair) l := by
  refine (nat4EgressLookup_keeps h skb.mark skb.ifindex).call ?_
  rintro (_ | r) l₁ h₁
  · cases h₁ with
    | shot h => exact .pure h.settled
  · refine (nat4EgressCt_keeps h₁ skb.mark).call ?_
    rintro (_ | c) l₂ h₂
    · exact .pure h₂
    · dsimp only
      split
      · exact .pure h₂
      · refine (nat4CtAdvance_keeps h₂.ready c).call ?_
        rintro _ l₃ ⟨hl₃,hr₃⟩
        exact .pure (h₂.carries hl₃ hr₃)

/- What `nat4_can_create_ct` reads says nothing about a mapping the handler did not make. -/
theorem nat4CanCreateCt_keeps :
    Keeps env (fun _ l' => l.Carries l' ∧ l'.ct = l.ct ∧ l'.counted = l.counted)
      (nat4CanCreateCt m) l := by
  refine .step trivial fun sr _ => ?_
  exact .step trivial fun allow _ => .pure (readStateRef_carries m sr)

theorem ingressRewrite_keeps (h : Settled l) (skb : Skb) (idx : ScanIpv4Idx) (toAddr : UInt32)
    (toPort : UInt16) :
    Keeps env (fun _ => Settled) (ingressRewrite env skb idx pair c toAddr toPort) l := by
  unfold ingressRewrite
  split
  · exact .pure h
  · refine (nat4CtAdvance_keeps h.ready c).call ?_
    rintro _ l₁ ⟨hl₁,hr₁⟩
    exact .pure (h.carries hl₁ hr₁)

theorem ingressOpen_keeps (h : l.Bare) (skb : Skb) (idx : ScanIpv4Idx) :
    Keeps env (fun _ => Settled) (ingressOpen env skb idx pair ⟨natL4Protocol idx,pair⟩) l := by
  unfold ingressOpen
  dsimp only
  split
  · rename_i result hst
    refine (nat4CtCreate_keeps h.toReady _ ?_ (by simp)).call ?_
    · intro _
      simp only [nat4StIngressLookup, Option.map_eq_some_iff] at hst
      obtain ⟨v,hv,-⟩ := hst
      simp [nat4StaticPortReserved, hv]
    · rintro (_ | c) l₁ ⟨hl,hr,-⟩
      · exact .pure (h.carries hl hr).settled
      · exact ingressRewrite_keeps (h.carries hl hr).settled _ idx _ _
  · refine Meets.call (P := fun r l' => l'.Bare ∧ ∀ x m, r = some (x, m) → l'.found = some m ∧
      m.key = ctMapKey ⟨natL4Protocol idx,pair⟩ ∧ x = ⟨m.val.addr,m.val.port⟩) ?_ ?_
    · unfold nat4DynIngressLookupAndCheck
      refine .step ⟨h.ct,by simp [h.callback]⟩ fun r hans => ?_
      have hb := bare_ingressLookup h ⟨.ingress,natL4Protocol idx,pair.dstPort,pair.dstAddr⟩ r
      cases r with
      | none => exact .pure ⟨hb,by simp⟩
      | some m =>
        refine .step trivial fun reuse _ => ?_
        split
        · exact .pure ⟨hb,by simp⟩
        · refine .pure ⟨hb,?_⟩
          rintro x m' ⟨⟩
          exact ⟨rfl,hans.1 m rfl,rfl⟩
    · rintro (_ | ⟨x,m⟩) l₁ ⟨hb,hm⟩
      · exact .pure hb.settled
      · obtain ⟨hf,hk,rfl⟩ := hm x m rfl
        refine nat4CanCreateCt_keeps.call ?_
        rintro ok l₂ ⟨hl₂,hct₂,hco₂⟩
        have hb₂ := hb.carries hl₂
          ⟨hl₂.callback.trans hb.callback,hct₂.trans hb.ct,hco₂.trans hb.counted⟩
        split
        · refine (nat4CtCreate_keeps hb₂.toReady _ (by simp) ?_).call ?_
          · rintro m' ⟨⟩
            exact ⟨hl₂.found.trans hf,hk,rfl,rfl⟩
          · rintro (_ | c) l₃ ⟨hl₃,hr₃,-⟩
            · exact .pure (hb₂.carries hl₃ hr₃).settled
            · exact ingressRewrite_keeps (hb₂.carries hl₃ hr₃).settled _ idx _ _
        · exact .pure hb₂.settled

theorem ingressTranslate_keeps (h : l.Bare) (skb : Skb) (idx : ScanIpv4Idx) (pair : Inet4Pair) :
    Keeps env (fun _ => Settled) (ingressTranslate env skb idx pair) l := by
  refine (nat4CtIngressResolve_keeps h.toReady _).call ?_
  rintro (_ | c | _) l₁ ⟨hl,hr⟩
  · have hb := h.carries hl hr
    dsimp only
    split
    · exact ingressOpen_keeps hb skb idx
    · exact .pure hb.settled
  · exact ingressRewrite_keeps (h.carries hl hr).settled _ idx _ _
  · exact .pure (h.carries hl hr).settled

theorem natV4Prologue_keeps (h : l.Bare) (skb : Skb)
    {translate : ScanIpv4Idx → Inet4Pair → M (TcAct × Skb)}
    (ht : ∀ idx pair, Keeps env (fun _ => Settled) (translate idx pair) l) :
    Keeps env (fun _ => Settled) (natV4Prologue env skb translate) l := by
  unfold natV4Prologue
  split
  · exact .pure h.settled
  split
  · exact .pure h.settled
  split
  · exact .pure h.settled
  split
  · exact .pure h.settled
  refine (frag4Track_keeps _ _).call ?_
  rintro (_ | pair) l₁ rfl
  · exact .pure h.settled
  · exact ht _ pair

theorem start_bare : (Log.start none).Bare := ⟨⟨rfl,rfl,rfl⟩,rfl,rfl,rfl,rfl⟩

theorem tcNatV4EgressDo_keeps (skb : Skb) :
    Keeps env (fun _ => Done) (tcNatV4EgressDo env skb >>= fun _ => pure ()) (.start none) :=
  (natV4Prologue_keeps start_bare skb (egressTranslate_keeps start_bare skb)).call
    fun _ _ h => .pure h.1

theorem tcNatV4IngressDo_keeps (skb : Skb) :
    Keeps env (fun _ => Done) (tcNatV4IngressDo env skb >>= fun _ => pure ()) (.start none) :=
  (natV4Prologue_keeps start_bare skb (ingressTranslate_keeps start_bare skb)).call
    fun _ _ h => .pure h.1

end Landscape.Nat4
