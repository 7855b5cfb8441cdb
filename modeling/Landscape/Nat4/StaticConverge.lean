import Landscape.Nat4.StaticService

/-! The static map converges to the stored mappings. -/
namespace Landscape.Nat4.Static
open Broadcast Interleave Store Table Nat4 Function List Bool
variable {s s' : State} {α : Type}

/-- Whether a task still has to write the map (`owes`) or to wake the observer (`wakes`), whether
one of its reads has failed, and what it has read. -/
structure Log where
  owes : Bool
  wakes : Bool
  failed : Bool
  mappings : List StaticNatMappingV4Config
  devices : List EnrolledDevice
  seen : StaticEntries
  todo : List (MappingKey × StaticValue)

def Log.start : Log := ⟨false,false,false,[],[],∅,[]⟩

variable (l : Log)

def Log.desired : StaticEntries :=
  if l.failed then buildStaticNat4Entries []
    else buildStaticNat4Entries (runtimeConfigs l.mappings l.devices)

def Log.change (changed : Bool) : Log := { l with owes := l.owes || changed }

def Log.onSave (r : Option (List (Change StaticNatMappingV4Config))) : Log := l.change r.isSome
def Log.onDelete (r : Option StaticNatMappingV4Config) : Log := l.change r.isSome
def Log.onDevice (r : Option EnrolledDevice) : Log := { l with wakes := l.wakes || r.isSome }

def Log.onList : Option (List StaticNatMappingV4Config) → Log
  | none => { l with failed := true }
  | some mappings => { l with mappings := mappings }

def Log.onFind : Option (List EnrolledDevice) → Log
  | none => { l with failed := true }
  | some devices => { l with devices := devices }

def Log.onSnapshot (current : StaticEntries) : Log :=
  { l with
    seen := current
    todo := upsertEntries current l.desired
    owes := deleteKeys current l.desired ≠ [] || upsertEntries current l.desired ≠ [] }

def record : (o : Op) → Res o → Log
  | .saveMappings _ _, r => l.onSave r
  | .deleteMapping _, r => l.onDelete r
  | .saveDevice _, _ => { l with wakes := true }
  | .deleteDevice _, r => l.onDevice r
  | .sendEvent, _ => { l with wakes := false }
  | .listMappings, r => l.onList r
  | .findDevices _, r => l.onFind r
  | .snapshot, r => l.onSnapshot r
  | .deleteBatch keys, _ => { l with seen := deleteBatch l.seen keys, owes := l.todo ≠ [] }
  | .updateBatch entries, _ => { l with seen := updateBatch l.seen entries, owes := false }

def launch (c : Call) (s : State) : Option (State × Thread Op Res Log) :=
  match c with
  | .observe =>
    if s.alive && s.events.pending then
      if s.events.lagged then some ({ s with events := s.events.recv, alive := false },
        ⟨pure (),.start⟩)
      else some ({ s with events := s.events.recv }, ⟨c.run,{ Log.start with owes := true }⟩)
    else none
  | _ => some (s, ⟨c.run,.start⟩)

def machine : Sys Op Res State Log Call := ⟨exec,record,launch⟩

def contract : Contract Op Res Log where
  Allowed l
    | .deleteBatch keys => keys = deleteKeys l.seen l.desired ∧
        l.todo = upsertEntries l.seen l.desired
    | .updateBatch entries => ∀ k, (updateBatch l.seen entries).lookup k = l.desired.lookup k
    | _ => True
  Answers _ _ _ := True

abbrev Keeps (Q : α → Log → Prop) (p : M α) (l : Log) : Prop := Meets machine contract Q p l

def Log.Settled : Prop := l.owes = false ∧ l.wakes = false

theorem applyRawMapDiff_keeps {l : Log} {keys : List MappingKey}
    {entries : List (MappingKey × StaticValue)} (hw : l.wakes = false)
    (hk : keys = deleteKeys l.seen l.desired) (he : entries = upsertEntries l.seen l.desired)
    (ht : l.todo = entries) (ho : l.owes = (keys ≠ [] || entries ≠ [])) :
    Keeps (fun _ => Log.Settled) (applyRawMapDiff keys entries) l := by
  have hupdate : ∀ l' : Log, l'.wakes = false → l'.owes = decide (entries ≠ []) →
      (∀ k, (updateBatch l'.seen entries).lookup k = l'.desired.lookup k) →
      Keeps (fun _ => Log.Settled)
        (if entries ≠ [] then (.perform (Op.updateBatch entries) : M Unit) else pure ()) l' := by
    intro l' hw' ho' hlook
    split
    · exact .step hlook fun _ _ => ⟨rfl,hw'⟩
    · rename_i hnil
      exact ⟨by simpa [hnil] using ho',hw'⟩
  have hrec := lookup_reconcile l.seen l.desired
  rw [← hk, ← he] at hrec
  unfold applyRawMapDiff
  by_cases hkeys : keys = []
  · subst hkeys
    exact hupdate l hw (by simpa using ho) hrec
  · simp only [ne_eq, hkeys, not_false_eq_true, if_true]
    refine .step ⟨hk,ht.trans he⟩ fun _ _ => hupdate _ hw ?_ hrec
    simp [machine, record, ht]

theorem syncStaticNat4_keeps {l : Log} {configs : List RuntimeStaticNatMappingV4Config}
    (hw : l.wakes = false) (hd : l.desired = buildStaticNat4Entries configs) :
    Keeps (fun _ => Log.Settled) (syncStaticNat4 configs) l := by
  refine .step trivial fun current _ => ?_
  rw [← hd]
  exact applyRawMapDiff_keeps hw rfl rfl rfl rfl

/-- A refresh brings the map to what it has read, or to nothing if it could not read. -/
theorem refreshRuntimeRules_keeps {l : Log} (hw : l.wakes = false) (hf : l.failed = false) :
    Keeps (fun _ => Log.Settled) refreshRuntimeRules l := by
  refine .bind (.step trivial fun r _ => ?_)
  match r with
  | none => exact syncStaticNat4_keeps hw rfl
  | some configs =>
    refine .step trivial fun r _ => ?_
    match r with
    | none => exact syncStaticNat4_keeps hw rfl
    | some devices =>
      refine syncStaticNat4_keeps hw ?_
      simp [machine, record, Log.onList, Log.onFind, Log.desired, hf]

theorem call_keeps (c : Call) (hc : c ≠ .observe) : Keeps (fun _ => Log.Settled) c.run .start := by
  cases c with
  | save now configs | delete id =>
    refine .step trivial fun r _ => ?_
    match r with
    | none => exact ⟨rfl,rfl⟩
    | some _ => exact refreshRuntimeRules_keeps rfl rfl
  | saveDevice device => exact .step trivial fun _ _ => .step trivial fun _ _ => ⟨rfl,rfl⟩
  | deleteDevice id =>
    refine .step trivial fun r _ => ?_
    match r with
    | none => exact ⟨rfl,rfl⟩
    | some _ => exact .step trivial fun _ _ => ⟨rfl,rfl⟩
  | observe => exact absurd rfl hc

def expected (s : State) : StaticEntries :=
  buildStaticNat4Entries (runtimeConfigs s.mappings s.devices)

def Converged (s : State) : Prop := ∀ k, s.table.lookup k = (expected s).lookup k

/-- A task whose read has failed takes away no entry that is right. -/
def FailureKeeps (c : Config Op Res State Log) : Prop :=
  ∀ t o cont l, c.threads t = some ⟨.op o cont,l⟩ → l.failed = true →
    ∀ k v, (expected c.shared).lookup k = some v → c.shared.table.lookup k = some v →
      (exec o c.shared).2.table.lookup k = some v

/-- The mappings and devices a task has read are those of the store. -/
def Current (s : State) (l : Log) : Prop :=
  s.mappings = l.mappings ∧ (s.devices.filter fun d => (deviceIds l.mappings).contains d.id) =
    l.devices

/-- No read fails, no event is sent to a full channel, and a task reads and writes the map while
what it has read before is in force. -/
def currentSchedule : Schedule Op State Log Call where
  starts _ _ := True
  acts s logs t
    | .listMappings | .findDevices _ => s.fails s.reads = false
    | .sendEvent => s.events.queued < deviceBroadcastCapacity
    | .snapshot => ∀ l, logs t = some l → Current s l
    | .deleteBatch _ | .updateBatch _ => ∀ l, logs t = some l → Current s l ∧ s.table = l.seen
    | _ => True

structure Inv (s : State) (logs : Nat → Option Log) : Prop where
  alive : s.alive = true
  lagged : s.events.lagged = false
  failed : ∀ t l, logs t = some l → l.failed = false
  owed : Owed (Converged s ∨ s.events.pending = true) (fun l => l.owes = true ∨ l.wakes = true) logs

section Step
variable {logs : Nat → Option Log} {t : Nat} {l l' : Log}

theorem desired_of_current (h : Current s l) (hf : l.failed = false) : l.desired = expected s := by
  unfold Log.desired expected
  rw [if_neg (by simp [hf]), ← h.1, ← runtimeConfigs_filter s.mappings s.devices, h.1, h.2]

theorem failed_update (h : ∀ t l, logs t = some l → l.failed = false) (hl : l'.failed = false) :
    ∀ u x, update logs t (some l') u = some x → x.failed = false := by
  intro u x hx
  rcases Table.update_eq_some hx with ⟨-,⟨⟩⟩ | ⟨-,hx⟩
  · exact hl
  · exact h u x hx

/- A step after which the task has a debt, or the map is right, or an event is pending. -/
theorem inv_act (h : Inv s logs) (ht : logs t = some l) (halive : s'.alive = s.alive)
    (hlagged : s'.events.lagged = s.events.lagged) (hfailed : l'.failed = l.failed)
    (hnew : Converged s' ∨ s'.events.pending = true ∨ l'.owes = true ∨ l'.wakes = true) :
    Inv s' (update logs t (some l')) := by
  refine ⟨halive.trans h.alive,hlagged.trans h.lagged,
    failed_update h.failed (hfailed.trans (h.failed t l ht)),h.owed.act ht (fun _ => ?_)
      fun _ => ?_⟩ <;>
  · rcases hnew with hc | hp | ho
    · exact .inl (.inl hc)
    · exact .inl (.inr hp)
    · exact .inr ho

theorem inv_same (h : Inv s logs) (ht : logs t = some l) (halive : s'.alive = s.alive)
    (hevents : s'.events = s.events) (hexp : expected s' = expected s) (htable : s'.table = s.table)
    (hfailed : l'.failed = l.failed) (howes : l'.owes = l.owes) (hwakes : l'.wakes = l.wakes) :
    Inv s' (update logs t (some l')) := by
  refine ⟨halive.trans h.alive,(congrArg (·.lagged) hevents).trans h.lagged,
    failed_update h.failed (hfailed.trans (h.failed t l ht)),h.owed.act ht (fun hg => .inl ?_)
      fun ho => .inr ?_⟩
  · rcases hg with hc | hp
    · exact .inl fun k => by rw [htable, hexp]; exact hc k
    · exact .inr (by rw [hevents]; exact hp)
  · rw [howes, hwakes]
    exact ho

end Step

theorem read_ok (a : α) (h : s.fails s.reads = false) :
    s.read a = (some a, { s with reads := s.reads + 1 }) := by
  simp [State.read, h]

theorem static_outline : Outline machine contract currentSchedule Log.Settled Inv where
  start s logs t e s' th h ht _ hl := by
    by_cases he : e = .observe
    · subst he
      simp only [machine, launch, h.alive, h.lagged, Bool.true_and, Bool.false_eq_true,
        if_false] at hl
      split at hl
      · cases hl
        refine ⟨⟨rfl,?_,failed_update h.failed rfl,h.owed.start ht _ fun _ => .inr (.inl rfl)⟩,
          refreshRuntimeRules_keeps rfl rfl⟩
        simp [EventQueue.recv, h.lagged]
      · cases hl
    · have hstart : launch e s = some (s, ⟨e.run,.start⟩) := by
        cases e <;> first | rfl | exact absurd rfl he
      cases hstart.symm.trans hl
      exact ⟨⟨h.alive,h.lagged,failed_update h.failed rfl,h.owed.start ht _ .inl⟩,call_keeps e he⟩
  act s logs t l o h ht ha hc := by
    refine ⟨trivial,?_⟩
    have hf := h.failed t l ht
    cases o with
    | saveMappings now configs =>
      simp only [machine, record, exec]
      cases checkedUpsertMany now s.mappings configs with
      | none => exact inv_same h ht rfl rfl rfl rfl rfl (by simp [Log.onSave, Log.change]) rfl
      | some r =>
        exact inv_act h ht rfl rfl rfl (.inr (.inr (.inl (by simp [Log.onSave, Log.change]))))
    | deleteMapping id =>
      simp only [machine, record, exec]
      cases hfind : (deleteAndGet s.mappings id).1 with
      | none =>
        refine inv_same h ht rfl rfl ?_ rfl rfl (by simp [Log.onDelete, Log.change]) rfl
        have hsame : (deleteAndGet s.mappings id).2 = s.mappings := by
          refine filter_eq_self.mpr fun c hc => ?_
          simpa using find_eq_none hfind hc
        simp [expected, hsame]
      | some old =>
        exact inv_act h ht rfl rfl rfl (.inr (.inr (.inl (by simp [Log.onDelete, Log.change]))))
    | saveDevice device => exact inv_act h ht rfl rfl rfl (.inr (.inr (.inr rfl)))
    | deleteDevice id =>
      simp only [machine, record, exec]
      cases hfind : s.devices.find? fun d => d.id = id with
      | none =>
        refine inv_same h ht rfl rfl ?_ rfl rfl rfl (by simp [Log.onDevice])
        have hsame : (s.devices.filter fun d => d.id ≠ id) = s.devices := by
          refine filter_eq_self.mpr fun d hd => ?_
          simpa using find?_eq_none.mp hfind d hd
        exact congrArg (fun ds => buildStaticNat4Entries (runtimeConfigs s.mappings ds)) hsame
      | some old => exact inv_act h ht rfl rfl rfl (.inr (.inr (.inr (by simp [Log.onDevice]))))
    | sendEvent => exact inv_act h ht rfl (send_lagged ha) rfl (.inr (.inl (send_pending _)))
    | listMappings =>
      show Inv (s.read s.mappings).2 (update logs t (some (l.onList (s.read s.mappings).1)))
      rw [read_ok _ ha]
      exact inv_same h ht rfl rfl rfl rfl rfl rfl rfl
    | findDevices ids =>
      let found := s.devices.filter fun d => ids.contains d.id
      show Inv (s.read found).2 (update logs t (some (l.onFind (s.read found).1)))
      rw [read_ok _ ha]
      exact inv_same h ht rfl rfl rfl rfl rfl rfl rfl
    | snapshot =>
      have hd := desired_of_current (ha l ht) hf
      refine inv_act h ht rfl rfl rfl ?_
      by_cases hdiff : deleteKeys s.table l.desired = [] ∧ upsertEntries s.table l.desired = []
      · refine .inl fun k => ?_
        have hrec := lookup_reconcile s.table l.desired k
        rw [hdiff.1, hdiff.2, hd] at hrec
        exact hrec
      · refine .inr (.inr (.inl ?_))
        simpa [machine, record, exec, Log.onSnapshot, ← not_and_or] using hdiff
    | deleteBatch keys =>
      obtain ⟨hcur,htable⟩ := ha l ht
      obtain ⟨rfl,htodo⟩ := hc
      refine inv_act h ht rfl rfl rfl ?_
      by_cases hnil : l.todo = []
      · refine .inl fun k => ?_
        have hrec := lookup_reconcile l.seen l.desired k
        rw [← htodo, hnil] at hrec
        show (deleteBatch s.table (deleteKeys l.seen l.desired)).lookup k = (expected s).lookup k
        rw [htable, ← desired_of_current hcur hf]
        exact hrec
      · exact .inr (.inr (.inl (by simp [machine, record, hnil])))
    | updateBatch entries =>
      obtain ⟨hcur,htable⟩ := ha l ht
      refine inv_act h ht rfl rfl rfl (.inl fun k => ?_)
      have hlook : (updateBatch l.seen entries).lookup k = l.desired.lookup k := hc k
      rw [desired_of_current hcur hf, ← htable] at hlook
      exact hlook
  finish s logs t l h ht hfin := by
    refine ⟨h.alive,h.lagged,?_,h.owed.finish ht (by simp [hfin.1, hfin.2])⟩
    intro u x hx
    by_cases hu : u = t
    · subst hu
      simp at hx
    · exact h.failed u x (by simpa [hu] using hx)

structure Started (s : State) : Prop where
  alive : s.alive = true
  lagged : s.events.lagged = false
  converged : Converged s

/-- In every run that keeps to the schedule no entry is lost to a failed read, and the map is that
of the store once all calls have returned and no event is left. -/
theorem static_converges_of_current {s₀ : State} (h₀ : Started s₀) {c : Config Op Res State Log}
    (h : Reach machine currentSchedule ⟨s₀,fun _ => none⟩ c) : FailureKeeps c ∧
      ((∀ t, c.threads t = none) → c.shared.events.pending = false → Converged c.shared) := by
  have hinv := static_outline.reach ⟨h₀.alive,h₀.lagged,by simp,.inl (.inl h₀.converged)⟩ h
  constructor
  · intro t o cont l ht hf
    have := hinv.failed t l (by simp [logsOf, ht])
    simp [hf] at this
  · intro hidle hevents
    rcases hinv.owed.quiet fun t => by simp [logsOf, hidle t] with hc | hp
    · exact hc
    · simp [hevents] at hp

def State.empty (fails : Nat → Bool) : State := ⟨[],[],∅,⟨0,false⟩,true,fails,0⟩

theorem started_empty (fails : Nat → Bool) : Started (.empty fails) := ⟨rfl,rfl,fun _ => rfl⟩

def currentRead (s : State) (l : Log) : Bool :=
  s.mappings = l.mappings && (s.devices.filter fun d => (deviceIds l.mappings).contains d.id) =
    l.devices

theorem current_of_read {l : Log} (h : currentRead s l = true) : Current s l := by
  simpa [currentRead, Current] using h

def currentCheck (s : State) (logs : Nat → Option Log) (t : Nat) : Op → Bool
  | .listMappings | .findDevices _ => !s.fails s.reads
  | .sendEvent => s.events.queued < deviceBroadcastCapacity
  | .snapshot => (logs t).all fun l => currentRead s l
  | .deleteBatch _ | .updateBatch _ =>
    (logs t).all fun l => currentRead s l && s.table.entries = l.seen.entries
  | _ => true

theorem current_of_check {logs : Nat → Option Log} {t : Nat} {o : Op}
    (h : currentCheck s logs t o = true) : currentSchedule.acts s logs t o := by
  have hbatch : ((logs t).all fun l => currentRead s l && s.table.entries = l.seen.entries) = true →
      ∀ l, logs t = some l → Current s l ∧ s.table = l.seen := by
    intro h l hl
    simp only [hl, Option.all_some, and_eq_true, decide_eq_true_eq] at h
    exact ⟨current_of_read h.1,AList.ext h.2⟩
  cases o with
  | listMappings | findDevices ids => exact (not_eq_true' _).mp h
  | sendEvent =>
    have hlt : s.events.queued < deviceBroadcastCapacity := of_decide_eq_true h
    exact hlt
  | snapshot =>
    intro l hl
    exact current_of_read (by simpa [currentCheck, hl] using h)
  | deleteBatch keys | updateBatch entries => exact hbatch h
  | _ => trivial

def sampleMapping (id : Uuid) (wanPort : UInt16) : StaticNatMappingV4Config :=
  ⟨id,true,[⟨wanPort,80⟩],some (.address 0x0a000002),[6],0⟩

def sampleStaticKey (wanPort : UInt16) : MappingKey := ⟨.ingress,6,wanPort,0⟩

def callRun (t : Nat) (call : Call) (n : Nat) : List (Label Call) :=
  .start t call :: (replicate n (.act t) ++ [.finish t])

def savesInOrder : List (Label Call) :=
  callRun 0 (.save 1 [sampleMapping 1 8080]) 5 ++ callRun 0 (.saveDevice ⟨5,none⟩) 2 ++
    callRun 0 .observe 3

theorem static_converges_sample : ∃ c,
    Reach machine currentSchedule ⟨.empty fun _ => false,fun _ => none⟩ c ∧
      (c.shared.table.lookup (sampleStaticKey 8080)).isSome = true ∧ Converged c.shared := by
  obtain ⟨c,hc,hidle,hevents,hsome⟩ := reach_of_quietRun machine savesInOrder 1
    (.empty fun _ => false) (fun _ _ _ _ _ => current_of_check) (fun _ _ => trivial)
    (fun s => s.events.pending = false ∧ (s.table.lookup (sampleStaticKey 8080)).isSome)
      (by decide +kernel)
  exact ⟨c,hc,hsome,(static_converges_of_current (started_empty _) hc).2 hidle hevents⟩

/- The second save cannot read the mappings; its refresh is about to clear the map. -/
def failedRead : List (Label Call) :=
  callRun 0 (.save 1 [sampleMapping 1 8080]) 5 ++
    .start 0 (.save 2 [sampleMapping 2 9090]) :: replicate 3 (.act 0)

def clears (c : Config Op Res State Log) (k : MappingKey) (v : StaticValue) : Bool :=
  match c.threads 0 with
  | some ⟨.op (.deleteBatch keys) _,l⟩ => l.failed && keys.contains k &&
      (expected c.shared).lookup k = some v && c.shared.table.lookup k = some v
  | _ => false

theorem failureKeeps_fails : ¬∀ (s₀ : State) (c : Config Op Res State Log), Started s₀ →
    Reach machine (.any Op State Log Call) ⟨s₀,fun _ => none⟩ c → FailureKeeps c := by
  intro hall
  obtain ⟨c,hc,-,hclears⟩ := reach_of_check machine failedRead 1 (.empty fun n => n = 2)
    Schedule.any_acts (fun _ _ => trivial) (fun c => clears c (sampleStaticKey 8080)
      ⟨0x0a000002,80⟩ = true)
    (by decide +kernel) (by decide +kernel)
  have hkeep := hall _ c (started_empty _) hc
  unfold clears at hclears
  split at hclears
  · rename_i keys cont l ht
    simp only [and_eq_true, decide_eq_true_eq, contains_iff_mem] at hclears
    obtain ⟨⟨⟨hf,hmem⟩,hexp⟩,htable⟩ := hclears
    have hlook := hkeep 0 _ cont l ht hf _ _ hexp htable
    simp [exec, lookup_deleteBatch, hmem] at hlook
  · cases hclears

/- The refresh of the first save reads before the second save, and writes after it. -/
def lateRefresh : List (Label Call) :=
  .start 0 (.save 1 [sampleMapping 1 8080]) :: replicate 3 (.act 0) ++
    callRun 1 (.save 2 [sampleMapping 2 9090]) 5 ++ replicate 3 (.act 0) ++ [.finish 0]

theorem converged_fails : ¬∀ (s₀ : State) (c : Config Op Res State Log), Started s₀ →
    (∀ n, s₀.fails n = false) → Reach machine (.any Op State Log Call) ⟨s₀,fun _ => none⟩ c →
      (∀ t, c.threads t = none) → c.shared.events.pending = false → Converged c.shared := by
  intro hall
  obtain ⟨c,hc,hidle,hevents,hnone,hsome⟩ := reach_of_quietRun machine lateRefresh 2
    (.empty fun _ => false) Schedule.any_acts (fun _ _ => trivial)
    (fun s => s.events.pending = false ∧ (s.table.lookup (sampleStaticKey 9090)).isNone ∧
      ((expected s).lookup (sampleStaticKey 9090)).isSome) (by decide +kernel)
  have hconv := hall _ c (started_empty _) (fun _ => rfl) hc hidle hevents (sampleStaticKey 9090)
  simp [← hconv, Option.isNone_iff_eq_none.mp hnone] at hsome

/-- Both halves fail: a failed read clears the map, and a late refresh undoes a newer one. -/
theorem static_converges_fails : (¬∀ (s₀ : State) (c : Config Op Res State Log), Started s₀ →
      Reach machine (.any Op State Log Call) ⟨s₀,fun _ => none⟩ c → FailureKeeps c) ∧
    ¬∀ (s₀ : State) (c : Config Op Res State Log), Started s₀ →
      (∀ n, s₀.fails n = false) → Reach machine (.any Op State Log Call) ⟨s₀,fun _ => none⟩ c →
        (∀ t, c.threads t = none) → c.shared.events.pending = false → Converged c.shared :=
  ⟨failureKeeps_fails,converged_fails⟩

end Landscape.Nat4.Static
