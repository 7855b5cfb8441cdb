import Landscape.Flow.EntryRules
import Landscape.Lib.Run

/-! No two flows write the same entry of the flow match map, as long as the rules name networks by
their first address and a batch does not disagree with itself. -/
namespace Landscape.Flow
open Checks Lpm Route Run Store Table Function List Option

variable {devices : DevicesById} {links : NetIfaceMap} {c c' : FlowConfig}
  {stored stored' configs : List FlowConfig} {mode mode' : FlowEntryMatchMode} {k : FlowMatchKey}
  {rule : FlowEntryRule} {r : ResolvedFlowEntryRule} {checked : List FlowConfig}

def FlowConfig.entries (devices : DevicesById) (c : FlowConfig) : List FlowMatchKey :=
  (c.flowMatchRules.filterMap (resolveFlowEntryRule devices)).map
    fun rule => (flowMatchKeyFromRule rule).entry

def EntriesApart (devices : DevicesById) (stored : List FlowConfig) : Prop :=
  ∀ c ∈ stored, ∀ c' ∈ stored, c.enable = true → c'.enable = true → c.id ≠ c'.id →
    ∀ k ∈ c.entries devices, k ∉ c'.entries devices

/-- The flow match map is the same in whatever order the flows are listed and their entries are
written. -/
def OrderFree (devices : DevicesById) (stored : List FlowConfig) : Prop :=
  ∀ listed listed', listed.Perm (listRuntimeConfigs devices stored) →
    listed'.Perm (listRuntimeConfigs devices stored) →
    ∀ order order', order.Perm ((buildFlowMatchEntries listed).entries.map fun e => (e.1, e.2)) →
      order'.Perm ((buildFlowMatchEntries listed').entries.map fun e => (e.1, e.2)) →
      writeEntries order = writeEntries order'

def FlowEntryMatchMode.isNetwork : FlowEntryMatchMode → Bool
  | .ip (.v4 a) prefixLen =>
    a.toBitVec >>> (32 - prefixLen.toNat) <<< (32 - prefixLen.toNat) == a.toBitVec
  | .ip (.v6 a) prefixLen => a >>> (128 - prefixLen.toNat) <<< (128 - prefixLen.toNat) == a
  | _ => true

def FlowEntryMatchMode.entry : FlowEntryMatchMode → Option FlowMatchKey
  | .mac macAddr => some (.mac macAddr)
  | .ip addr prefixLen => some (.ip (.around prefixLen.toNat addr))
  | .device _ => none

theorem eq_of_around_eq {w len len' : Nat} {a b : BitVec w}
    (h : Net.around len a = Net.around len' b) (ha : a >>> (w - len) <<< (w - len) = a)
    (hb : b >>> (w - len') <<< (w - len') = b) : len = len' ∧ a = b := by
  obtain ⟨rfl,hbits⟩ := (Net.mk.injEq ..).mp h
  refine ⟨rfl,?_⟩
  calc a = a >>> (w - len) <<< (w - len) := ha.symm
    _ = b >>> (w - len) <<< (w - len) := by rw [hbits]
    _ = b := hb

theorem mode_eq_of_entry_eq (h : mode.entry = some k) (h' : mode'.entry = some k)
    (hn : mode.isNetwork = true) (hn' : mode'.isNetwork = true) : mode = mode' := by
  have heq := h.trans h'.symm
  cases mode with
  | mac m =>
    cases mode' with
    | mac m' => exact congrArg FlowEntryMatchMode.mac (FlowMatchKey.mac.inj (some.inj heq))
    | ip => cases heq
    | device => cases h'
  | ip addr len =>
    cases mode' with
    | mac => cases heq
    | ip addr' len' =>
      have hnet := FlowMatchKey.ip.inj (some.inj heq)
      cases addr with
      | v4 a =>
        cases addr' with
        | v4 b =>
          obtain ⟨hlen,haddr⟩ :=
            eq_of_around_eq (IpNet.v4.inj hnet) (beq_iff_eq.mp hn) (beq_iff_eq.mp hn')
          rw [UInt8.toNat_inj.mp hlen, UInt32.toBitVec_inj.mp haddr]
        | v6 => cases hnet
      | v6 a =>
        cases addr' with
        | v4 => cases hnet
        | v6 b =>
          obtain ⟨hlen,haddr⟩ :=
            eq_of_around_eq (IpNet.v6.inj hnet) (beq_iff_eq.mp hn) (beq_iff_eq.mp hn')
          rw [UInt8.toNat_inj.mp hlen, haddr]
    | device => cases h'
  | device => cases h

theorem entry_of_resolveFlowEntryRule (h : resolveFlowEntryRule devices rule = some r)
    (hn : rule.mode.isNetwork = true) : ∃ mode, resolveFlowEntryMode devices rule.mode = some mode ∧
      mode.isNetwork = true ∧ mode.entry = some (flowMatchKeyFromRule r).entry := by
  unfold resolveFlowEntryRule at h
  split at h
  · rename_i deviceId hmode
    obtain ⟨m,hm,rfl⟩ := map_eq_some_iff.mp h
    refine ⟨.mac m,?_,rfl,congrArg some (entry_mac m).symm⟩
    rw [hmode, resolveFlowEntryMode, hm, map_some]
  · rename_i m hmode
    obtain rfl := some.inj h
    rw [hmode]
    exact ⟨.mac m,rfl,rfl,congrArg some (entry_mac m).symm⟩
  · rename_i addr len hmode
    obtain rfl := some.inj h
    rw [hmode] at hn ⊢
    exact ⟨.ip addr len,rfl,hn,congrArg some (entry_ip addr len).symm⟩

theorem hasMode_eq_true : c.hasMode devices mode = true ↔
    ∃ rule ∈ c.flowMatchRules, resolveFlowEntryMode devices rule.mode = some mode := by
  simp [FlowConfig.hasMode]

theorem exists_mode_of_mem_entries (hn : ∀ rule ∈ c.flowMatchRules, rule.mode.isNetwork = true)
    (h : k ∈ c.entries devices) :
    ∃ mode, c.hasMode devices mode = true ∧ mode.isNetwork = true ∧ mode.entry = some k := by
  obtain ⟨r,hr,rfl⟩ := mem_map.mp h
  obtain ⟨rule,hrule,hr⟩ := mem_filterMap.mp hr
  obtain ⟨mode,hmode,hnet,hentry⟩ := entry_of_resolveFlowEntryRule hr (hn rule hrule)
  exact ⟨mode,hasMode_eq_true.mpr ⟨rule,hrule,hmode⟩,hnet,hentry⟩

structure Distinct (devices : DevicesById) (stored : List FlowConfig) : Prop where
  networks : ∀ c ∈ stored, ∀ rule ∈ c.flowMatchRules, rule.mode.isNetwork = true
  apart : ∀ c ∈ stored, ∀ c' ∈ stored, c.id ≠ c'.id → ∀ mode, c.hasMode devices mode = true →
    c'.hasMode devices mode = false

theorem Distinct.entriesApart (h : Distinct devices stored) : EntriesApart devices stored := by
  intro c hc c' hc' _ _ hne k hk hk'
  obtain ⟨mode,hmode,hnet,hentry⟩ := exists_mode_of_mem_entries (h.networks c hc) hk
  obtain ⟨mode',hmode',hnet',hentry'⟩ := exists_mode_of_mem_entries (h.networks c' hc') hk'
  obtain rfl := mode_eq_of_entry_eq hentry hentry' hnet hnet'
  exact absurd hmode' (by rw [h.apart c hc c' hc' hne mode hmode]; decide)

def batchApart (devices : DevicesById) (configs : List FlowConfig) : Bool :=
  configs.all fun c => configs.all fun c' => c.id = c'.id || c.flowMatchRules.all fun rule =>
    (resolveFlowEntryMode devices rule.mode).all fun mode => !c'.hasMode devices mode

/-- The rules of a save name networks by their first address, and the flows of a batch have no mode
in common. -/
def networksApart (devices : DevicesById) : FlowEvent → Bool
  | .save _ _ configs =>
    (configs.all fun c => c.flowMatchRules.all (·.mode.isNetwork)) && batchApart devices configs
  | .delete _ => true

theorem apart_of_batchApart (h : batchApart devices configs = true) (hc : c ∈ configs)
    (hc' : c' ∈ configs) (hne : c.id ≠ c'.id) (hmode : c.hasMode devices mode = true) :
    c'.hasMode devices mode = false := by
  obtain ⟨rule,hrule,hresolved⟩ := hasMode_eq_true.mp hmode
  have hpair := all_eq_true.mp (all_eq_true.mp h c hc) c' hc'
  rw [decide_eq_false hne, Bool.false_or] at hpair
  have hall := all_eq_true.mp hpair rule hrule
  rw [hresolved, all_some] at hall
  exact Bool.not_eq_true' _ ▸ hall

structure Checked (devices : DevicesById) (stored : List FlowConfig) (c₀ c : FlowConfig) :
    Prop where
  id : c.id = c₀.id
  rules : c.flowMatchRules = c₀.flowMatchRules
  free : findResolvedConflictForModes devices stored c.id (c.flowMatchRules.map (·.mode)) = none

theorem checked_of_validateCross (h : FlowConfig.validateCross devices links stored c = .ok c') :
    Checked devices stored c c' := by
  obtain ⟨targets,-,h⟩ := bind_eq_ok.mp h
  obtain ⟨-,-,h⟩ := bind_eq_ok.mp h
  obtain ⟨-,-,h⟩ := bind_eq_ok.mp h
  obtain ⟨⟨⟩,hconflict,h⟩ := bind_eq_ok.mp h
  obtain rfl := Except.ok.inj h
  refine ⟨rfl,rfl,eq_none_iff_forall_ne_some.mpr fun x hx => ?_⟩
  cases ifSome_eq_ok.mp hconflict x hx

theorem checked_of_validateBatch
    (h : validateBatch devices links stored configs = .ok checked) (hc : c ∈ checked) :
    ∃ c₀ ∈ configs, Checked devices stored c₀ c := by
  induction configs generalizing checked with
  | nil => exact absurd (Except.ok.inj h ▸ hc) (not_mem_nil)
  | cons c₀ configs ih =>
    obtain ⟨-,-,h⟩ := bind_eq_ok.mp h
    obtain ⟨c',hcross,h⟩ := bind_eq_ok.mp h
    obtain ⟨rest,hrest,h⟩ := bind_eq_ok.mp h
    obtain rfl := Except.ok.inj h
    rcases mem_cons.mp hc with rfl | hc
    · exact ⟨c₀,mem_cons_self,checked_of_validateCross hcross⟩
    · obtain ⟨c₁,hc₁,hchecked⟩ := ih hrest hc
      exact ⟨c₁,mem_cons_of_mem c₀ hc₁,hchecked⟩

theorem not_hasMode_of_no_conflict
    (h : findResolvedConflictForModes devices stored c.id (c.flowMatchRules.map (·.mode)) = none)
    (hc' : c' ∈ stored) (hne : c'.id ≠ c.id) (hmode : c.hasMode devices mode = true) :
    c'.hasMode devices mode = false := by
  obtain ⟨rule,hrule,hresolved⟩ := hasMode_eq_true.mp hmode
  have hnone := findSome?_eq_none_iff.mp h rule.mode (mem_map.mpr ⟨rule,hrule,rfl⟩)
  rw [hresolved, bind_some, map_eq_none_iff] at hnone
  have hother := find?_eq_none.mp hnone c' hc'
  simpa [hne] using hother

theorem hasMode_congr (h : c.flowMatchRules = c'.flowMatchRules) :
    c.hasMode devices mode = c'.hasMode devices mode := by
  unfold FlowConfig.hasMode
  rw [h]

inductive Written (devices : DevicesById) (stored configs : List FlowConfig) (c : FlowConfig) :
    Prop where
  | old (h : c ∈ stored)
  | new (c₀ : FlowConfig) (hmem : c₀ ∈ configs) (hc : Checked devices stored c₀ c)

theorem written_of_save {now : Nat} {changes : List (Change FlowConfig)}
    (hv : validateBatch devices links stored configs = .ok checked)
    (hs : checkedUpsertMany now stored checked = some (changes, stored')) (hc : c ∈ stored') :
    Written devices stored configs c := by
  obtain ⟨hup,-⟩ := checkedUpsertMany_upserted hs
  rcases hup.back c hc with hold | ⟨change,hchange,rfl⟩
  · exact .old hold
  · obtain ⟨c',hc',ts,hnew⟩ := hup.source change hchange
    obtain ⟨c₀,hmem,hchecked⟩ := checked_of_validateBatch hv hc'
    rw [hnew]
    exact .new c₀ hmem ⟨hchecked.id,hchecked.rules,hchecked.free⟩

theorem Distinct.apart_of_written (h : Distinct devices stored)
    (hbatch : batchApart devices configs = true) (hc : Written devices stored configs c)
    (hc' : Written devices stored configs c') (hne : c.id ≠ c'.id)
    (hmode : c.hasMode devices mode = true) : c'.hasMode devices mode = false := by
  cases hc with
  | old hold =>
    cases hc' with
    | old hold' => exact h.apart c hold c' hold' hne mode hmode
    | new c₀ hmem hchecked =>
      by_contra hmode'
      have hnot := not_hasMode_of_no_conflict hchecked.free hold hne (Bool.not_eq_false _ ▸ hmode')
      exact absurd hmode (by rw [hnot]; decide)
  | new c₀ hmem hchecked =>
    cases hc' with
    | old hold' => exact not_hasMode_of_no_conflict hchecked.free hold' hne.symm hmode
    | new c₁ hmem' hchecked' =>
      rw [hasMode_congr hchecked.rules] at hmode
      rw [hasMode_congr hchecked'.rules]
      rw [hchecked.id, hchecked'.id] at hne
      exact apart_of_batchApart hbatch hmem hmem' hne hmode

theorem Distinct.step {e : FlowEvent} (hk : Keyed stored) (h : Distinct devices stored)
    (he : networksApart devices e = true) (hs : flowStep devices stored e = some stored') :
    Keyed stored' ∧ Distinct devices stored' := by
  cases e with
  | save now links configs =>
    obtain ⟨hnetworks,hbatch⟩ := Bool.and_eq_true _ _ ▸ he
    simp only [flowStep] at hs
    split at hs
    · exact some.inj hs ▸ ⟨hk,h⟩
    · rename_i checked hv
      split at hs
      · exact some.inj hs ▸ ⟨hk,h⟩
      · rename_i changes rows hup
        obtain rfl := some.inj hs
        refine ⟨(checkedUpsertMany_upserted hup).2 hk,?_,fun c hc c' hc' hne mode => ?_⟩
        · intro c hc rule hrule
          cases written_of_save hv hup hc with
          | old hold => exact h.networks c hold rule hrule
          | new c₀ hmem hchecked =>
            exact all_eq_true.mp (all_eq_true.mp hnetworks c₀ hmem) rule (hchecked.rules ▸ hrule)
        · exact h.apart_of_written hbatch (written_of_save hv hup hc)
            (written_of_save hv hup hc') hne
  | delete id =>
    obtain rfl := some.inj hs
    exact ⟨keyed_delete hk,fun c hc => h.networks c (mem_of_mem_filter hc),fun c hc c' hc' =>
      h.apart c (mem_of_mem_filter hc) c' (mem_of_mem_filter hc')⟩

variable {pairs order : List (RawFlowMatchKey × FlowId)} {key : RawFlowMatchKey} {f : FlowId}
  {listed : List RuntimeFlowConfig}

def Agreeing (pairs : List (RawFlowMatchKey × FlowId)) : Prop :=
  ∀ x ∈ pairs, ∀ y ∈ pairs, x.1.entry = y.1.entry → x.2 = y.2

theorem foldl_writeEntry_eq_some (h : Agreeing order) (m : FlowMatchKey → Option FlowId) :
    order.foldl writeEntry m k = some f ↔
      (∃ e ∈ order, e.1.entry = k ∧ e.2 = f) ∨ (∀ e ∈ order, e.1.entry ≠ k) ∧ m k = some f := by
  induction order generalizing m with
  | nil => simp
  | cons e order ih =>
    have htail : Agreeing order := fun x hx y hy =>
      h x (mem_cons_of_mem e hx) y (mem_cons_of_mem e hy)
    rw [foldl_cons, ih htail, writeEntry]
    by_cases hk : e.1.entry = k
    · subst hk
      rw [update_self]
      constructor
      · rintro (⟨x,hx,hentry⟩ | ⟨-,hf⟩)
        · exact .inl ⟨x,mem_cons_of_mem e hx,hentry⟩
        · exact .inl ⟨e,mem_cons_self,rfl,some.inj hf⟩
      · rintro (⟨x,hx,hentry,hf⟩ | ⟨hnone,-⟩)
        · by_cases hany : ∃ y ∈ order, y.1.entry = e.1.entry
          · obtain ⟨y,hy,hye⟩ := hany
            refine .inl ⟨y,hy,hye,?_⟩
            exact (h y (mem_cons_of_mem e hy) x hx (hye.trans hentry.symm)).trans hf
          · refine .inr ⟨fun y hy hye => hany ⟨y,hy,hye⟩,congrArg some ?_⟩
            exact (h e mem_cons_self x hx hentry.symm).trans hf
        · exact absurd rfl (hnone e mem_cons_self)
    · rw [update_of_ne (Ne.symm hk)]
      simp only [mem_cons, exists_eq_or_imp, forall_eq_or_imp, hk, false_and, false_or, ne_eq,
        not_false_eq_true, true_and]

theorem writeEntries_eq_some (h : Agreeing order) :
    writeEntries order k = some f ↔ ∃ e ∈ order, e.1.entry = k ∧ e.2 = f := by
  unfold writeEntries
  rw [foldl_writeEntry_eq_some h]
  simp

theorem mem_pairs_of_mem_build
    (h : (key, f) ∈ (buildFlowMatchEntries listed).entries.map fun e => (e.1, e.2)) :
    (key, f) ∈ runtimePairs listed := by
  obtain ⟨⟨key',f'⟩,he,heq⟩ := mem_map.mp h
  obtain ⟨rfl,rfl⟩ := Prod.mk.inj heq
  rcases mem_of_lookup_insertAll (AList.mem_lookup_iff.mpr he) with hmem | hnone
  · exact hmem
  · cases hnone

/-- If the pairs agree, the trie has the entries of the pairs, in whatever order they are
written. -/
theorem writeEntries_build (h : Agreeing (runtimePairs listed))
    (horder : order.Perm ((buildFlowMatchEntries listed).entries.map fun e => (e.1, e.2))) :
    writeEntries order k = some f ↔ ∃ e ∈ runtimePairs listed, e.1.entry = k ∧ e.2 = f := by
  have hsub : ∀ e ∈ order, e ∈ runtimePairs listed := fun e he =>
    mem_pairs_of_mem_build (horder.mem_iff.mp he)
  rw [writeEntries_eq_some fun x hx y hy => h x (hsub x hx) y (hsub y hy)]
  constructor
  · rintro ⟨e,he,hentry⟩
    exact ⟨e,hsub e he,hentry⟩
  · rintro ⟨e,he,hentry,hf⟩
    obtain ⟨f',hf'⟩ := lookup_of_mem (mem_insertAll (m := ∅) (.inl (mem_map.mpr ⟨e,he,rfl⟩)))
    have hmem : (e.1, f') ∈ (buildFlowMatchEntries listed).entries.map fun e => (e.1, e.2) :=
      mem_map.mpr ⟨⟨e.1,f'⟩,AList.mem_lookup_iff.mp hf',rfl⟩
    have hsame : e.2 = f' := h e he (e.1, f') (mem_pairs_of_mem_build hmem) rfl
    exact ⟨(e.1, f'),horder.mem_iff.mpr hmem,hentry,hsame.symm.trans hf⟩

theorem agreeing_of_entriesApart (hk : Keyed stored) (h : EntriesApart devices stored)
    (hperm : listed.Perm (listRuntimeConfigs devices stored)) :
    Agreeing (runtimePairs listed) := by
  have hpair : ∀ x ∈ runtimePairs listed, ∃ c ∈ stored, c.enable = true ∧ x.2 = c.flowId ∧
      x.1.entry ∈ c.entries devices := by
    intro x hx
    obtain ⟨rc,hrc,hx⟩ := mem_flatMap.mp hx
    obtain ⟨rule,hrule,rfl⟩ := mem_map.mp hx
    obtain ⟨c,hc,rfl⟩ := mem_map.mp (hperm.mem_iff.mp hrc)
    obtain ⟨hmem,henable⟩ := mem_filter.mp hc
    exact ⟨c,hmem,henable,rfl,mem_map.mpr ⟨rule,hrule,rfl⟩⟩
  intro x hx y hy hentry
  obtain ⟨c,hc,hen,hfx,hkx⟩ := hpair x hx
  obtain ⟨c',hc',hen',hfy,hky⟩ := hpair y hy
  by_cases hid : c.id = c'.id
  · rw [hfx, hfy, inj_on_of_nodup_map hk hc hc' hid]
  · exact absurd (hentry ▸ hky) (h c hc c' hc' hen hen' hid _ hkx)

theorem orderFree_of_entriesApart (hk : Keyed stored) (h : EntriesApart devices stored) :
    OrderFree devices stored := by
  intro listed listed' hperm hperm' order order' horder horder'
  funext k
  apply ext
  intro f
  rw [writeEntries_build (agreeing_of_entriesApart hk h hperm) horder,
    writeEntries_build (agreeing_of_entriesApart hk h hperm') horder']
  have hpairs : ∀ e, e ∈ runtimePairs listed ↔ e ∈ runtimePairs listed' := by
    intro e
    simp only [runtimePairs, mem_flatMap, hperm.mem_iff, hperm'.mem_iff]
  simp only [hpairs]

/-- No two flows stand for the same entry, and the flow match map does not depend on the order of
the flows, after any saves that name networks by their first address in batches without a common
mode. -/
theorem entriesApart_of_networksApart
    (hr : Runs (flowStep devices) (fun _ e => networksApart devices e = true) [] stored) :
    EntriesApart devices stored ∧ OrderFree devices stored := by
  have hstart : Keyed ([] : List FlowConfig) ∧ Distinct devices [] :=
    ⟨nodup_nil,fun _ h => (nomatch h),fun _ h => (nomatch h)⟩
  obtain ⟨hk,hd⟩ := hr.invariant (fun s => Keyed s ∧ Distinct devices s)
    (fun _ _ _ h he hs => h.2.step h.1 he hs) hstart
  exact ⟨hd.entriesApart,orderFree_of_entriesApart hk hd.entriesApart⟩

def ipFlow (id : Uuid) (flowId : FlowId) (a : UInt32) (prefixLen : UInt8) : FlowConfig :=
  ⟨id,true,flowId,[⟨.ip (.v4 a) prefixLen⟩],[],"","",0⟩

theorem entriesApart_sample : ∃ stored,
    Runs (flowStep fun _ => none) (fun _ e => networksApart (fun _ => none) e = true) [] stored ∧
      stored.length = 2 ∧ EntriesApart (fun _ => none) stored ∧
      OrderFree (fun _ => none) stored := by
  refine runs_and (runs_of_decide _ _ [.save 1 (fun _ => none) [ipFlow 1 1 0x0a000000 8],
    .save 2 (fun _ => none) [ipFlow 2 2 0x0a010000 16]] _ _ (by decide +kernel)) ?_
  exact fun _ hrun _ => entriesApart_of_networksApart hrun

def AlwaysEntriesApart : Prop :=
  ∀ (devices : DevicesById) (stored : List FlowConfig),
    Runs (flowStep devices) (fun _ _ => True) [] stored → EntriesApart devices stored

/-- 10.0.0.1/8 and 10.0.0.2/8 are different rules of two flows and the same entry of the trie. -/
theorem entriesApart_fails : ¬AlwaysEntriesApart := by
  intro h
  obtain ⟨stored,hrun,c,hc,c',hc',hen,hen',hne,k,hk,hk'⟩ :=
    runs_of_steps (flowStep fun _ => none) []
    [.save 1 (fun _ => none) [ipFlow 1 1 0x0a000001 8],
      .save 2 (fun _ => none) [ipFlow 2 2 0x0a000002 8]]
    (fun stored => ∃ c ∈ stored, ∃ c' ∈ stored, c.enable = true ∧ c'.enable = true ∧ c.id ≠ c'.id ∧
      ∃ k ∈ c.entries fun _ => none, k ∈ c'.entries fun _ => none) (by decide +kernel)
  exact h _ stored hrun c hc c' hc' hen hen' hne k hk hk'

end Landscape.Flow
