import Landscape.Chain.Calls

/-! The stages a packet has visited and those still ahead of it. -/
namespace Landscape.Chain
open Interleave Function
variable {m : Manager} {s s' : State} {i : Nat} {d : ChainDir} {e : StageEntry}
  {logs : Nat → Option Log} {t : Nat} {l l' : CallLog} {links links' : Slot → Option StageEntry}
  {c : Slot}

structure Ahead (links : Slot → Option StageEntry) (i : Nat) (d : ChainDir) (c : Slot)
    (e : StageEntry) : Prop where
  owner : c.owner = (i, d)
  path : ∃ es, Linked links d c es ∧ e ∈ es ∧ ∀ x ∈ es, x.ifindex = i

theorem Ahead.congr (h : Ahead links i d c e) (hl : ∀ x, x.owner = (i, d) → links' x = links x) :
    Ahead links' i d c e := by
  obtain ⟨es,hes,he,hi⟩ := h.path
  exact ⟨h.owner,es,hes.congr h.owner hi hl,he,hi⟩

theorem Ahead.next (h : Ahead links i d c e) {x : StageEntry} (hx : links c = some x) :
    e = x ∨ Ahead links i d (.next x d) e := by
  obtain ⟨es,hes,he,hi⟩ := h.path
  cases es with
  | nil => cases he
  | cons y ys =>
    cases hx.symm.trans hes.1
    rcases List.mem_cons.mp he with rfl | he
    · exact .inl rfl
    · refine .inr ⟨?_,ys,hes.2,he,fun z hz => hi z (List.mem_cons_of_mem _ hz)⟩
      simp [Slot.owner, hi x List.mem_cons_self]

theorem Ahead.slot_ne_none (h : Ahead links i d c e) : links c ≠ none := by
  obtain ⟨es,hes,he,-⟩ := h.path
  cases es with
  | nil => cases he
  | cons y ys =>
    rw [hes.1]
    simp

def InChain (s : State) (i : Nat) (d : ChainDir) (e : StageEntry) : Prop :=
  ∃ r, (s.chain i d).root = some r ∧ Ahead s.links i d (.root r) e

theorem InChain.of_kept (h : InChain s i d e)
    (hroot : ∀ r, (s.chain i d).root = some r → (s'.chain i d).root = some r)
    (hl : ∀ x, x.owner = (i, d) → s'.links x = s.links x) : InChain s' i d e := by
  obtain ⟨r,hr,h⟩ := h
  exact ⟨r,hroot r hr,h.congr hl⟩

theorem Right.inChain (h : Right s i d) (hs : Sound m s) (he : e ∈ stagesFor (s.installed i) d) :
    InChain s i d e := by
  obtain ⟨st,hst⟩ := mem_stagesFor he
  obtain ⟨r,hr⟩ := Option.ne_none_iff_exists'.mp (h.rooted ⟨st,by simp [hst]⟩)
  obtain ⟨hri,hrd,-⟩ := hs.owned i d r hr
  refine ⟨r,hr,by simp [Slot.owner, hri, hrd],_,h.linked r hr,he,fun x hx => ?_⟩
  obtain ⟨st',hst'⟩ := mem_stagesFor hx
  exact (hs.typed i st' x hst').1

def Awaits (i : Nat) (d : ChainDir) (e : StageEntry) : Log → Prop
  | .call l => l.ifindex = i ∧
      (l.entry = some e ∧ l.owes d = true ∨ ∃ ws, l.rebuilding = some (d, ws))
  | .packet _ => False

def Awaited (s : State) (logs : Nat → Option Log) : Prop :=
  ∀ i d e, e ∈ stagesFor (s.installed i) d → Owed (InChain s i d e) (Awaits i d e) logs

/- A step of a call that keeps the roots and the slots of the chains that still have stages. -/
theorem Awaited.of_kept (h : Awaited s logs) (ht : logs t = some (.call l))
    (hinst : ∀ i d e, e ∈ stagesFor (s'.installed i) d →
      e ∈ stagesFor (s.installed i) d ∨ Awaits i d e (.call l'))
    (hroot : ∀ i d r, stagesFor (s'.installed i) d ≠ [] → (s.chain i d).root = some r →
      (s'.chain i d).root = some r) (hlinks : s'.links = s.links)
    (hl : ∀ i d e, e ∈ stagesFor (s'.installed i) d → Awaits i d e (.call l) →
      InChain s' i d e ∨ Awaits i d e (.call l')) :
    Awaited s' (update logs t (some (.call l'))) := by
  intro i d e he
  rcases hinst i d e he with hold | hnew
  · refine (h i d e hold).act ht (fun hin => .inl (hin.of_kept ?_ ?_)) (hl i d e he)
    · exact fun r => hroot i d r (List.ne_nil_of_mem he)
    · intro x _
      rw [hlinks]
  · exact .inr ⟨t,_,update_self _ _ _,hnew⟩

/-! Each stage is put in by one call, and settled once that call has done its part. -/

structure Entries (s : State) (logs : Nat → Option Log) : Prop where
  below : ∀ t l e, logs t = some (.call l) → l.entry = some e →
    e.id < s.nextId ∧ e.ifindex = l.ifindex
  unique : ∀ t u l k e, logs t = some (.call l) → logs u = some (.call k) → l.entry = some e →
    k.entry = some e → t = u
  settled : ∀ i st e, s.settled i st = some e → s.installed i st = some e ∧
    ∀ t l, logs t = some (.call l) → l.entry = some e → l.owes = fun _ => false

theorem Entries.act (h : Entries s logs) (ht : logs t = some (.call l)) (hent : l'.entry = l.entry)
    (hif : l'.ifindex = l.ifindex) (hgrow : s.nextId ≤ s'.nextId)
    (hset : ∀ i st e, s'.settled i st = some e → s'.installed i st = some e ∧
      (s.settled i st = some e ∨ l.entry = some e) ∧
      (l.entry = some e → l'.owes = fun _ => false)) :
    Entries s' (update logs t (some (.call l'))) := by
  refine ⟨?_,?_,?_⟩
  · intro u k e hk he
    rcases log_update hk with ⟨-,hl⟩ | ⟨-,hk⟩
    · cases hl
      obtain ⟨h1,h2⟩ := h.below t l e ht (hent ▸ he)
      exact ⟨Nat.lt_of_lt_of_le h1 hgrow,h2.trans hif.symm⟩
    · obtain ⟨h1,h2⟩ := h.below u k e hk he
      exact ⟨Nat.lt_of_lt_of_le h1 hgrow,h2⟩
  · intro u v k k' e hk hk' he he'
    rcases log_update hk with ⟨hu,hl⟩ | ⟨-,hk⟩
    · cases hl
      rcases log_update hk' with ⟨hv,-⟩ | ⟨-,hk'⟩
      · exact hu.trans hv.symm
      · exact hu.trans (h.unique t v l k' e ht hk' (hent ▸ he) he')
    · rcases log_update hk' with ⟨hv,hl⟩ | ⟨-,hk'⟩
      · cases hl
        exact (h.unique u t k l e hk ht he (hent ▸ he')).trans hv.symm
      · exact h.unique u v k k' e hk hk' he he'
  · intro i st e he
    obtain ⟨hinst,hold,how⟩ := hset i st e he
    refine ⟨hinst,fun u k hk hke => ?_⟩
    rcases log_update hk with ⟨-,hl⟩ | ⟨hu,hk⟩
    · cases hl
      exact how (hent ▸ hke)
    · rcases hold with hold | hold
      · exact (h.settled i st e hold).2 u k hk hke
      · exact absurd (h.unique u t k l e hk ht hke hold) hu

structure OnWay (links : Slot → Option StageEntry) (p : PacketLog) : Prop where
  left : p.left ≠ none → p.missed = true
  missed : p.missed = true → ∀ e ∈ stagesFor p.entered p.dir, e ∈ p.visited
  ahead : ∀ c, p.at? = some c → p.missed = false → ∀ e ∈ stagesFor p.entered p.dir,
    e ∈ p.visited ∨ Ahead links p.ifindex p.dir c e

structure Walks (s : State) (logs : Nat → Option Log) : Prop where
  onWay : ∀ t p, logs t = some (.packet p) → OnWay s.links p
  apart : ∀ t p u l d ws, logs t = some (.packet p) → p.at? ≠ none → logs u = some (.call l) →
    l.rebuilding = some (d, ws) → (l.ifindex, d) ≠ (p.ifindex, p.dir)

theorem OnWay.congr {p : PacketLog} (h : OnWay links p)
    (hl : p.at? ≠ none → ∀ x, x.owner = (p.ifindex, p.dir) → links' x = links x) :
    OnWay links' p := by
  refine ⟨h.left,h.missed,fun c hc hm e he => ?_⟩
  exact (h.ahead c hc hm e he).imp_right fun ha => ha.congr (hl (by simp [hc]))

/- A step of a call: the slots of chains with packets in them stay as they are. -/
theorem Walks.call {x : Log} (h : Walks s logs) (hx : ∀ p, x ≠ .packet p)
    (hlinks : ∀ u p, logs u = some (.packet p) → p.at? ≠ none →
      ∀ z, z.owner = (p.ifindex, p.dir) → s'.links z = s.links z)
    (hreb : ∀ k d ws, x = .call k → k.rebuilding = some (d, ws) →
      ∀ u p, logs u = some (.packet p) → p.at? ≠ none → (k.ifindex, d) ≠ (p.ifindex, p.dir)) :
    Walks s' (update logs t (some x)) := by
  refine ⟨?_,?_⟩
  · intro u p hp
    rcases log_update hp with ⟨-,h⟩ | ⟨-,hp⟩
    · exact absurd h (hx p)
    · exact (h.onWay u p hp).congr (hlinks u p hp)
  · intro u p v k d ws hp hat hk hr
    rcases log_update hp with ⟨-,h⟩ | ⟨-,hp⟩
    · exact absurd h (hx p)
    · rcases log_update hk with ⟨-,hl⟩ | ⟨-,hk⟩
      · exact hreb k d ws hl hr u p hp hat
      · exact h.apart u p v k d ws hp hat hk hr

theorem Walks.packet {p' : PacketLog} (h : Walks s logs) (hway : OnWay s.links p')
    (hapart : p'.at? ≠ none → ∀ u l d ws, logs u = some (.call l) → l.rebuilding = some (d, ws) →
      (l.ifindex, d) ≠ (p'.ifindex, p'.dir)) : Walks s (update logs t (some (.packet p'))) := by
  refine ⟨?_,?_⟩
  · intro u q hq
    rcases log_update hq with ⟨-,hl⟩ | ⟨-,hq⟩
    · cases hl
      exact hway
    · exact h.onWay u q hq
  · intro u q v k d ws hq hat hk hr
    rcases log_update hk with ⟨-,hl⟩ | ⟨-,hk⟩
    · cases hl
    · rcases log_update hq with ⟨-,hl⟩ | ⟨-,hq⟩
      · cases hl
        exact hapart hat v k d ws hk hr
      · exact h.apart u q v k d ws hq hat hk hr

theorem Walks.call_same (h : Walks s logs) (ht : logs t = some (.call l))
    (hlinks : s'.links = s.links) (hif : l'.ifindex = l.ifindex)
    (hreb : ∀ d ws, l'.rebuilding = some (d, ws) → ∃ ws', l.rebuilding = some (d, ws')) :
    Walks s' (update logs t (some (.call l'))) := by
  refine h.call nofun (fun _ _ _ _ z _ => by rw [hlinks]) ?_
  rintro k d ws ⟨⟩ hr u p hp hat
  obtain ⟨ws',hr'⟩ := hreb d ws hr
  rw [hif]
  exact h.apart u p t l d ws' hp hat ht hr'

end Landscape.Chain
