import Landscape.Database.Writer
import Landscape.Firewall.Blacklist
import Landscape.Lib.Run

/-! Versions as a lock: over every history of committed transactions, what a checked write that
echoes an earlier version meets. -/
namespace Landscape.Database
open List
open Store (Row Change find put)
open Run (Runs)
variable {κ ρ : Type} [DecidableEq κ] [Row κ ρ] {rows rows' : List ρ} {config : ρ} {checked : Bool}

inductive Txn (κ ρ : Type) where
  | upsert (nowMs : Nat) (config : ρ)
  | checkedUpsert (nowMs : Nat) (config : ρ)
  | upsertMany (configs : List (Nat × ρ))
  | checkedUpsertMany (configs : List (Nat × ρ))
  | deleteAndGet (id : κ)

/-- What a committed transaction did to one id: the version it returned for it, or its deletion. -/
inductive Entry (κ : Type) where
  | wrote (id : κ) (version : Nat)
  | deleted (id : κ)
deriving DecidableEq

def Entry.id : Entry κ → κ
  | .wrote id _ => id
  | .deleted id => id

def written (change : Change ρ) : Entry κ := .wrote (Row.id change.new) (Row.updateAt change.new)

def removed (old : Option ρ) : List (Entry κ) := old.toList.map fun o => .deleted (Row.id o)

def Txn.exec (rows : List ρ) : Txn κ ρ → Except DbError (List (Entry κ)) × List ρ
  | .upsert nowMs config => (Database.upsert nowMs rows config).map (·.map fun c => [written c]) id
  | .checkedUpsert nowMs config =>
    (Database.checkedUpsert nowMs rows config).map (·.map fun c => [written c]) id
  | .upsertMany configs => (Database.upsertMany rows configs).map (·.map (·.map written)) id
  | .checkedUpsertMany configs =>
    (Database.checkedUpsertMany rows configs).map (·.map (·.map written)) id
  | .deleteAndGet id' => (Database.deleteAndGet rows id').map (·.map removed) id

structure History (κ ρ : Type) where
  rows : List ρ
  log : List (Entry κ)

def History.commit (h : History κ ρ) (t : Txn κ ρ) : Option (History κ ρ) :=
  match t.exec h.rows with
  | (.ok entries, rows) => some ⟨rows,entries.reverse ++ h.log⟩
  | (.error _, _) => none

/-- What a history can do to one row: write it under the clock, above the version it replaces, or
delete it. -/
inductive Move : History κ ρ → History κ ρ → Prop where
  | wrote {h : History κ ρ} {r : ρ} {now : Nat}
      (above : ∀ o, find h.rows (Row.id r) = some o → Row.updateAt r = nextUpdateAt o now) :
      Move h ⟨put h.rows r,.wrote (Row.id r) (Row.updateAt r) :: h.log⟩
  | deleted {h : History κ ρ} {id : κ} {r : ρ} (stored : find h.rows id = some r) :
      Move h ⟨(Store.deleteAndGet h.rows id).2,.deleted id :: h.log⟩

variable {h h' g h₀ : History κ ρ} {t : Txn κ ρ} {log newer older : List (Entry κ)} {u : Nat}

theorem upsertInner_move {nowMs : Nat}
    {change : Change ρ} (h : upsertInner nowMs rows config checked = .ok (change, rows')) :
    Move ⟨rows,log⟩ ⟨rows',written change :: log⟩ := by
  obtain ⟨hid,rfl,habove⟩ := upsertInner_ok h
  rw [← hid] at habove
  exact .wrote habove

theorem upsertManyInner_moves {configs : List (Nat × ρ)}
    {changes : List (Change ρ)} (h : upsertManyInner rows checked configs = .ok (changes, rows'))
    (log : List (Entry κ)) :
    Relation.ReflTransGen Move ⟨rows,log⟩ ⟨rows',(changes.map written).reverse ++ log⟩ := by
  induction configs generalizing rows changes log with
  | nil =>
    cases h
    exact .refl
  | cons item configs ih =>
    obtain ⟨nowMs,config⟩ := item
    simp only [upsertManyInner, bind, Except.bind] at h
    split at h
    · cases h
    rename_i first hfirst
    split at h
    · cases h
    · rename_i rest hrest
      cases h
      have hmoves := ih hrest (written first.1 :: log)
      simp only [map_cons, reverse_cons, append_assoc, singleton_append]
      exact .head (upsertInner_move hfirst) hmoves

/-- A transaction commits when its body does, with the entries of what the body returned. -/
theorem commit_of_body {α : Type}
    (body : List ρ → Except DbError (α × List ρ)) {entries : α → List (Entry κ)}
    (ht : t.exec h.rows = (txnRetryLoop h.rows body).map (·.map entries) id)
    (hc : h.commit t = some h') :
    ∃ value rows, body h.rows = .ok (value, rows) ∧
    h' = ⟨rows,(entries value).reverse ++ h.log⟩ := by
  unfold History.commit at hc
  rw [ht] at hc
  unfold txnRetryLoop at hc
  cases hbody : body h.rows with
  | error e =>
    simp only [hbody] at hc
    cases hc
  | ok out =>
    simp only [hbody] at hc
    cases hc
    exact ⟨out.1,out.2,rfl,rfl⟩

/-- A committed transaction is a sequence of moves. -/
theorem moves_of_commit (hc : h.commit t = some h') : Relation.ReflTransGen Move h h' := by
  cases t with
  | upsert nowMs config | checkedUpsert nowMs config =>
    obtain ⟨change,rows,hbody,rfl⟩ := commit_of_body (upsertInner nowMs · config _) rfl hc
    exact .single (upsertInner_move hbody)
  | upsertMany configs | checkedUpsertMany configs =>
    obtain ⟨changes,rows,hbody,rfl⟩ := commit_of_body (upsertManyInner · _ configs) rfl hc
    exact upsertManyInner_moves hbody h.log
  | deleteAndGet id =>
    obtain ⟨old,rows,hbody,rfl⟩ :=
      commit_of_body (fun rows => .ok (Store.deleteAndGet rows id)) rfl hc
    cases hbody
    cases hf : find h.rows id with
    | none =>
      -- there is nothing to delete and the table stays as it is
      have hsame : (Store.deleteAndGet h.rows id).2 = h.rows :=
        filter_eq_self.mpr fun x hx => by simpa using Store.find_eq_none hf hx
      simp only [Store.deleteAndGet] at hsame
      simp only [removed, Option.toList_none, map_nil, reverse_nil, nil_append, hsame]
      exact .refl
    | some r =>
      obtain ⟨-,hid⟩ := Store.find_eq_some hf
      have hmove := Move.deleted hf
      rw [← hid] at hmove ⊢
      exact .single hmove

def Reached (h : History κ ρ) : Prop :=
  ∃ rows, Runs History.commit (fun _ _ => True) ⟨rows,[]⟩ h

theorem Reached.moves (hr : Reached h) : ∃ rows, Relation.ReflTransGen Move ⟨rows,[]⟩ h := by
  obtain ⟨rows,hruns⟩ := hr
  refine ⟨rows,hruns.invariant (fun h => Relation.ReflTransGen Move ⟨rows,[]⟩ h) ?_ .refl⟩
  intro s t s' hs _ hcommit
  exact hs.trans (moves_of_commit hcommit)

def latest (log : List (Entry κ)) (id : κ) : Option (Entry κ) := log.find? fun e => e.id = id

theorem latest_cons (e : Entry κ) (id : κ) :
    latest (e :: log) id = if e.id = id then some e else latest log id := by
  unfold latest
  by_cases he : e.id = id <;> simp [he]

theorem latest_append (id : κ) :
    latest (newer ++ older) id = (latest newer id).or (latest older id) :=
  find?_append

variable {id : κ}

theorem latest_eq_none : latest log id = none ↔ ∀ e ∈ log, e.id ≠ id := by
  simp [latest, find?_eq_none]

/-- The table holds what the latest entry about an id left there. -/
def Left (h : History κ ρ) (id : κ) : Option (Entry κ) → Prop
  | none => True
  | some (.wrote _ v) => ∃ r, find h.rows id = some r ∧ Row.updateAt r = v
  | some (.deleted _) => find h.rows id = none

theorem Move.effect (hm : Move g h) : ∃ e, h.log = e :: g.log ∧ Left h e.id (some e) ∧
      ∀ id, e.id ≠ id → find h.rows id = find g.rows id := by
  cases hm with
  | @wrote r now above =>
    exact ⟨_,rfl,⟨r,Store.find_put.trans (if_pos rfl),rfl⟩,
      fun id hid => Store.find_put.trans (if_neg hid)⟩
  | deleted _ =>
    exact ⟨_,rfl,(Store.find_deleteAndGet _).trans (if_pos rfl),
      fun id hid => (Store.find_deleteAndGet _).trans (if_neg hid)⟩

theorem left_of_moves (hm : Relation.ReflTransGen Move h₀ h)
    (hinit : h₀.log = []) (id : κ) : Left h id (latest h.log id) := by
  induction hm with
  | refl =>
    rw [hinit]
    trivial
  | tail _ hlast ih =>
    obtain ⟨e,hlog,hnew,hother⟩ := hlast.effect
    rw [hlog, latest_cons]
    split
    · rename_i he
      exact he ▸ hnew
    · rename_i he
      revert ih
      unfold Left
      rw [hother id he]
      exact fun h => h

theorem latest_id {e : Entry κ} (h : latest log id = some e) : e ∈ log ∧ e.id = id := by
  refine ⟨mem_of_find?_eq_some h,?_⟩
  simpa using find?_some h

/-- A logged write is above the version it replaced. -/
theorem Move.above (hm : Move g h) (hlog : h.log = .wrote id u :: g.log) :
    ∃ now, ∀ o, find g.rows id = some o → u = nextUpdateAt o now := by
  cases hm with
  | wrote above =>
    cases hlog
    exact ⟨_,above⟩
  | deleted _ => cases hlog

/-- While an id is not deleted and its versions are exact, every write returns a higher version than
the ones before. -/
theorem climbs_of_moves (hm : Relation.ReflTransGen Move h₀ h)
    (hinit : h₀.log = []) (hexact : ∀ v, .wrote id v ∈ h.log → v < 2 ^ 53) {v : Nat}
    (hlog : h.log = newer ++ .wrote id v :: older) (hdel : .deleted id ∉ newer)
    (hu : latest newer id = some (.wrote id u)) : v < u := by
  induction hm generalizing newer u with
  | refl =>
    rw [hinit] at hlog
    simp at hlog
  | @tail g h hbefore hlast ih =>
    obtain ⟨e,hcons,-⟩ := hlast.effect
    cases newer with
    | nil => cases hu
    | cons e' newer =>
      rw [hcons, cons_append, cons.injEq] at hlog
      obtain ⟨rfl,hlog⟩ := hlog
      have hexact' : ∀ v, .wrote id v ∈ g.log → v < 2 ^ 53 :=
        fun v hv => hexact v (hcons ▸ mem_cons_of_mem _ hv)
      have hdel' : .deleted id ∉ newer := fun h => hdel (mem_cons_of_mem _ h)
      rw [latest_cons] at hu
      split at hu
      · -- the new entry is the write in question: it is above the version it replaces
        cases hu
        obtain ⟨now,habove⟩ := hlast.above hcons
        have hleft := left_of_moves hbefore hinit id
        have hv : v < 2 ^ 53 := hexact' v (by simp [hlog])
        rw [hlog, latest_append, latest_cons] at hleft
        simp only [Entry.id, if_true] at hleft
        cases hprev : latest newer id with
        | none =>
          rw [hprev] at hleft
          obtain ⟨o,ho,rfl⟩ := hleft
          rw [habove o ho]
          exact lt_nextUpdateAt hv now
        | some e =>
          obtain ⟨hmem,hid⟩ := latest_id hprev
          cases e with
          | deleted id' =>
            cases hid
            exact absurd hmem hdel'
          | wrote id' w =>
            cases hid
            have hvw := ih hexact' hlog hdel' hprev
            rw [hprev] at hleft
            obtain ⟨o,ho,rfl⟩ := hleft
            have hw := hexact' (Row.updateAt o) (by rw [hlog]; exact mem_append_left _ hmem)
            rw [habove o ho]
            exact Nat.lt_trans hvw (lt_nextUpdateAt hw now)
      · exact ih hexact' hlog hdel' hu

def Untouched (newer : List (Entry κ)) (id : κ) : Prop := ∀ e ∈ newer, e.id ≠ id

/-- A checked write whose version was returned by the write behind `newer` goes through only when
that write is the last thing that happened to the id, and is refused without a trace otherwise. -/
def Locks (h : History κ ρ) (newer : List (Entry κ)) (nowMs : Nat) (config : ρ) : Prop :=
  (∀ change rows, checkedUpsert nowMs h.rows config = (.ok change, rows) →
      Untouched newer (Row.id config)) ∧
    (¬Untouched newer (Row.id config) →
      checkedUpsert nowMs h.rows config = (.error .conflict, h.rows))

theorem locks_iff_latest (hr : Reached h)
    (hlog : h.log = newer ++ .wrote (Row.id config) (Row.updateAt config) :: older) (nowMs : Nat) :
    Locks h newer nowMs config ↔ Untouched newer (Row.id config) ∨
      ∃ v, latest newer (Row.id config) = some (.wrote (Row.id config) v) ∧
        v ≠ Row.updateAt config := by
  obtain ⟨rows,hm⟩ := hr.moves
  have hleft := left_of_moves hm rfl (Row.id config)
  cases hprev : latest newer (Row.id config) with
  | none =>
    have hun : Untouched newer (Row.id config) := latest_eq_none.mp hprev
    exact ⟨fun _ => .inl hun,fun _ => ⟨fun _ _ _ => hun,fun h => absurd hun h⟩⟩
  | some e =>
    have hun : ¬Untouched newer (Row.id config) := by
      intro h
      rw [latest_eq_none.mpr h] at hprev
      cases hprev
    rw [hlog, latest_append, hprev] at hleft
    obtain ⟨-,hid⟩ := latest_id hprev
    cases e with
    | deleted id =>
      -- the row is gone, and the write goes through as an insert
      obtain ⟨change,rows',hok⟩ := checkedUpsert_of_absent nowMs hleft
      constructor
      · intro hlocks
        exact absurd (hlocks.1 change rows' hok) hun
      · rintro (h | ⟨v,hv,-⟩)
        · exact absurd h hun
        · cases hv
    | wrote id w =>
      cases hid
      obtain ⟨o,ho,rfl⟩ := hleft
      obtain ⟨hconflict,hpass⟩ := checkedUpsert_of_stored nowMs ho
      constructor
      · intro hlocks
        refine .inr ⟨_,rfl,?_⟩
        intro heq
        obtain ⟨change,rows',hok⟩ := hpass heq
        exact hun (hlocks.1 change rows' hok)
      · rintro (h | ⟨v,hv,hne⟩)
        · exact absurd h hun
        · cases hv
          have hrefused := hconflict hne
          refine ⟨fun change rows' hok => ?_,fun _ => hrefused⟩
          rw [hrefused] at hok
          cases hok

/-- A client that echoes the version of an earlier write is judged rightly exactly when that write
is the last event of its id, or the last event is a write that returned another version; while the
id has not been deleted since and its versions are exact, that is always so. -/
theorem locks_iff_and_of_undeleted {h : History κ ρ} (hr : Reached h)
    {newer older : List (Entry κ)} {config : ρ}
    (hlog : h.log = newer ++ .wrote (Row.id config) (Row.updateAt config) :: older) (nowMs : Nat) :
    (Locks h newer nowMs config ↔ Untouched newer (Row.id config) ∨
      ∃ v, latest newer (Row.id config) = some (.wrote (Row.id config) v) ∧
        v ≠ Row.updateAt config) ∧
    (.deleted (Row.id config) ∉ newer → (∀ v, .wrote (Row.id config) v ∈ h.log → v < 2 ^ 53) →
      Locks h newer nowMs config) := by
  refine ⟨locks_iff_latest hr hlog nowMs,?_⟩
  intro hdel hexact
  rw [locks_iff_latest hr hlog nowMs]
  obtain ⟨rows,hm⟩ := hr.moves
  cases hprev : latest newer (Row.id config) with
  | none => exact .inl (latest_eq_none.mp hprev)
  | some e =>
    obtain ⟨hmem,hid⟩ := latest_id hprev
    cases e with
    | deleted id =>
      cases hid
      exact absurd hmem hdel
    | wrote id w =>
      cases hid
      have hlt := climbs_of_moves hm rfl hexact hlog hdel hprev
      exact .inr ⟨w,rfl,by omega⟩

section Samples
open Firewall (FirewallBlacklistConfig)

def blockList (updateAt : Nat) : FirewallBlacklistConfig := ⟨1,true,[],updateAt⟩

def changedOnce : List (Txn Firewall.Uuid FirewallBlacklistConfig) :=
  [.upsert 1000 (blockList 0), .checkedUpsert 1000 (blockList 1000)]

def deletedAgain : List (Txn Firewall.Uuid FirewallBlacklistConfig) :=
  [.upsert 1000 (blockList 0), .deleteAndGet 1]

def commits (h : History κ ρ) : List (Txn κ ρ) → Option (History κ ρ) :=
  Run.stepsWithin History.commit (fun _ _ => true) h

theorem reached_of_commits (rows : List ρ) (txns : List (Txn κ ρ))
    (hc : commits ⟨rows,[]⟩ txns = some h) : Reached h :=
  ⟨rows,Run.runs_stepsWithin (fun _ _ _ => trivial) hc⟩

/-- A client that still has the first version is refused. -/
theorem locks_changedOnce :
    ∃ h : History Firewall.Uuid FirewallBlacklistConfig, commits ⟨[],[]⟩ changedOnce = some h ∧
      Locks h [.wrote 1 1001] 2000 (blockList 1000) := by
  have hr : Reached (⟨[blockList 1001],[.wrote 1 1001, .wrote 1 1000]⟩ : History Firewall.Uuid _) :=
    reached_of_commits [] changedOnce rfl
  refine ⟨_,rfl,(locks_iff_and_of_undeleted hr rfl 2000).2 (by decide) ?_⟩
  intro v hv
  have hv' : v = 1001 ∨ v = 1000 := by
    rcases mem_cons.mp hv with h | h
    · cases h
      exact .inl rfl
    · cases mem_singleton.mp h
      exact .inr rfl
  omega

def AlwaysLocks : Prop :=
  ∀ (κ ρ : Type) [DecidableEq κ] [Row κ ρ] (h : History κ ρ) (newer older : List (Entry κ))
    (nowMs : Nat) (config : ρ), Reached h →
    h.log = newer ++ .wrote (Row.id config) (Row.updateAt config) :: older →
    Locks h newer nowMs config

/-- After a deletion the echoed version is compared with nothing: the write creates the row
again. -/
theorem alwaysLocks_fails : ¬AlwaysLocks := by
  intro hall
  have hr : Reached (⟨[],[.deleted 1, .wrote 1 1000]⟩ : History Firewall.Uuid _) :=
    reached_of_commits [] deletedAgain rfl
  have hlocks := hall _ _ _ [.deleted 1] [] 2000 (blockList 1000) hr rfl
  have hun := hlocks.1 ⟨none,blockList 2000⟩ [blockList 2000] rfl
  exact hun (.deleted 1) mem_cons_self rfl

end Samples
end Landscape.Database
