import Mathlib.Data.List.Basic

/-! The DNS records of an ACME issuance: created for each authorization of the order, and cleaned up
from a list that is filled after each creation. The solver of a DNS provider notes the records that
it will know how to delete. -/
namespace Landscape.Cert
open List

structure TxtRecord where
  domain : List Char
  value : List Char
  deriving DecidableEq

inductive DoIssueResult where
  | issued
  | cancelled
  | failed

/-- How `create_txt_record` under a `select!` ends. The record is created and noted (the answer of
Cloudflare may hold nothing to note), an existing one is found and noted without a request, or the
call ends early, before or after the request had been handed to the provider. -/
inductive Creation where
  | created (noted : Bool)
  | reused
  | failed (sent : Bool)
  | cancelled (sent : Bool)

/-- How `cleanup_txt_record` ends for a noted record: whether it comes to the deletion request (AWS
and Google read the record set first and may fail there, or not find the value), and whether the
note is dropped. -/
structure Cleanup where
  sent : Bool
  dropped : Bool

inductive Authz where
  | error
  | noDns01
  | challenge (identifier dnsValue : List Char) (creation : Creation) (cleanup : Cleanup)

/-- An issuance ends before there is an order, or goes through the authorizations; what follows them
neither calls the solver nor changes the list. -/
inductive Issuance where
  | early (result : DoIssueResult)
  | order (authorizations : List Authz) (later : DoIssueResult)

inductive Request where
  | create (r : TxtRecord)
  | cleanup (r : TxtRecord)
  | leave
  deriving DecidableEq

def stripWildcard : List Char → List Char
  | '*' :: '.' :: domain => domain
  | domain => domain

/- `dns_records` with the way each clean-up will go, the notes of the solver, and the requests. -/
structure IssueState where
  dnsRecords : List (TxtRecord × Cleanup)
  noted : List TxtRecord
  log : List Request

def createRecords : List Authz → IssueState → Option DoIssueResult × IssueState
  | [], s => (none, s)
  | .error :: _, s | .noDns01 :: _, s => (some .failed, s)
  | .challenge identifier dnsValue creation cleanup :: rest, s =>
    let r := ⟨stripWildcard identifier,dnsValue⟩
    let pushed := s.dnsRecords ++ [(r, cleanup)]
    match creation with
    | .created noted =>
      createRecords rest ⟨pushed,if noted then s.noted ++ [r] else s.noted,s.log ++ [.create r]⟩
    | .reused => createRecords rest ⟨pushed,s.noted ++ [r],s.log⟩
    | .failed sent => (some .failed, { s with log := if sent then s.log ++ [.create r] else s.log })
    | .cancelled sent =>
      (some .cancelled, { s with log := if sent then s.log ++ [.create r] else s.log })

def doIssue : Issuance → DoIssueResult × IssueState
  | .early result => (result, ⟨[],[],[]⟩)
  | .order authorizations later =>
    let (ended, s) := createRecords authorizations ⟨[],[],[]⟩
    (ended.getD later, s)

def cleanupRecords : List (TxtRecord × Cleanup) → List TxtRecord → List Request
  | [], _ => []
  | (r, cleanup) :: rest, noted =>
    if r ∈ noted then
      (if cleanup.sent then [.cleanup r] else []) ++
        cleanupRecords rest (if cleanup.dropped then noted.filter (· ≠ r) else noted)
    else cleanupRecords rest noted

def doIssueCert (i : Issuance) : DoIssueResult × List Request :=
  let (result, s) := doIssue i
  (result, s.log ++ cleanupRecords s.dnsRecords s.noted)

def runIssueTask (i : Issuance) : List Request := (doIssueCert i).2 ++ [.leave]

/-- What was created is cleaned up before the task leaves the registry, and nothing else is. -/
def CleansUp (log : List Request) : Prop :=
  (∀ r, .create r ∈ log → [.create r, .cleanup r, .leave].Sublist log) ∧
    ∀ r, .cleanup r ∈ log → .create r ∈ log

def asked : List Authz → List TxtRecord
  | .challenge identifier dnsValue (.created _) _ :: rest =>
    ⟨stripWildcard identifier,dnsValue⟩ :: asked rest
  | .challenge _ _ .reused _ :: rest => asked rest
  | .challenge identifier dnsValue (.failed true) _ :: _
  | .challenge identifier dnsValue (.cancelled true) _ :: _ => [⟨stripWildcard identifier,dnsValue⟩]
  | _ => []

def completed : List Authz → List (TxtRecord × Cleanup)
  | .challenge identifier dnsValue (.created _) cleanup :: rest
  | .challenge identifier dnsValue .reused cleanup :: rest =>
    (⟨stripWildcard identifier,dnsValue⟩, cleanup) :: completed rest
  | _ => []

def noted : List Authz → List TxtRecord
  | .challenge _ _ (.created false) _ :: rest => noted rest
  | .challenge identifier dnsValue (.created true) _ :: rest
  | .challenge identifier dnsValue .reused _ :: rest =>
    ⟨stripWildcard identifier,dnsValue⟩ :: noted rest
  | _ => []

/- The clean-ups of one record: the first that comes to the request asks for the deletion, unless
   one before it has dropped the note. -/
def asksDeletion : List Cleanup → Bool
  | [] => false
  | c :: cs => c.sent || (!c.dropped && asksDeletion cs)

def Deleted (as : List Authz) (r : TxtRecord) : Prop :=
  r ∈ noted as ∧ asksDeletion (((completed as).filter (·.1 = r)).map (·.2)) = true

/-- The solver notes every record that it was asked to create and a clean-up of it comes to the
deletion request; what is deleted was not only found. -/
def Issuance.Unbroken : Issuance → Prop
  | .early _ => True
  | .order as _ => (∀ r ∈ asked as, Deleted as r) ∧ ∀ r, Deleted as r → r ∈ asked as

theorem createRecords_snd (as : List Authz) (s : IssueState) : (createRecords as s).2 =
    ⟨s.dnsRecords ++ completed as,s.noted ++ noted as,s.log ++ (asked as).map .create⟩ := by
  induction as generalizing s with
  | nil => simp [createRecords, completed, noted, asked]
  | cons a rest ih =>
    match a with
    | .error | .noDns01 => simp [createRecords, completed, noted, asked]
    | .challenge _ _ (.created noted) _ =>
      cases noted <;> simp [createRecords, completed, Cert.noted, asked, ih]
    | .challenge _ _ .reused _ => simp [createRecords, completed, noted, asked, ih]
    | .challenge _ _ (.failed sent) _ | .challenge _ _ (.cancelled sent) _ =>
      cases sent <;> simp [createRecords, completed, noted, asked]

theorem mem_cleanupRecords {r : TxtRecord} (entries : List (TxtRecord × Cleanup))
    (noted : List TxtRecord) : .cleanup r ∈ cleanupRecords entries noted ↔
      r ∈ noted ∧ asksDeletion ((entries.filter (·.1 = r)).map (·.2)) = true := by
  induction entries generalizing noted with
  | nil => simp [cleanupRecords, asksDeletion]
  | cons e rest ih =>
    obtain ⟨r',c⟩ := e
    by_cases hr : r' = r
    · subst hr
      by_cases hn : r' ∈ noted
      · cases hs : c.sent <;> cases hd : c.dropped <;>
          simp [cleanupRecords, asksDeletion, hn, hs, hd, ih]
      · simp [cleanupRecords, asksDeletion, hn, ih]
    · have hne : r ≠ r' := fun h => hr h.symm
      by_cases hn : r' ∈ noted
      · cases hs : c.sent <;> cases hd : c.dropped <;>
          simp [cleanupRecords, hn, hs, hd, ih, hr, hne]
      · simp [cleanupRecords, hn, ih, hr]

theorem create_not_mem_cleanupRecords {r : TxtRecord} (entries : List (TxtRecord × Cleanup))
    (noted : List TxtRecord) : .create r ∉ cleanupRecords entries noted := by
  induction entries generalizing noted with
  | nil => simp [cleanupRecords]
  | cons e rest ih =>
    unfold cleanupRecords
    split
    · cases hs : e.2.sent <;> simp [ih]
    · exact ih noted

theorem runIssueTask_order (as : List Authz) (later : DoIssueResult) :
    runIssueTask (.order as later) =
      (asked as).map .create ++ (cleanupRecords (completed as) (noted as) ++ [.leave]) := by
  have h := createRecords_snd as ⟨[],[],[]⟩
  simp only [runIssueTask, doIssueCert, doIssue, h, nil_append, append_assoc]

theorem create_mem_runIssueTask {as : List Authz} {later : DoIssueResult} {r : TxtRecord} :
    .create r ∈ runIssueTask (.order as later) ↔ r ∈ asked as := by
  simp [runIssueTask_order, create_not_mem_cleanupRecords]

theorem cleanup_mem_runIssueTask {as : List Authz} {later : DoIssueResult} {r : TxtRecord} :
    .cleanup r ∈ runIssueTask (.order as later) ↔ Deleted as r := by
  simp [runIssueTask_order, mem_cleanupRecords, Deleted]

def AlwaysCleansUp : Prop := ∀ i, CleansUp (runIssueTask i)

end Landscape.Cert
