import Mathlib.Tactic.Common

/-! The IP-version filter of a DNS rule: a query of the live path, answered from the cache or by the
upstream of the rule, and what the filter leaves in the answer. -/
namespace Landscape.Dns

inductive RecordType where
  | a
  | aaaa
  | https
  | svcb
  | any
  | axfr
  | ixfr
  | opt
  | zero
  | tsig
  | other (code : UInt16)
  deriving DecidableEq

inductive ResponseCode where
  | noError
  | formErr
  | servFail
  | nxDomain
  | notImp
  | refused
  | other (code : UInt16)
  deriving DecidableEq

inductive SvcParamKey where
  | ipv4Hint
  | ipv6Hint
  | other (code : UInt16)
  deriving DecidableEq

structure Svcb where
  svcPriority : UInt16
  targetName : String
  svcParams : List (SvcParamKey × List UInt8)
  deriving DecidableEq

/-- `update0` is a record without data; it still has a type. -/
inductive RData where
  | a (ip : UInt32)
  | aaaa (ip : BitVec 128)
  | https (svcb : Svcb)
  | svcb (svcb : Svcb)
  | update0 (recordType : RecordType)
  | other (code : UInt16) (data : List UInt8)
  deriving DecidableEq

def RData.recordType : RData → RecordType
  | .a _ => .a
  | .aaaa _ => .aaaa
  | .https _ => .https
  | .svcb _ => .svcb
  | .update0 t => t
  | .other code _ => .other code

structure Record where
  name : String
  ttl : UInt32
  data : RData
  deriving DecidableEq

inductive FilterResult where
  | unfilter
  | onlyIPv4
  | onlyIPv6
  deriving DecidableEq

structure LowerQuery where
  queryType : RecordType
  queryClass : UInt16
  deriving DecidableEq

structure Request where
  queries : List LowerQuery
  opCode : UInt8

def classIn : UInt16 := 1
def opQuery : UInt8 := 0

def validateRequest (request : Request) : Except ResponseCode LowerQuery :=
  match request.queries with
  | [req] =>
    if request.opCode ≠ opQuery then .error .notImp
    else if req.queryClass ≠ classIn then .error .refused
    else
      match req.queryType with
      | .any | .axfr | .ixfr => .error .refused
      | .opt | .zero => .error .formErr
      | .tsig | .other 249 => .error .notImp
      | _ => .ok req
  | _ => .error .formErr

def isTypeFiltered : RecordType → FilterResult → Bool
  | .a, .onlyIPv6 | .aaaa, .onlyIPv4 => true
  | _, _ => false

def keyToRemove : FilterResult → Option SvcParamKey
  | .onlyIPv4 => some .ipv6Hint
  | .onlyIPv6 => some .ipv4Hint
  | .unfilter => none

def stripHints (filter : FilterResult) (r : Record) : Record :=
  match r.data, keyToRemove filter with
  | .https svcb, some key =>
    { r with data := .https { svcb with svcParams := svcb.svcParams.filter (·.1 ≠ key) } }
  | _, _ => r

def filterResult (records : List Record) (filter : FilterResult) : List Record :=
  if filter = .unfilter then records
  else (records.filter fun r => !isTypeFiltered r.data.recordType filter).map (stripHints filter)

inductive DnsOutcome where
  | normal
  | hit
  | filter
  | nxDomain
  | error
  deriving DecidableEq

inductive RuleLookupOutcome where
  | noError (records : List Record)
  | nxDomain
  | errorCode (code : ResponseCode)
  | failed
  deriving DecidableEq

def responseCodeFor : DnsOutcome → ResponseCode
  | .nxDomain => .nxDomain
  | .error => .servFail
  | _ => .noError

structure DnsQueryAnswer where
  records : List Record
  outcome : DnsOutcome
  responseCode : ResponseCode
  deriving DecidableEq

/-- What the stages find for a query: a live cache entry, and the rule that matches the name with
the outcome of its lookup. -/
structure Stages where
  cached : Option (List Record × FilterResult × ResponseCode)
  matched : Option (FilterResult × RuleLookupOutcome)

def resolveFromCacheOrUpstream (s : Stages) (queryType : RecordType) : DnsQueryAnswer :=
  match s.cached with
  | some (records, filter, code) =>
    if isTypeFiltered queryType filter then
      let outcome := if code = .nxDomain then DnsOutcome.nxDomain else .filter
      ⟨[],outcome,responseCodeFor outcome⟩
    else
      let outcome := if code = .nxDomain then DnsOutcome.nxDomain else .hit
      ⟨filterResult records filter,outcome,responseCodeFor outcome⟩
  | none =>
    match s.matched with
    | some (filter, outcome) =>
      if isTypeFiltered queryType filter then ⟨[],.filter,responseCodeFor .filter⟩
      else
        match outcome with
        | .noError records => ⟨filterResult records filter,.normal,.noError⟩
        | .nxDomain => ⟨[],.nxDomain,.nxDomain⟩
        | .errorCode code => ⟨[],.error,code⟩
        | .failed => ⟨[],.error,responseCodeFor .error⟩
    | none => ⟨[],.normal,.noError⟩

def FilterResult.excluded : FilterResult → Option (RecordType × SvcParamKey)
  | .onlyIPv4 => some (.aaaa, .ipv6Hint)
  | .onlyIPv6 => some (.a, .ipv4Hint)
  | .unfilter => none

def RData.hints : RData → List SvcParamKey
  | .https s | .svcb s => s.svcParams.map (·.1)
  | _ => []

def Leaks (filter : FilterResult) (r : Record) : Prop :=
  ∃ e, filter.excluded = some e ∧ (r.data.recordType = e.1 ∨ e.2 ∈ r.data.hints)

def Stages.found (s : Stages) : List Record :=
  match s.cached, s.matched with
  | some (records, _, _), _ | none, some (_, .noError records) => records
  | none, _ => []

def Stages.filter (s : Stages) : Option FilterResult :=
  (s.cached.map (·.2.1)).or (s.matched.map (·.1))

def HintedSvcb (filter : FilterResult) (r : Record) : Prop :=
  ∃ e svcb, filter.excluded = some e ∧ r.data = .svcb svcb ∧ e.2 ∈ svcb.svcParams.map (·.1)

variable {s : Stages} {filter : FilterResult}

theorem answer_records (h : s.filter = some filter) (queryType : RecordType) :
    (resolveFromCacheOrUpstream s queryType).records =
      if isTypeFiltered queryType filter then [] else filterResult s.found filter := by
  obtain ⟨cached,matched⟩ := s
  cases cached with
  | some entry =>
    obtain rfl : entry.2.1 = filter := by simpa [Stages.filter] using h
    simp only [resolveFromCacheOrUpstream]
    split <;> rfl
  | none =>
    cases matched with
    | none => cases h
    | some rule =>
      obtain ⟨f,outcome⟩ := rule
      obtain rfl : f = filter := by simpa [Stages.filter] using h
      have hnone : filterResult [] f = [] := by cases f <;> rfl
      simp only [resolveFromCacheOrUpstream]
      split
      · rfl
      · cases outcome <;> simp [Stages.found, hnone]

theorem isTypeFiltered_iff {t : RecordType} :
    isTypeFiltered t filter = true ↔ ∃ e, filter.excluded = some e ∧ t = e.1 := by
  cases filter <;> cases t <;> simp [isTypeFiltered, FilterResult.excluded]

theorem leaks_stripHints (r : Record) :
    isTypeFiltered r.data.recordType filter = false ∧ Leaks filter (stripHints filter r) ↔
      HintedSvcb filter r := by
  rw [Bool.eq_false_iff, ne_eq, isTypeFiltered_iff]
  obtain ⟨name,ttl,data⟩ := r
  cases filter <;> cases data <;>
    simp [Leaks, HintedSvcb, stripHints, keyToRemove, FilterResult.excluded, RData.hints,
      RData.recordType]

theorem exists_leak_iff (records : List Record) :
    (∃ r ∈ filterResult records filter, Leaks filter r) ↔ ∃ r ∈ records, HintedSvcb filter r := by
  by_cases hf : filter = .unfilter
  · subst hf
    simp [Leaks, HintedSvcb, FilterResult.excluded]
  · simp only [filterResult, if_neg hf, List.mem_map, List.mem_filter, Bool.not_eq_true',
      ← leaks_stripHints]
    grind

/-- For every query type and all that the cache or the upstream holds, the answer is clean exactly
when the query itself is filtered or no SVCB record found has the hint. -/
theorem answer_clean_iff (h : s.filter = some filter) (queryType : RecordType) :
    (∀ r ∈ (resolveFromCacheOrUpstream s queryType).records, ¬Leaks filter r) ↔
      isTypeFiltered queryType filter = true ∨ ∀ r ∈ s.found, ¬HintedSvcb filter r := by
  have hleak := @exists_leak_iff filter s.found
  rw [answer_records h]
  split
  · simp_all
  · grind

def hinted : Record :=
  ⟨"_dns.example.org.",300,.svcb ⟨1,"dns.example.org.",[(.ipv6Hint, List.replicate 16 1)]⟩⟩

theorem answer_clean_hinted : let s : Stages := ⟨none,some (.onlyIPv4, .noError [hinted])⟩
    s.filter = some .onlyIPv4 ∧
      ((∀ r ∈ (resolveFromCacheOrUpstream s .svcb).records, ¬Leaks .onlyIPv4 r) ↔
        isTypeFiltered .svcb .onlyIPv4 = true ∨ ∀ r ∈ s.found, ¬HintedSvcb .onlyIPv4 r) :=
  ⟨rfl,answer_clean_iff rfl _⟩

/-- No request that is accepted is answered with a record of the family its filter excludes. -/
def NeverLeaks : Prop :=
  ∀ request req (s : Stages) filter, validateRequest request = .ok req → s.filter = some filter →
    ∀ r ∈ (resolveFromCacheOrUpstream s req.queryType).records, ¬Leaks filter r

theorem neverLeaks_fails : ¬NeverLeaks := by
  intro h
  refine h ⟨[⟨.svcb,classIn⟩],opQuery⟩ _
    ⟨none,some (.onlyIPv4, .noError [hinted])⟩ .onlyIPv4 rfl rfl hinted ?_ ?_
  · decide
  · exact ⟨_,rfl,.inr (by decide)⟩

end Landscape.Dns
