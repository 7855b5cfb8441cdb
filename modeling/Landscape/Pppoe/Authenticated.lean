import Landscape.Pppoe.Agreement
import Landscape.Pppoe.Negotiation

/-! No addresses without authentication. -/
namespace Landscape.Pppoe
open Slice Phase Run Checks

/-- The authenticator reported success on a packet of its own protocol. -/
def Authenticated (lcp : LcpPhaseResult) (s : Negotiation) : Prop :=
  ∃ pkt result, (pkt, result) ∈ s.reports ∧ result.done = true ∧ result.failed = false ∧
    pkt.protocol = lcp.authType

def addressIn (ppp : PointToPoint) : Read (Option UInt32) :=
  do lastAddress (← PPPOption.fromBytes ppp.payload)

/-- Before the authentication is done, no packet of the other protocol for it arrives, and no IPCP
Config-Ack with an address. -/
def Orderly (lcp : LcpPhaseResult) (p : NegotiationRun) : NegotiationEvent → Prop
  | .received raw => ∀ ppp, parsePppPacket raw lcp = .ok (some ppp) → p.state.authDone = false →
    (ppp.isPapAuth = true ∨ ppp.isChap = true → ppp.protocol = lcp.authType) ∧
    (ppp.isIpcp = true → ppp.isAck = true → addressIn ppp = .ok none)
  | _ => True

structure Plain (s : Negotiation) (r : Step) : Prop where
  auth : r.state.auth = s.auth
  authDone : r.state.authDone = s.authDone
  reports : r.state.reports = s.reports
  ourIp : r.state.ipcp.ourIp = s.ipcp.ourIp
  finish : ∀ res, r.next = .finish res → r.state.ipcp.done = true

section
variable {amb : Ambient} {cfg : Config} {lcp : LcpPhaseResult} {s : Negotiation} {r : Step}

variable {sent : List Bytes} {ppp : PointToPoint}

theorem done_of_conclude {res : NegotiationResult} (h : (s.conclude sent).next = .finish res) :
    s.ipcp.done = true := by
  unfold Negotiation.conclude at h
  split at h
  · rename_i hboth
    exact hboth.1
  · cases h

theorem plain_conclude {s' : Negotiation} (hauth : s'.auth = s.auth)
    (hdone : s'.authDone = s.authDone) (hreports : s'.reports = s.reports)
    (hip : s'.ipcp.ourIp = s.ipcp.ourIp) :
    Plain s (s'.conclude sent) :=
  ⟨hauth,hdone,hreports,hip,fun _ => done_of_conclude⟩

theorem plain_onIpv6cp (h : onIpv6cp cfg lcp ppp s = .ok r) : Plain s r := by
  obtain ⟨⟨ipv6cp,sent,e⟩,-,h⟩ := bind_eq_ok.mp h
  cases e with
  | some e =>
    cases h
    exact ⟨rfl,rfl,rfl,rfl,nofun⟩
  | none =>
    cases h
    exact plain_conclude rfl rfl rfl rfl

theorem plain_onProtoReject (h : onProtoReject ppp s = .ok r) : Plain s r := by
  obtain ⟨proto,-,h⟩ := bind_eq_ok.mp h
  split at h
  · cases h
    exact ⟨rfl,rfl,rfl,rfl,nofun⟩
  · split at h
    · cases h
      exact plain_conclude rfl rfl rfl rfl
    · split at h <;>
      · cases h
        exact ⟨rfl,rfl,rfl,rfl,nofun⟩

theorem plain_onLcpControl (h : onLcpControl cfg lcp ppp s = .ok r) : Plain s r := by
  unfold onLcpControl at h
  split at h
  · obtain ⟨reply,-,h⟩ := bind_eq_ok.mp h
    cases h
    exact ⟨rfl,rfl,rfl,rfl,nofun⟩
  · split at h
    · cases h
      exact ⟨rfl,rfl,rfl,rfl,nofun⟩
    · split at h
      · obtain ⟨ack,-,h⟩ := bind_eq_ok.mp h
        cases h
        exact ⟨rfl,rfl,rfl,rfl,nofun⟩
      · split at h
        · cases h
          exact ⟨rfl,rfl,rfl,rfl,nofun⟩
        · split at h
          · exact plain_onProtoReject h
          · cases h
            exact ⟨rfl,rfl,rfl,rfl,nofun⟩

theorem plain_retryAuth (h : retryAuth cfg lcp s = .ok r) : Plain s r := by
  unfold retryAuth at h
  dsimp only at h
  split at h
  · cases h
    exact ⟨rfl,rfl,rfl,rfl,nofun⟩
  · split at h
    · obtain ⟨sent,-,h⟩ := bind_eq_ok.mp h
      cases h
      exact ⟨rfl,rfl,rfl,rfl,nofun⟩
    · cases h
      exact ⟨rfl,rfl,rfl,rfl,nofun⟩

theorem plain_retryIpv6cp (h : retryIpv6cp cfg lcp s sent = .ok r) : Plain s r := by
  unfold retryIpv6cp at h
  dsimp only at h
  split at h
  · cases h
    exact ⟨rfl,rfl,rfl,rfl,nofun⟩
  · split at h
    · cases h
      exact plain_conclude rfl rfl rfl rfl
    · obtain ⟨request,-,h⟩ := bind_eq_ok.mp h
      cases h
      exact ⟨rfl,rfl,rfl,rfl,nofun⟩

theorem plain_retryNcp (h : retryNcp cfg lcp s = .ok r) : Plain s r := by
  unfold retryNcp at h
  dsimp only at h
  split at h
  · exact plain_retryIpv6cp h
  · split at h
    · cases h
      exact ⟨rfl,rfl,rfl,rfl,nofun⟩
    · obtain ⟨request,-,h⟩ := bind_eq_ok.mp h
      have hplain := plain_retryIpv6cp h
      exact ⟨hplain.auth,hplain.authDone,hplain.reports,hplain.ourIp,hplain.finish⟩

theorem plain_onEcho (h : onEcho cfg lcp s = .ok r) : Plain s r := by
  obtain ⟨request,-,h⟩ := bind_eq_ok.mp h
  dsimp only at h
  split at h <;>
  · cases h
    exact ⟨rfl,rfl,rfl,rfl,nofun⟩

theorem ourIp_of_ipcp {ipcp ipcp' : IpcpState} {e : Option PppoeError}
    (h : handleIpcpPacket cfg lcp ppp ipcp = .ok (ipcp', sent, e)) :
    ipcp'.ourIp = ipcp.ourIp ∨ ppp.isAck = true ∧
    ∃ address, addressIn ppp = .ok (some address) := by
  unfold handleIpcpPacket at h
  split at h
  · rename_i hack
    obtain ⟨ops,hops,h⟩ := bind_eq_ok.mp h
    obtain ⟨address,haddress,h⟩ := bind_eq_ok.mp h
    cases h
    cases address with
    | none => exact .inl rfl
    | some address => exact .inr ⟨hack,address,bind_eq_ok.mpr ⟨ops,hops,haddress⟩⟩
  · split at h
    · obtain ⟨ops,-,h⟩ := bind_eq_ok.mp h
      obtain ⟨suggested,-,h⟩ := bind_eq_ok.mp h
      obtain ⟨request,-,h⟩ := bind_eq_ok.mp h
      cases h
      exact .inl rfl
    · split at h
      · obtain ⟨ops,-,h⟩ := bind_eq_ok.mp h
        obtain ⟨announced,-,h⟩ := bind_eq_ok.mp h
        dsimp only at h
        split at h
        · obtain ⟨reject,-,h⟩ := bind_eq_ok.mp h
          cases h
          exact .inl rfl
        · split at h
          · obtain ⟨ack,-,h⟩ := bind_eq_ok.mp h
            cases h
            exact .inl rfl
          · cases h
            exact .inl rfl
      · split at h <;>
        · cases h
          exact .inl rfl

structure Guarded (lcp : LcpPhaseResult) (s : Negotiation) : Prop where
  done : s.authDone = true → Authenticated lcp s
  ip : s.ipcp.ourIp.isSome = true → s.authDone = true

theorem Guarded.plain (h : Guarded lcp s) (hr : Plain s r) : Guarded lcp r.state := by
  refine ⟨fun hdone => ?_,fun hip => ?_⟩
  · obtain ⟨pkt,result,hmem,hok⟩ := h.done (hr.authDone.symm.trans hdone)
    exact ⟨pkt,result,hr.reports ▸ hmem,hok⟩
  · rw [hr.ourIp] at hip
    exact hr.authDone.trans (h.ip hip)

theorem Guarded.auth (h : Guarded lcp s) (hsame : s.authDone = false → ppp.protocol = lcp.authType)
    (hr : onAuth amb cfg lcp ppp s = .ok r) (hok : ∀ e, r.next ≠ .fail e) :
    Guarded lcp r.state ∧ r.next = .goOn := by
  unfold onAuth at hr
  split at hr
  · cases hr
    exact ⟨h,rfl⟩
  · obtain ⟨⟨next,result⟩,-,hr⟩ := bind_eq_ok.mp hr
    obtain ⟨response,-,hr⟩ := bind_eq_ok.mp hr
    -- What was reported before is still there.
    have hbefore : s.authDone = true → ∀ s' : Negotiation, s'.reports = (ppp, result) :: s.reports →
        Authenticated lcp s' := by
      intro hdone s' hreports
      obtain ⟨pkt,res,hmem,hres⟩ := h.done hdone
      exact ⟨pkt,res,hreports ▸ List.mem_cons_of_mem _ hmem,hres⟩
    split at hr
    · cases hr
      exact absurd rfl (hok _)
    · rename_i hfailed
      split at hr
      · rename_i hdone
        obtain ⟨ipcp,-,hr⟩ := bind_eq_ok.mp hr
        obtain ⟨ipv6cp,-,hr⟩ := bind_eq_ok.mp hr
        cases hr
        refine ⟨⟨fun _ => ?_,fun _ => rfl⟩,rfl⟩
        cases hauth : s.authDone with
        | true => exact hbefore hauth _ rfl
        | false =>
          exact ⟨ppp,result,List.mem_cons_self,hdone,(Bool.not_eq_true _).mp hfailed,hsame hauth⟩
      · cases hr
        exact ⟨⟨fun hdone => hbefore hdone _ rfl,h.ip⟩,rfl⟩

theorem Guarded.ipcp (h : Guarded lcp s)
    (hnone : s.authDone = false → ppp.isAck = true → addressIn ppp = .ok none)
    (hr : onIpcp cfg lcp ppp s = .ok r) :
    Guarded lcp r.state ∧ ∀ res, r.next = .finish res → r.state.ipcp.done = true := by
  obtain ⟨⟨ipcp,sent,e⟩,hipcp,hr⟩ := bind_eq_ok.mp hr
  have hguard : Guarded lcp { s with ipcp := ipcp } := by
    refine ⟨h.done,fun hip => ?_⟩
    obtain hsame | ⟨hack,address,haddress⟩ := ourIp_of_ipcp hipcp
    · exact h.ip (hsame ▸ hip)
    · cases hauth : s.authDone with
      | true => rfl
      | false =>
        rw [hnone hauth hack] at haddress
        cases haddress
  cases e with
  | some e =>
    cases hr
    exact ⟨hguard,nofun⟩
  | none =>
    cases hr
    exact ⟨hguard,fun _ => done_of_conclude⟩

theorem Guarded.packet (h : Guarded lcp s)
    (hsame : s.authDone = false → ppp.isPapAuth = true ∨ ppp.isChap = true →
      ppp.protocol = lcp.authType)
    (hnone : s.authDone = false → ppp.isIpcp = true → ppp.isAck = true → addressIn ppp = .ok none)
    (hr : onPacket amb cfg lcp ppp s = .ok r) (hok : ∀ e, r.next ≠ .fail e) :
    Guarded lcp r.state ∧ ∀ res, r.next = .finish res → r.state.ipcp.done = true := by
  unfold onPacket at hr
  split at hr
  · rename_i hproto
    obtain ⟨hguard,hgo⟩ := h.auth (fun hauth => hsame hauth (Bool.or_eq_true_iff.mp hproto)) hr hok
    exact ⟨hguard,by rw [hgo]; nofun⟩
  · split at hr
    · rename_i hipcp
      exact h.ipcp (fun hauth => hnone hauth hipcp) hr
    · split at hr
      · have hplain := plain_onIpv6cp hr
        exact ⟨h.plain hplain,hplain.finish⟩
      · split at hr
        · have hplain := plain_onLcpControl hr
          exact ⟨h.plain hplain,hplain.finish⟩
        · cases hr
          exact ⟨h,nofun⟩

theorem Guarded.step {p : NegotiationRun} {e : NegotiationEvent} (h : Guarded lcp p.state)
    (hc : Orderly lcp p e) (hr : onNegotiation amb cfg lcp p.state e = .ok r)
    (hok : ∀ e, r.next ≠ .fail e) :
    Guarded lcp r.state ∧ ∀ res, r.next = .finish res → r.state.ipcp.done = true := by
  cases e with
  | received raw =>
    obtain ⟨packet,hpacket,hr⟩ := bind_eq_ok.mp hr
    cases packet with
    | none =>
      cases hr
      exact ⟨h,nofun⟩
    | some ppp =>
      exact h.packet (fun hauth => (hc ppp hpacket hauth).1)
        (fun hauth => (hc ppp hpacket hauth).2) hr hok
  | timeout =>
    have hplain : Plain p.state r := by
      unfold onNegotiation at hr
      dsimp only at hr
      split at hr
      · exact plain_retryNcp hr
      · exact plain_retryAuth hr
    exact ⟨h.plain hplain,hplain.finish⟩
  | echo =>
    have hplain := plain_onEcho hr
    exact ⟨h.plain hplain,hplain.finish⟩
  | stopped | closed =>
    cases hr
    exact absurd rfl (hok _)

theorem firstStep_eq (hr : firstStep cfg lcp = .ok r) :
    (∃ auth, r.state = .initial cfg auth) ∧ ∀ res, r.next ≠ .finish res := by
  unfold firstStep at hr
  split at hr
  · cases hr
    exact ⟨⟨none,rfl⟩,nofun⟩
  · rename_i authenticator _
    obtain ⟨pap,-,hr⟩ := bind_eq_ok.mp hr
    obtain ⟨echo,-,hr⟩ := bind_eq_ok.mp hr
    cases hr
    exact ⟨⟨some authenticator,rfl⟩,nofun⟩

theorem guarded_start : Guarded lcp (negotiationStart cfg lcp).state ∧
    ∀ res, (negotiationStart cfg lcp).outcome ≠ .returned res := by
  unfold negotiationStart
  cases hfirst : firstStep cfg lcp with
  | error => exact ⟨⟨nofun,nofun⟩,nofun⟩
  | ok r =>
    obtain ⟨⟨auth,hstate⟩,hnext⟩ := firstStep_eq hfirst
    refine ⟨?_,fun res hres => ?_⟩
    · change Guarded lcp r.state
      rw [hstate]
      exact ⟨nofun,nofun⟩
    · change r.next.outcome = .returned res at hres
      revert hres
      cases hn : r.next with
      | finish res' => exact absurd hn (hnext res')
      | goOn | fail => nofun

/-- No negotiation returns before the authenticator has reported success by the protocol that LCP
agreed on. -/
theorem authenticated_of_orderly {p : NegotiationRun} {res : NegotiationResult}
    (hrun : Runs (step (onNegotiation amb cfg lcp)) (Orderly lcp) (negotiationStart cfg lcp) p)
    (hres : p.outcome = .returned res) : Authenticated lcp p.state := by
  refine returned_of_runs (fun s _ => Guarded lcp s) hrun ?_ (fun _ => guarded_start.1)
    (fun _ s _ => Authenticated lcp s) ?_ guarded_start.2 hres
  · intro p e r hguard hc hr hgo
    exact (hguard.step hc hr (by rw [hgo]; nofun)).1
  · intro p e r res hguard hc hr hfinish
    obtain ⟨hnext,hdone⟩ := hguard.step hc hr (by rw [hfinish]; nofun)
    exact hnext.done (hnext.ip (Bool.and_eq_true_iff.mp (hdone res hfinish)).1)

end

def sampleLcp (authType : UInt16) : LcpPhaseResult := ⟨5,sampleServer,1492,7,authType,1492,9⟩

def ipcpAck : Bytes := pppFromPeer 0x8021 2 1 [3, 6, 10, 0, 0, 2]
def ipcpRequest : Bytes := pppFromPeer 0x8021 1 1 [3, 6, 10, 0, 0, 1]

def rejectIpv6cp : Bytes := pppFromPeer 0xc021 8 1 [0x80, 0x57]

def papAck : Bytes := pppFromPeer 0xc023 2 1 [0]

def orderly (lcp : LcpPhaseResult) (p : NegotiationRun) : NegotiationEvent → Bool
  | .received raw =>
    match parsePppPacket raw lcp with
    | .ok (some ppp) =>
      p.state.authDone || (decide (ppp.isPapAuth = true ∨ ppp.isChap = true →
        ppp.protocol = lcp.authType)
      && decide (ppp.isIpcp = true → ppp.isAck = true → addressIn ppp = .ok none))
    | _ => true
  | _ => true

theorem orderly_of_check {lcp : LcpPhaseResult} {p : NegotiationRun} {e : NegotiationEvent}
    (h : orderly lcp p e = true) : Orderly lcp p e := by
  cases e with
  | received raw =>
    intro ppp hppp hauth
    simp only [orderly, hppp, hauth, Bool.false_or, Bool.and_eq_true, decide_eq_true_eq] at h
    exact h
  | timeout | echo | stopped | closed => trivial

theorem authenticated_sample :
    ∃ p, Runs (step (onNegotiation sampleAmbient sampleClient (sampleLcp 0xc023)))
      (Orderly (sampleLcp 0xc023)) (negotiationStart sampleClient (sampleLcp 0xc023)) p ∧
    p.outcome = .returned ⟨0x0a000002,0x0a000001,none,none,1⟩ ∧
    Authenticated (sampleLcp 0xc023) p.state := by
  refine runs_and (runs_of_check _ _ [.received papAck, .received ipcpAck, .received ipcpRequest,
    .received rejectIpv6cp] _ (fun _ _ h => orderly_of_check h) (by decide +kernel)) ?_
  exact fun _ hrun hres => authenticated_of_orderly hrun hres

def AlwaysAuthenticated : Prop :=
  ∀ amb cfg lcp p res, Runs (step (onNegotiation amb cfg lcp)) (fun _ _ => True)
    (negotiationStart cfg lcp) p →
    p.outcome = .returned res → Authenticated lcp p.state

/-- The control protocols alone complete the negotiation. -/
theorem alwaysAuthenticated_fails : ¬AlwaysAuthenticated := by
  intro h
  obtain ⟨p,hrun,hres,hnone⟩ :=
    runs_of_steps (step (onNegotiation sampleAmbient sampleClient (sampleLcp 0xc023)))
    (negotiationStart sampleClient (sampleLcp 0xc023))
    [.received ipcpAck, .received ipcpRequest, .received rejectIpv6cp]
    (fun p => p.outcome = .returned ⟨0x0a000002,0x0a000001,none,none,1⟩ ∧ p.state.reports = [])
      (by decide +kernel)
  obtain ⟨pkt,result,hmem,-⟩ := h sampleAmbient sampleClient (sampleLcp 0xc023) p _ hrun hres
  rw [hnone] at hmem
  cases hmem

end Landscape.Pppoe
