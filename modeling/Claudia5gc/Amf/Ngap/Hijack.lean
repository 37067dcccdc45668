import Claudia5gc.Amf.Integrity
import Claudia5gc.Amf.Ngap.Server

/-!
# Where a UE is found, and who may say so

A 5G-S-TMSI in an Initial UE Message binds the UE to the gNB that sent it before the NAS side has
seen the PDU, and an Uplink NAS Transport goes to the UE that it names from whatever gNB.
-/

namespace Claudia5gc.Amf.Ngap.Server

open Go AList Function

variable {s s' : Server} {g ue : Ptr} {req : InitialUEMessage}

def Verifies (sec : SecurityContext) (pdu : Bytes) : Prop :=
  sec.active = true ∧ Handler.isProtected pdu = true ∧ Handler.verifyMAC sec pdu = .ok true

/-- The message leads to an existing context. -/
def Resolves (s : Server) (req : InitialUEMessage) (ue : Ptr) : Prop :=
  isPlainRegistrationRequest req.nasPdu = false ∧
    ∃ tmsi, req.fiveGSTMSI = some tmsi ∧ s.mgr.getByTMSI tmsi = some ue

structure SameBinding (s s' : Server) (ue : Ptr) : Prop where
  ranUENGAPId : (s'.ctx ue).ranUENGAPId = (s.ctx ue).ranUENGAPId
  gnbAddr : s'.gnbAddr ue = s.gnbAddr ue
  cmState : (s'.ctx ue).cmState = (s.ctx ue).cmState
  timers : s'.timers ue = s.timers ue
  ues : ∀ g r, (s'.gnb g).ues.lookup r = some ue ↔ (s.gnb g).ues.lookup r = some ue
  idleUEs : ∀ g r, (s'.gnb g).idleUEs.lookup r = some ue ↔ (s.gnb g).idleUEs.lookup r = some ue

structure ConnectedAt (s : Server) (g ue : Ptr) (ranID : Int64) : Prop where
  ranUENGAPId : (s.ctx ue).ranUENGAPId = ranID
  gnbAddr : s.gnbAddr ue = (s.gnb g).addr
  cmState : (s.ctx ue).cmState = .connected
  timers : s.timers ue = false
  ues : (s.gnb g).ues.lookup ranID = some ue
  idleUEs : ∀ r, (s.gnb g).idleUEs.lookup r ≠ some ue

theorem handleInitialUEMessage_of_resolves (h : s.Resolves req ue) (rejected released : Bool) :
    s.handleInitialUEMessage g req rejected released = s.returning g ue req := by
  obtain ⟨hplain, tmsi, htmsi, hue⟩ := h
  rw [handleInitialUEMessage, htmsi]
  dsimp only
  rw [hplain, hue]
  rfl

theorem ctx_returning : (s.returning g ue req).ctx ue =
    reconnect req.ranUENGAPId req.tac (s.ctx ue) :=
  Heap.get_modify_same ..

theorem gnb_returning : (s.returning g ue req).gnb g = (s.gnb g).promote req.ranUENGAPId ue :=
  Heap.get_modify_same ..

theorem gnb_returning_of_ne {g' : Ptr} (h : g' ≠ g) : (s.returning g ue req).gnb g' = s.gnb g' :=
  Heap.get_modify_of_ne h

theorem ues_promote (c : GNBContext) (ranID : Int64) (ue : Ptr) :
    (c.promote ranID ue).ues = c.ues.insert ranID ue := by
  unfold GNBContext.promote GNBContext.addUE
  split <;> rfl

theorem idleUEs_promote (c : GNBContext) (ranID : Int64) (ue : Ptr) :
    (∀ r, c.idleUEs.lookup r ≠ some ue) ∧ (c.promote ranID ue).idleUEs = c.idleUEs ∨
      ∃ r, c.idleUEs.lookup r = some ue ∧ (c.promote ranID ue).idleUEs = c.idleUEs.erase r := by
  unfold GNBContext.promote GNBContext.addUE
  split
  · next e he =>
    have hfound := List.find?_some he
    obtain rfl : e.2 = ue := of_decide_eq_true hfound
    exact .inr ⟨e.1, mem_lookup_iff.mpr (List.mem_of_find?_eq_some he), rfl⟩
  · next hnone =>
    refine .inl ⟨fun r hr => ?_, rfl⟩
    have hne := List.find?_eq_none.mp hnone _ (mem_lookup_iff.mp hr)
    exact hne (decide_eq_true rfl)

theorem sameBinding_returning_iff :
    SameBinding s (s.returning g ue req) ue ↔ ConnectedAt s g ue req.ranUENGAPId := by
  constructor
  · intro h
    have hctx := @ctx_returning s g ue req
    have hran := h.ranUENGAPId
    have hcm := h.cmState
    rw [hctx] at hran hcm
    refine ⟨hran.symm, ?_, hcm.symm, ?_, ?_, ?_⟩
    · exact h.gnbAddr.symm.trans (update_self ..)
    · exact h.timers.symm.trans (update_self ..)
    · rw [← h.ues, gnb_returning, ues_promote, lookup_insert]
    · have hidle := h.idleUEs g
      rw [gnb_returning] at hidle
      obtain ⟨hnone, -⟩ | ⟨r, hr, herase⟩ := idleUEs_promote (s.gnb g) req.ranUENGAPId ue
      · exact hnone
      · have hback := (hidle r).mpr hr
        rw [herase, lookup_erase] at hback
        cases hback
  · intro h
    refine ⟨?_, ?_, ?_, ?_, fun g' r => ?_, fun g' r => ?_⟩
    · rw [ctx_returning]
      exact h.ranUENGAPId.symm
    · exact (update_self ..).trans h.gnbAddr.symm
    · rw [ctx_returning]
      exact h.cmState.symm
    · exact (update_self ..).trans h.timers.symm
    · by_cases hg : g' = g
      · subst hg
        rw [gnb_returning, ues_promote]
        by_cases hr : r = req.ranUENGAPId
        · subst hr
          rw [lookup_insert, h.ues]
        · rw [lookup_insert_ne hr]
      · rw [gnb_returning_of_ne hg]
    · by_cases hg : g' = g
      · subst hg
        rw [gnb_returning]
        obtain ⟨-, hsame⟩ | ⟨r, hr, -⟩ := idleUEs_promote (s.gnb g') req.ranUENGAPId ue
        · rw [hsame]
        · exact absurd hr (h.idleUEs r)
      · rw [gnb_returning_of_ne hg]

/-- The PDU is handed to the NAS side only from the gNB that the UE is bound to. -/
def FromOwnGNB (s : Server) (g : Ptr) (amfUENGAPId : Int64) (pdu : Bytes) : Prop :=
  (s.handleUplinkNASTransport g amfUENGAPId pdu).queue ≠ s.queue →
    ∃ ue, s.mgr.getByNGAPId amfUENGAPId = some ue ∧ s.gnbAddr ue = (s.gnb g).addr

theorem fromOwnGNB_iff (s : Server) (g : Ptr) (amfUENGAPId : Int64) (pdu : Bytes) :
    s.FromOwnGNB g amfUENGAPId pdu ↔ ∀ ue, s.mgr.getByNGAPId amfUENGAPId = some ue →
      (s.ctx ue).pendingRemoval = true ∨ s.gnbAddr ue = (s.gnb g).addr := by
  unfold FromOwnGNB handleUplinkNASTransport
  cases hue : s.mgr.getByNGAPId amfUENGAPId with
  | none => exact ⟨fun _ _ => nofun, fun _ h => absurd rfl h⟩
  | some ue =>
    dsimp only
    split_ifs with hpending
    · refine ⟨fun _ ue' hue' => ?_, fun _ h => absurd rfl h⟩
      obtain rfl := Option.some.inj hue'
      exact .inl hpending
    · have hqueue : (s.enqueueSerial ue (.nas pdu)).queue ≠ s.queue := by simp [enqueueSerial]
      constructor
      · intro h ue' hue'
        obtain rfl := Option.some.inj hue'
        obtain ⟨ue'', hue'', haddr⟩ := h hqueue
        obtain rfl := Option.some.inj hue''
        exact .inr haddr
      · intro h _
        exact ⟨ue, rfl, (h ue rfl).resolve_left hpending⟩

/-- An Initial UE Message that leads to a context leaves the binding of the UE alone, or has a PDU
that verifies, exactly when the PDU verifies or the UE is connected there already; and an Uplink
NAS Transport is taken only from the gNB of the UE exactly when it comes from there, or the context
is about to go. -/
theorem n2_binding_guarded_iff (s : Server) (g ue : Ptr) (req : InitialUEMessage)
    (amfUENGAPId : Int64) (pdu : Bytes) (rejected released : Bool) (h : s.Resolves req ue) :
    (SameBinding s (s.handleInitialUEMessage g req rejected released) ue ∨
        Verifies (s.ctx ue).securityCtx req.nasPdu ↔
      Verifies (s.ctx ue).securityCtx req.nasPdu ∨ ConnectedAt s g ue req.ranUENGAPId) ∧
    (s.FromOwnGNB g amfUENGAPId pdu ↔ ∀ ue', s.mgr.getByNGAPId amfUENGAPId = some ue' →
      (s.ctx ue').pendingRemoval = true ∨ s.gnbAddr ue' = (s.gnb g).addr) := by
  refine ⟨?_, fromOwnGNB_iff s g amfUENGAPId pdu⟩
  rw [handleInitialUEMessage_of_resolves h, sameBinding_returning_iff, or_comm]

/-- A UE with the 5G-TMSI 9 and keys in use, idle at the first of two gNBs. -/
def idleUE : Server :=
  let s := (new (Manager.newManager ⟨"001", "01", 1, 1, 1⟩ false false)).connect "gnb1" []
  let s := (s.connect "gnb2" []).fresh 0 ⟨7, none, [], none⟩
  let s := (s.handleUEContextReleaseComplete 0 1 7).updateUE 0
    ({ · with securityCtx := { knasint := List.replicate 16 0, active := true } })
  { s with mgr := { s.mgr with uesByTMSI := s.mgr.uesByTMSI.insert 9 0 } }

def plainServiceRequest : InitialUEMessage := ⟨8, some 9, [0x7E, 0x00, 0x4C], none⟩

/-- The UE has come back at the first gNB, and the message comes again. -/
theorem n2_binding_guarded_again : let s := idleUE.returning 0 0 plainServiceRequest
    s.Resolves plainServiceRequest 0 ∧
      (SameBinding s (s.handleInitialUEMessage 0 plainServiceRequest true true) 0 ∨
        Verifies (s.ctx 0).securityCtx plainServiceRequest.nasPdu) ∧
      s.FromOwnGNB 0 1 [0x7E, 0x00, 0x4C] := by
  intro s
  have hres : s.Resolves plainServiceRequest 0 := ⟨rfl, 9, rfl, rfl⟩
  obtain ⟨hbinding, huplink⟩ :=
    n2_binding_guarded_iff s 0 0 plainServiceRequest 1 [0x7E, 0x00, 0x4C] true true hres
  refine ⟨hres, hbinding.mpr (.inr ⟨rfl, rfl, rfl, rfl, rfl, fun r hr => ?_⟩), huplink.mpr ?_⟩
  · cases hr
  · intro ue hue
    obtain rfl : 0 = ue := Option.some.inj hue
    exact .inr rfl

/-- A gNB that sends the plain Service Request has the UE, and one that the UE is not bound to gets
a PDU of its own to the NAS side. -/
theorem n2_binding_hijacked : idleUE.Resolves plainServiceRequest 0 ∧
      ¬Verifies (idleUE.ctx 0).securityCtx plainServiceRequest.nasPdu ∧ idleUE.gnbAddr 0 = "gnb1" ∧
      (idleUE.handleInitialUEMessage 1 plainServiceRequest true true).gnbAddr 0 = "gnb2" ∧
      ¬SameBinding idleUE (idleUE.handleInitialUEMessage 1 plainServiceRequest true true) 0 ∧
      ¬idleUE.FromOwnGNB 1 1 [0x7E, 0x00, 0x4C] := by
  have hres : idleUE.Resolves plainServiceRequest 0 := ⟨rfl, 9, rfl, rfl⟩
  refine ⟨hres, fun h => ?_, rfl, rfl, fun h => ?_, fun h => ?_⟩
  · exact absurd h.2.1 (by decide)
  · exact absurd h.gnbAddr (by decide)
  · have haddr := ((fromOwnGNB_iff ..).mp h 0 rfl).resolve_left (by decide)
    exact absurd haddr (by decide)

end Claudia5gc.Amf.Ngap.Server
