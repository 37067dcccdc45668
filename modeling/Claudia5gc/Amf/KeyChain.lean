import Claudia5gc.Amf.Frames
import Mathlib.Logic.Function.Iterate

/-!
# The chain of next-hop keys

`SetKgNB` starts a chain of keys for handovers and `NextNH` takes the next one.  Each key is derived
from the one before under KAMF, and the counter that goes with it counts modulo eight.
-/

namespace Claudia5gc.Amf

open Go Nas Proc Handler Vector

/-! ## The system -/

/-- The procedures that change the chain or the key under it. -/
inductive KeyInput where
  | phase2 (authResp : AuthenticationResponse) (env : Env)
  | setKgNB (kgnb : Vector UInt8 32)
  | nextNH

/-- The AMF, with the KgNB that was set last and the successful `NextNH` calls since. -/
structure KeyChain where
  amf : Handler
  start : Option (Bytes × Nat)

namespace KeyChain

def step (cfg : Config) (ue : Ptr) : System KeyChain KeyInput
  | s, .phase2 authResp env, s' =>
    s' = { s with amf := ((phase2ProcessAuthResponse cfg env ue authResp).run s.amf).2 }
  | s, .setKgNB kgnb, s' =>
    s' = { amf := ((update ue fun c => c.setKgNB kgnb.toList).run s.amf).2
           start := some (kgnb.toList, 0) }
  | s, .nextNH, s' =>
    s' = { amf := ((update ue fun c => c.nextNH.2).run s.amf).2
           start :=
             if (s.amf.ctx ue).nextNH.1.isSome then s.start.map fun p => (p.1, p.2 + 1)
             else s.start }

/-- A valid chain is the one that was started with the last KgNB, under the KAMF of now. -/
def Rooted (c : UEContext) (start : Option (Bytes × Nat)) : Prop :=
  c.nhValid = true → ∃ kgnb n, start = some (kgnb, n) ∧
    c.nh = (Crypto.knh c.securityCtx.kamf)^[n + 1] kgnb ∧ c.ncc = UInt8.ofNat ((1 + n) % 8)

def Undisturbed (cfg : Config) (ue : Ptr) : KeyChain → KeyInput → Prop
  | s, .phase2 authResp env =>
    (s.amf.ctx ue).nhValid = true →
      (((phase2ProcessAuthResponse cfg env ue authResp).run s.amf).2.ctx
        ue).securityCtx.kamf = (s.amf.ctx ue).securityCtx.kamf
  | _, _ => True

/-! ## What the procedures do to the chain -/

theorem rooted_setKgNB (c : UEContext) (kgnb : Bytes) :
    Rooted (c.setKgNB kgnb) (some (kgnb, 0)) := by
  unfold UEContext.setKgNB
  split
  · exact fun _ => ⟨kgnb, 0, rfl, rfl, rfl⟩
  · exact fun hvalid => Bool.noConfusion hvalid

theorem ncc_succ (n : Nat) : (UInt8.ofNat ((1 + n) % 8) + 1) % UEContext.nccModulus =
      UInt8.ofNat ((1 + (n + 1)) % 8) := by
  have hlt : (1 + n) % 8 < 8 := Nat.mod_lt _ (by decide)
  apply UInt8.toNat_inj.mp
  simp only [UInt8.toNat_mod, UInt8.toNat_add, UInt8.toNat_ofNat', UInt8.reduceToNat,
    UEContext.nccModulus]
  omega

theorem rooted_nextNH {c : UEContext} {start : Option (Bytes × Nat)} (h : Rooted c start) :
    Rooted c.nextNH.2
      (if c.nextNH.1.isSome then start.map fun p => (p.1, p.2 + 1) else start) := by
  unfold UEContext.nextNH
  split
  · next hchain =>
    intro _
    obtain ⟨kgnb, n, rfl, hnh, hncc⟩ := h (Bool.and_eq_true_iff.mp hchain).1
    refine ⟨kgnb, n + 1, rfl, ?_, ?_⟩
    · change Crypto.knh c.securityCtx.kamf c.nh = _
      rw [hnh]
      exact (Function.iterate_succ_apply' _ _ _).symm
    · rw [hncc, ncc_succ]
  · exact h

/-- The part of a context that belongs to the chain. -/
def chainFields (c : UEContext) : Bytes × UInt8 × Bool := (c.nh, c.ncc, c.nhValid)

theorem phase2_chain (cfg : Config) (env : Env) (ue : Ptr) (authResp : AuthenticationResponse)
    (s : Handler) : let c := ((phase2ProcessAuthResponse cfg env ue authResp).run s).2.ctx ue
    c.nh = (s.ctx ue).nh ∧ c.ncc = (s.ctx ue).ncc ∧ c.nhValid = (s.ctx ue).nhValid := by
  have hframe : Keeps (Handler.Frame chainFields fun _ => True)
      (phase2ProcessAuthResponse cfg env ue authResp) :=
    keeps_phase2ProcessAuthResponse cfg env ue authResp (fun _ _ _ => trivial)
      (fun _ _ => rfl) fun _ _ => rfl
  obtain ⟨hnh, hrest⟩ := Prod.mk.inj ((hframe s).1 ue)
  exact ⟨hnh, Prod.mk.inj hrest⟩

/-! ## Every run -/

theorem rooted_step {cfg : Config} {ue : Ptr} {s s' : KeyChain} {input : KeyInput}
    (h : Rooted (s.amf.ctx ue) s.start)
    (hstep : ((step cfg ue).when (Undisturbed cfg ue)) s input s') :
    Rooted (s'.amf.ctx ue) s'.start := by
  obtain ⟨hok, hstep⟩ := hstep
  cases input with
  | phase2 authResp env =>
    obtain rfl := hstep
    obtain ⟨hnh, hncc, hvalid⟩ := phase2_chain cfg env ue authResp s.amf
    intro hvalid'
    have hvalid₀ : (s.amf.ctx ue).nhValid = true := hvalid.symm.trans hvalid'
    obtain ⟨kgnb, n, hstart, hnh₀, hncc₀⟩ := h hvalid₀
    refine ⟨kgnb, n, hstart, hnh.trans ?_, hncc.trans hncc₀⟩
    rw [hok hvalid₀]
    exact hnh₀
  | setKgNB kgnb =>
    obtain rfl := hstep
    rw [ctx_update, if_pos rfl]
    exact rooted_setKgNB _ _
  | nextNH =>
    obtain rfl := hstep
    rw [ctx_update, if_pos rfl]
    exact rooted_nextNH h

/-! ## A run -/

def idle : KeyChain where
  amf := newHandler (Manager.newManager ⟨"001", "01", 1, 1, 1⟩ false false)
  start := none

def confirming (octet : UInt8) : Env where
  confirmAuth := .ok ⟨"imsi-001010000000001", List.replicate 32 octet⟩

def chained : KeyChain :=
  let s := ((phase2ProcessAuthResponse .minimal (confirming 5) 0
    { res := [0xAA] }).run idle.amf).2
  ⟨((update 0 fun c => c.setKgNB (replicate 32 7).toList).run s).2,
    some ((replicate 32 7).toList, 0)⟩

theorem run_chained : Run ((step .minimal 0).when (Undisturbed .minimal 0)) idle
    [.phase2 { res := [0xAA] } (confirming 5), .setKgNB (replicate 32 7)] chained := by
  have hphase2 : ((step .minimal 0).when (Undisturbed .minimal 0)) idle
      (.phase2 { res := [0xAA] } (confirming 5)) _ :=
    ⟨fun hvalid => (nomatch hvalid), rfl⟩
  exact (Run.nil.snoc _ hphase2).snoc (.setKgNB (replicate 32 7)) ⟨trivial, rfl⟩

theorem nhValid_chained : (chained.amf.ctx 0).nhValid = true := by decide +kernel

end KeyChain

end Claudia5gc.Amf
