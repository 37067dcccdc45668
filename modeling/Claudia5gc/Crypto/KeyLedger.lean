import Mathlib.Data.List.Nodup
import Mathlib.Data.List.Induction

/-!
# Messages numbered under a key

A sender numbers its messages and starts again at zero with every new key.  From the log of what it
did, `keyLedger` computes for each message the key that was in use and the number that the message
has under it.
-/

namespace Claudia5gc.Crypto

open List

variable {κ β : Type}

/-- One entry of the log. -/
inductive KeyUse (κ β : Type) where
  /-- A new key is put into use. -/
  | rekey (key : κ)
  /-- No key is in use any more. -/
  | erase
  /-- A message is sent. -/
  | send (message : β)

structure Numbered (κ β : Type) where
  key : Option κ
  number : Nat
  message : β

/-- The key in use, the number of the next message, and the messages so far. -/
structure KeyLedger (κ β : Type) where
  key : Option κ := none
  next : Nat := 0
  sent : List (Numbered κ β) := []

namespace KeyLedger

def step (l : KeyLedger κ β) : KeyUse κ β → KeyLedger κ β
  | .rekey key => { l with key := some key, next := 0 }
  | .erase => { l with key := none, next := 0 }
  | .send message =>
    { l with next := l.next + 1, sent := l.sent ++ [⟨l.key, l.next, message⟩] }

end KeyLedger

def keyLedger (log : List (KeyUse κ β)) : KeyLedger κ β := log.foldl KeyLedger.step {}

section

variable (log : List (KeyUse κ β))

theorem keyLedger_snoc (entry : KeyUse κ β) :
    keyLedger (log ++ [entry]) = (keyLedger log).step entry :=
  foldl_concat ..

def KeyUse.newKey : KeyUse κ β → Option κ
  | .rekey key => some key
  | _ => none

def keysOf (log : List (KeyUse κ β)) : List κ := log.filterMap KeyUse.newKey

theorem keysOf_snoc (entry : KeyUse κ β) :
    keysOf (log ++ [entry]) = keysOf log ++ entry.newKey.toList := by
  unfold keysOf
  rw [filterMap_append]
  cases entry <;> rfl

theorem mem_keysOf : (∀ key ∈ (keyLedger log).key, key ∈ keysOf log) ∧
      ∀ m ∈ (keyLedger log).sent, ∀ key ∈ m.key, key ∈ keysOf log := by
  induction log using reverseRecOn with
  | nil => exact ⟨fun _ h => (nomatch h), fun _ h => nomatch h⟩
  | append_singleton log entry ih =>
    obtain ⟨hkey, hsent⟩ := ih
    rw [keyLedger_snoc, keysOf_snoc]
    have hsent' : ∀ m ∈ (keyLedger log).sent, ∀ key ∈ m.key,
        key ∈ keysOf log ++ entry.newKey.toList :=
      fun m hm key hmem => mem_append_left _ (hsent m hm key hmem)
    cases entry with
    | rekey key =>
      refine ⟨fun key' hmem => ?_, hsent'⟩
      cases hmem
      exact mem_append_right _ mem_cons_self
    | erase => exact ⟨fun _ hmem => (nomatch hmem), hsent'⟩
    | send message =>
      have hkey' : ∀ key ∈ (keyLedger log).key, key ∈ keysOf log ++ [] :=
        fun key hmem => mem_append_left _ (hkey key hmem)
      refine ⟨hkey', fun m hm => ?_⟩
      rcases mem_append.mp hm with hold | hnew
      · exact hsent' m hold
      · obtain rfl := mem_singleton.mp hnew
        exact hkey'

end

theorem number_lt_next {log : List (KeyUse κ β)} (hkeys : (keysOf log).Nodup) {key : κ}
    (hkey : (keyLedger log).key = some key) :
    ∀ m ∈ (keyLedger log).sent, m.key = some key → m.number < (keyLedger log).next := by
  induction log using reverseRecOn with
  | nil => exact fun _ h => nomatch h
  | append_singleton log entry ih =>
    rw [keysOf_snoc] at hkeys
    rw [keyLedger_snoc] at hkey ⊢
    cases entry with
    | rekey key' =>
      -- The key is new, so no message was sent under it.
      obtain rfl := Option.some.inj hkey
      intro m hm hmkey
      have hfresh := (nodup_append.mp hkeys).2.2 key'
        ((mem_keysOf log).2 m hm key' hmkey) key' mem_cons_self
      exact absurd rfl hfresh
    | erase => cases hkey
    | send message =>
      have hlt := ih hkeys.of_append_left hkey
      intro m hm hmkey
      change m.number < (keyLedger log).next + 1
      rcases mem_append.mp hm with hold | hnew
      · have := hlt m hold hmkey
        omega
      · obtain rfl := mem_singleton.mp hnew
        exact Nat.lt_succ_self _

theorem nodup_keyLedger {log : List (KeyUse κ β)} (hkeys : (keysOf log).Nodup)
    (hsome : ∀ m ∈ (keyLedger log).sent, m.key ≠ none) :
    ((keyLedger log).sent.map fun m => (m.key, m.number)).Nodup := by
  induction log using reverseRecOn with
  | nil => exact nodup_nil
  | append_singleton log entry ih =>
    rw [keysOf_snoc] at hkeys
    rw [keyLedger_snoc] at hsome ⊢
    have hkeys' := hkeys.of_append_left
    cases entry with
    | rekey key | erase => exact ih hkeys' hsome
    | send message =>
      let last : Numbered κ β := ⟨(keyLedger log).key, (keyLedger log).next, message⟩
      have hlast : last.key ≠ none := hsome last (mem_append_right _ mem_cons_self)
      obtain ⟨key, hkey⟩ := Option.ne_none_iff_exists'.mp hlast
      change (((keyLedger log).sent ++ [last]).map fun m => (m.key, m.number)).Nodup
      rw [map_append, map_singleton]
      refine nodup_append.mpr ⟨ih hkeys' fun m hm => hsome m (mem_append_left _ hm),
        nodup_singleton _, ?_⟩
      intro pair hpair pair' hpair' heq
      obtain ⟨m, hm, rfl⟩ := mem_map.mp hpair
      obtain rfl := mem_singleton.mp hpair'
      obtain ⟨hmkey, hnumber⟩ := Prod.mk.inj heq
      have hlt := number_lt_next hkeys' hkey m hm (hmkey.trans hkey)
      exact Nat.ne_of_lt hlt hnumber

theorem exists_of_lt_next (log : List (KeyUse κ β)) {n : Nat} (hn : n < (keyLedger log).next) :
    ∃ message, ⟨(keyLedger log).key, n, message⟩ ∈ (keyLedger log).sent := by
  induction log using reverseRecOn with
  | nil => exact absurd hn (Nat.not_lt_zero n)
  | append_singleton log entry ih =>
    rw [keyLedger_snoc] at hn ⊢
    cases entry with
    | rekey key | erase => exact absurd hn (Nat.not_lt_zero n)
    | send message =>
      change n < (keyLedger log).next + 1 at hn
      rcases Nat.lt_or_eq_of_le (Nat.le_of_lt_succ hn) with hlt | rfl
      · obtain ⟨message', hmem⟩ := ih hlt
        exact ⟨message', mem_append_left _ hmem⟩
      · exact ⟨message, mem_append_right _ mem_cons_self⟩

end Claudia5gc.Crypto
