/-
# The adapter table

What the dispatcher keeps, seen from outside: at most one registry, and a table of
adapter records.  Three changes are possible (the registry is opened, a record is
added, the status of a record is toggled), each under a condition on the table
alone.

`Table.Valid` is the invariant of the table: everything lies at the address derived
from its own contents, and a record presupposes the registry.  Uniqueness of the
registry and of records follows from it.
-/
import YieldAdapter.DispatcherState
import YieldAdapter.Runs

open Solana

namespace Dispatcher

/-! ## Statuses -/

/-- The status after a toggle.  `Deprecated` is final. -/
def toggled : AdapterStatus → AdapterStatus
  | .Active => .Paused
  | .Paused => .Active
  | .Deprecated => .Deprecated

/-- A record with another status. -/
def Adapter.withStatus (a : Adapter) (s : AdapterStatus) : Adapter :=
  { a with status := s.as_u8 }

/-! ## The table -/

/-- What the dispatcher keeps, by address. -/
structure Table where
  registry : Pubkey → Option Registry
  adapter : Pubkey → Option Adapter

/-- Nothing yet. -/
def Table.empty : Table := ⟨fun _ => none, fun _ => none⟩

/-- The changes of a table. -/
inductive Change where
  | idle
  | openRegistry (address : Pubkey) (registry : Registry)
  | register (address : Pubkey) (record : Adapter)
  | toggle (address : Pubkey) (record : Adapter) (status : AdapterStatus)

/-- When a change is possible. -/
def Change.Enabled (C : Crypto) (t : Table) : Change → Prop
  | .idle => True
  | .openRegistry k r =>
      t.registry k = none ∧ t.adapter k = none ∧ r.initializer = INITIALIZER ∧
        find_program_address C Registry.seeds ID = some (k, r.bump)
  | .register k a =>
      t.registry k = none ∧ t.adapter k = none ∧ (∃ k₀ r, t.registry k₀ = some r) ∧
        a.invariant = .ok () ∧
        find_program_address C (Adapter.seeds a.program_id a.authority) ID = some (k, a.bump)
  | .toggle k a s => t.adapter k = some a ∧ a.status = s.as_u8 ∧ s ≠ .Deprecated

/-- The table after a change. -/
def Change.apply (t : Table) : Change → Table
  | .idle => t
  | .openRegistry k r => { t with registry := Function.update t.registry k (some r) }
  | .register k a => { t with adapter := Function.update t.adapter k (some a) }
  | .toggle k a s =>
      { t with adapter := Function.update t.adapter k (some (a.withStatus (toggled s))) }

/-! ## Validity -/

/-- **The invariant of the table.** -/
structure Table.Valid (C : Crypto) (t : Table) : Prop where
  /-- The registry lies at its address and names the initializer. -/
  registry : ∀ k r, t.registry k = some r →
    r.initializer = INITIALIZER ∧ find_program_address C Registry.seeds ID = some (k, r.bump)
  /-- A record is well formed and lies at the address of its program and authority. -/
  adapter : ∀ k a, t.adapter k = some a → a.invariant = .ok () ∧
    find_program_address C (Adapter.seeds a.program_id a.authority) ID = some (k, a.bump)
  /-- A record presupposes the registry. -/
  opened : ∀ k a, t.adapter k = some a → ∃ k₀ r, t.registry k₀ = some r
  /-- The registry is not a record. -/
  apart : ∀ k a, t.adapter k = some a → t.registry k = none

namespace Table.Valid

variable {C : Crypto} {t : Table}

theorem empty : Table.empty.Valid C :=
  ⟨fun _ _ h => absurd h (by simp [Table.empty]), fun _ _ h => absurd h (by simp [Table.empty]),
    fun _ _ h => absurd h (by simp [Table.empty]), fun _ _ h => absurd h (by simp [Table.empty])⟩

/-- There is at most one registry. -/
theorem registry_unique (ht : t.Valid C) {k k' : Pubkey} {r r' : Registry}
    (h : t.registry k = some r) (h' : t.registry k' = some r') : k = k' ∧ r = r' := by
  obtain ⟨hinit, hfind⟩ := ht.registry k r h
  obtain ⟨hinit', hfind'⟩ := ht.registry k' r' h'
  obtain ⟨hk, hbump⟩ := Prod.mk.inj (Option.some.inj (hfind.symm.trans hfind'))
  refine ⟨hk, ?_⟩
  cases r
  cases r'
  simp_all

/-- No two records share program and authority. -/
theorem adapter_unique (ht : t.Valid C) {k k' : Pubkey} {a a' : Adapter}
    (h : t.adapter k = some a) (h' : t.adapter k' = some a')
    (hprogram : a.program_id = a'.program_id) (hauthority : a.authority = a'.authority) :
    k = k' := by
  have hfind := (ht.adapter k a h).2
  have hfind' := (ht.adapter k' a' h').2
  rw [hprogram, hauthority] at hfind
  exact (Prod.mk.inj (Option.some.inj (hfind.symm.trans hfind'))).1

/-- No record lies at the registry's address. -/
theorem adapter_ne_registry (ht : t.Valid C) {k k₀ : Pubkey} {a : Adapter} {bump : UInt8}
    (h : t.adapter k = some a)
    (hfind : find_program_address C Registry.seeds ID = some (k₀, bump)) : k ≠ k₀ := by
  rintro rfl
  -- a record presupposes the registry, which then occupies the address itself
  obtain ⟨k₁, r, hr⟩ := ht.opened k a h
  have hfind' := (ht.registry k₁ r hr).2
  obtain ⟨rfl, -⟩ := Prod.mk.inj (Option.some.inj (hfind.symm.trans hfind'))
  rw [ht.apart k a h] at hr
  exact absurd hr (by simp)

/-- A status byte is all that toggling writes, and the invariant allows each. -/
theorem invariant_withStatus {a : Adapter} (h : a.invariant = .ok ()) (s : AdapterStatus) :
    (a.withStatus s).invariant = .ok () := by
  obtain ⟨hauthority, hprogram, hmint, -⟩ := Adapter.invariant_eq_ok.mp h
  exact Adapter.invariant_eq_ok.mpr ⟨hauthority, hprogram, hmint, s, rfl⟩

/-- An entry of an updated table is the new one or an old one. -/
theorem update_eq_some {α : Type} {f : Pubkey → Option α} {k k' : Pubkey} {a b : α}
    (h : Function.update f k (some a) k' = some b) :
    k' = k ∧ b = a ∨ k' ≠ k ∧ f k' = some b := by
  by_cases hk : k' = k
  · subst hk
    rw [Function.update_self] at h
    exact .inl ⟨rfl, (Option.some.inj h).symm⟩
  · rw [Function.update_of_ne hk] at h
    exact .inr ⟨hk, h⟩

/-- **Every possible change keeps the invariant.** -/
theorem apply (ht : t.Valid C) {c : Change} (hc : c.Enabled C t) : (c.apply t).Valid C := by
  cases c with
  | idle => exact ht
  | openRegistry k r =>
      obtain ⟨-, hvacant, hinit, hfind⟩ := hc
      refine ⟨?_, ht.adapter, fun _ _ _ => ⟨k, r, Function.update_self k _ _⟩, ?_⟩
      · intro k' r' h
        rcases update_eq_some h with ⟨rfl, rfl⟩ | ⟨-, h⟩
        · exact ⟨hinit, hfind⟩
        · exact ht.registry k' r' h
      · intro k' a h
        -- the registry is opened where there was no record
        have hk : k' ≠ k := by
          rintro rfl
          exact absurd (hvacant.symm.trans h) (by simp)
        exact (Function.update_of_ne hk _ _).trans (ht.apart k' a h)
  | register k a =>
      obtain ⟨hvacant, -, hopened, hinv, hfind⟩ := hc
      refine ⟨ht.registry, ?_, fun _ _ _ => hopened, ?_⟩
      · intro k' a' h
        rcases update_eq_some h with ⟨rfl, rfl⟩ | ⟨-, h⟩
        · exact ⟨hinv, hfind⟩
        · exact ht.adapter k' a' h
      · intro k' a' h
        rcases update_eq_some h with ⟨rfl, -⟩ | ⟨-, h⟩
        · exact hvacant
        · exact ht.apart k' a' h
  | toggle k a s =>
      obtain ⟨hheld, -, -⟩ := hc
      refine ⟨ht.registry, ?_, fun _ _ _ => ht.opened k a hheld, ?_⟩
      · intro k' a' h
        rcases update_eq_some h with ⟨rfl, rfl⟩ | ⟨-, h⟩
        · obtain ⟨hinv, hfind⟩ := ht.adapter k' a hheld
          exact ⟨invariant_withStatus hinv _, hfind⟩
        · exact ht.adapter k' a' h
      · intro k' a' h
        rcases update_eq_some h with ⟨rfl, -⟩ | ⟨-, h⟩
        · exact ht.apart k' a hheld
        · exact ht.apart k' a' h

end Table.Valid

/-! ## Persistence -/

/-- The parts of a record that never change. -/
def Adapter.SameEntry (a a' : Adapter) : Prop :=
  a'.authority = a.authority ∧ a'.program_id = a.program_id ∧
    a'.supported_mint = a.supported_mint ∧ a'.registered_at = a.registered_at ∧ a'.bump = a.bump

/-- Every record of `t` is still in `t'`, at its address and with the same entry. -/
def Table.Persists (t t' : Table) : Prop :=
  ∀ k a, t.adapter k = some a → ∃ a', t'.adapter k = some a' ∧ a.SameEntry a'

theorem Table.Persists.refl (t : Table) : t.Persists t :=
  fun _ a h => ⟨a, h, rfl, rfl, rfl, rfl, rfl⟩

theorem Table.Persists.trans {t₁ t₂ t₃ : Table} (h₁ : t₁.Persists t₂) (h₂ : t₂.Persists t₃) :
    t₁.Persists t₃ := by
  intro k a h
  obtain ⟨a', h', hauth, hprog, hmint, hat, hbump⟩ := h₁ k a h
  obtain ⟨a'', h'', hauth', hprog', hmint', hat', hbump'⟩ := h₂ k a' h'
  exact ⟨a'', h'', hauth'.trans hauth, hprog'.trans hprog, hmint'.trans hmint, hat'.trans hat,
    hbump'.trans hbump⟩

/-- **No change removes a record or alters its entry.** -/
theorem Table.persists_apply {C : Crypto} {t : Table} {c : Change} (hc : c.Enabled C t) :
    t.Persists (c.apply t) := by
  cases c with
  | idle => exact Table.Persists.refl t
  | openRegistry k r => exact fun k' a h => ⟨a, h, rfl, rfl, rfl, rfl, rfl⟩
  | register k a =>
      intro k' a' h
      have hk : k' ≠ k := by
        rintro rfl
        rw [hc.2.1] at h
        exact absurd h (by simp)
      exact ⟨a', (Function.update_of_ne hk _ _).trans h, rfl, rfl, rfl, rfl, rfl⟩
  | toggle k a s =>
      intro k' a' h
      by_cases hk : k' = k
      · subst hk
        obtain rfl := Option.some.inj (hc.1.symm.trans h)
        exact ⟨_, Function.update_self k' _ _, rfl, rfl, rfl, rfl, rfl⟩
      · exact ⟨a', (Function.update_of_ne hk _ _).trans h, rfl, rfl, rfl, rfl, rfl⟩

end Dispatcher
