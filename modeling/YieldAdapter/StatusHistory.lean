/-
# The history of a record's status

Where records come from, and what becomes of their status: a record is created by
one `adapter_init`, and from then on its status changes by nothing but the
successful toggles of that very record, so it is determined by how many there
were.
-/
import YieldAdapter.RegistryInvariant

open Solana

namespace Dispatcher

/-! ## Toggling a status -/

theorem toggled_involutive : Function.Involutive toggled := fun s => by cases s <;> rfl

theorem toggled_ne_deprecated {s : AdapterStatus} (h : s ≠ .Deprecated) :
    toggled s ≠ .Deprecated := by
  cases s <;> simp_all [toggled]

/-- An even number of toggles undoes itself, an odd number is one toggle. -/
theorem toggled_iterate (s : AdapterStatus) (n : ℕ) :
    toggled^[n] s = if Even n then s else toggled s := by
  by_cases h : Even n
  · rw [if_pos h, toggled_involutive.iterate_even h]
    rfl
  · rw [if_neg h, toggled_involutive.iterate_odd (Nat.not_even_iff_odd.mp h)]

/-- The record after a toggle. -/
def Adapter.toggle (a : Adapter) : Adapter :=
  match AdapterStatus.from_u8 a.status with
  | some s => a.withStatus (toggled s)
  | none => a

theorem Adapter.toggle_of_status {a : Adapter} {s : AdapterStatus} (h : a.status = s.as_u8) :
    a.toggle = a.withStatus (toggled s) := by
  rw [toggle, h, AdapterStatus.from_u8_as_u8]

/-- Toggling repeatedly toggles the status repeatedly, and leaves the entry alone. -/
theorem Adapter.toggle_iterate {a : Adapter} {s : AdapterStatus} (h : a.status = s.as_u8)
    (n : ℕ) : Adapter.toggle^[n] a = a.withStatus (toggled^[n] s) := by
  induction n generalizing a s with
  | zero =>
      rw [Function.iterate_zero, Function.iterate_zero, id, id, withStatus, ← h]
  | succ n ih =>
      rw [Function.iterate_succ_apply, Function.iterate_succ_apply, Adapter.toggle_of_status h,
        ih (a := a.withStatus (toggled s)) rfl]
      rfl

/-! ## Steps and runs -/

section Run

variable {C : Crypto} {ℓ ℓ₀ : Ledger} {k : Pubkey}

/-- **What one step does to a record**: a successful toggle of it toggles it, and
nothing else changes it. -/
theorem adapter_step {a : Adapter} (h : heldAdapter (ℓ k) = some a) (action : Action) :
    (Toggles C k ℓ action = true → a.status ≠ AdapterStatus.Deprecated.as_u8 ∧
      heldAdapter (step C ℓ action k) = some a.toggle) ∧
    (Toggles C k ℓ action = false → heldAdapter (step C ℓ action k) = some a) := by
  obtain ⟨c, henabled, hview, hby⟩ := step_change (C := C) (ℓ := ℓ) action
  have hheld : heldAdapter (step C ℓ action k) = (c.apply (view ℓ)).adapter k :=
    congrFun (congrArg Table.adapter hview) k
  rw [hheld]
  cases c with
  | idle => exact ⟨fun ht => absurd ((hby k).symm.trans ht) (by simp), fun _ => h⟩
  | openRegistry k' r => exact ⟨fun ht => absurd ((hby k).symm.trans ht) (by simp), fun _ => h⟩
  | register k' a' =>
      -- a record is only registered where there is none yet
      have hne : k ≠ k' := by
        rintro rfl
        exact absurd (henabled.2.1.symm.trans h) (by simp)
      exact ⟨fun ht => absurd ((hby.1 k).symm.trans ht) (by simp),
        fun _ => (Function.update_of_ne hne _ _).trans h⟩
  | toggle k' a' s =>
      rw [hby k]
      by_cases hk : k' = k
      · subst hk
        obtain ⟨hheld', hstatus, hne⟩ := henabled
        obtain rfl := Option.some.inj (hheld'.symm.trans h)
        refine ⟨fun _ => ⟨?_, ?_⟩, fun ht => absurd ht (by simp)⟩
        · rw [hstatus]
          intro hdeprecated
          have := congrArg AdapterStatus.from_u8 hdeprecated
          rw [AdapterStatus.from_u8_as_u8, AdapterStatus.from_u8_as_u8] at this
          exact hne (Option.some.inj this)
        · rw [Adapter.toggle_of_status hstatus]
          exact Function.update_self _ _ _
      · refine ⟨fun ht => absurd (of_decide_eq_true ht) hk, fun _ => ?_⟩
        exact (Function.update_of_ne (Ne.symm hk) _ _).trans h

/-- The number of successful toggles of the record at `k` in a run. -/
def countToggles (C : Crypto) (k : Pubkey) (ℓ : Ledger) (actions : List Action) : ℕ :=
  Runs.countMarked (step C) (Toggles C k) ℓ actions

/-- **What a run does to a record**: it toggles it as often as it is toggled. -/
theorem adapter_run {a : Adapter} (h : heldAdapter (ℓ k) = some a) (actions : List Action) :
    heldAdapter (ledgerAfter C ℓ actions k) =
      some (Adapter.toggle^[countToggles C k ℓ actions] a) := by
  have hkept : ∀ (ℓ : Ledger) (action : Action), (∃ a, heldAdapter (ℓ k) = some a) →
      ∃ a, heldAdapter (step C ℓ action k) = some a := by
    rintro ℓ action ⟨a, ha⟩
    obtain ⟨a', ha', -⟩ := persists_ledgerAfter (C := C) ℓ [action] k a ha
    exact ⟨a', ha'⟩
  have hmarked : ∀ (ℓ : Ledger) (action : Action), (∃ a, heldAdapter (ℓ k) = some a) →
      Toggles C k ℓ action = true →
      heldAdapter (step C ℓ action k) = (heldAdapter (ℓ k)).map Adapter.toggle := by
    rintro ℓ action ⟨a, ha⟩ hmark
    rw [((adapter_step ha action).1 hmark).2, ha]
    rfl
  have hother : ∀ (ℓ : Ledger) (action : Action), (∃ a, heldAdapter (ℓ k) = some a) →
      Toggles C k ℓ action = false →
      heldAdapter (step C ℓ action k) = heldAdapter (ℓ k) := by
    rintro ℓ action ⟨a, ha⟩ hmark
    rw [(adapter_step ha action).2 hmark, ha]
  have hcount := Runs.iterate_of_marked (f := fun ℓ : Ledger => heldAdapter (ℓ k)) hkept hmarked
    hother ⟨a, h⟩ actions
  rw [ledgerAfter, hcount, h]
  exact (Function.Semiconj.iterate_right (f := some) (fun _ => rfl) _ a).symm

/-- A deprecated record is never toggled. -/
theorem countToggles_of_deprecated {a : Adapter} (h : heldAdapter (ℓ k) = some a)
    (hdeprecated : a.status = AdapterStatus.Deprecated.as_u8) (actions : List Action) :
    countToggles C k ℓ actions = 0 := by
  have hnone : ∀ (ℓ : Ledger) (action : Action), heldAdapter (ℓ k) = some a →
      Toggles C k ℓ action = false := by
    intro ℓ action ha
    by_contra hmark
    exact ((adapter_step ha action).1 (Bool.not_eq_false _ ▸ hmark)).1 hdeprecated
  exact Runs.countMarked_eq_zero (I := fun ℓ : Ledger => heldAdapter (ℓ k) = some a)
    (fun ℓ action ha => (adapter_step ha action).2 (hnone ℓ action ha)) hnone h actions

/-- **Where a record comes from**: some step of the run registered it. -/
theorem exists_registers (h₀ : NoData ℓ₀) {actions : List Action} {a : Adapter}
    (h : heldAdapter (ledgerAfter C ℓ₀ actions k) = some a) :
    ∃ before action after a₀, actions = before ++ action :: after ∧
      Registers C k a₀ (ledgerAfter C ℓ₀ before) action ∧ a₀.SameEntry a := by
  have hstart : ¬ heldAdapter (ℓ₀ k) ≠ none := by
    rw [not_not]
    exact congrFun (congrArg Table.adapter (view_of_noData h₀)) k
  -- the record is not there at the start, so there is a step that brings it about
  obtain ⟨before, action, after, rfl, hbefore, hafter⟩ :=
    Runs.exists_turning_point (P := fun ℓ : Ledger => heldAdapter (ℓ k) ≠ none) hstart
      (by rw [h]; simp)
  obtain ⟨a₀, ha₀⟩ := Option.ne_none_iff_exists'.mp hafter
  rw [not_not] at hbefore
  obtain ⟨c, henabled, hview, hby⟩ :=
    step_change (C := C) (ℓ := ledgerAfter C ℓ₀ before) action
  have hnew : (c.apply (view (ledgerAfter C ℓ₀ before))).adapter k = some a₀ :=
    (congrFun (congrArg Table.adapter hview) k).symm.trans ha₀
  have hold : (view (ledgerAfter C ℓ₀ before)).adapter k = none := hbefore
  have hentry : a₀.SameEntry a := by
    obtain ⟨a', ha', hsame⟩ := persists_ledgerAfter (C := C) _ after k a₀ ha₀
    rw [ledgerAfter, Runs.run_append, Runs.run_cons] at h
    obtain rfl := Option.some.inj (ha'.symm.trans h)
    exact hsame
  refine ⟨before, action, after, a₀, rfl, ?_, hentry⟩
  cases c with
  | idle => exact absurd (hold.symm.trans hnew) (by simp)
  | openRegistry k' r => exact absurd (hold.symm.trans hnew) (by simp)
  | register k' a' =>
      rcases Table.Valid.update_eq_some hnew with ⟨rfl, rfl⟩ | ⟨-, hk⟩
      · exact hby.2
      · exact absurd (hold.symm.trans hk) (by simp)
  | toggle k' a' s =>
      -- a toggle finds the record there already
      rcases Table.Valid.update_eq_some hnew with ⟨rfl, rfl⟩ | ⟨-, hk⟩
      · exact absurd (hold.symm.trans henabled.1) (by simp)
      · exact absurd (hold.symm.trans hk) (by simp)

/-- The status of a record denotes a status. -/
theorem exists_status (h₀ : NoData ℓ₀) {actions : List Action} {a : Adapter}
    (h : heldAdapter (ledgerAfter C ℓ₀ actions k) = some a) :
    ∃ s : AdapterStatus, a.status = s.as_u8 := by
  obtain ⟨hinv, -⟩ := (valid_ledgerAfter (C := C) h₀ actions).adapter k a h
  exact (Adapter.invariant_eq_ok.mp hinv).2.2.2

theorem as_u8_ne_deprecated {s : AdapterStatus} (h : s ≠ .Deprecated) :
    s.as_u8 ≠ AdapterStatus.Deprecated.as_u8 := by
  cases s <;> simp_all [AdapterStatus.as_u8]

/-- **The status law.**  From its registration on, a record's status is determined
by the status it was registered with and the number of its successful toggles. -/
theorem status_of_registers (h₀ : NoData ℓ₀) {before : List Action} {action : Action}
    {a₀ : Adapter} (h : Registers C k a₀ (ledgerAfter C ℓ₀ before) action)
    (after : List Action) :
    ∃ s₀ a, a₀.status = AdapterStatus.as_u8 s₀ ∧
      heldAdapter (ledgerAfter C ℓ₀ (before ++ action :: after) k) = some a ∧
      a₀.SameEntry a ∧
      let n := countToggles C k (ledgerAfter C ℓ₀ (before ++ [action])) after
      (s₀ = .Deprecated → n = 0 ∧ a.status = AdapterStatus.Deprecated.as_u8) ∧
      (s₀ ≠ .Deprecated → a.status = (if Even n then s₀ else toggled s₀).as_u8 ∧
        a.status ≠ AdapterStatus.Deprecated.as_u8) := by
  obtain ⟨-, -, -, -, -, -, -, -, -, -, -, hheld, -⟩ := h
  have hend : ledgerAfter C ℓ₀ (before ++ action :: after) =
      ledgerAfter C (ledgerAfter C ℓ₀ (before ++ [action])) after := by
    rw [ledgerAfter, ledgerAfter, ← Runs.run_append, List.append_assoc, List.singleton_append]
  have hstart : heldAdapter (ledgerAfter C ℓ₀ (before ++ [action]) k) = some a₀ := by
    rw [ledgerAfter, Runs.run_append]
    exact hheld
  -- from the registration on, the run toggles the record as often as it is toggled
  obtain ⟨s₀, hs₀⟩ := exists_status h₀ hstart
  have hfinal := adapter_run (C := C) hstart after
  rw [Adapter.toggle_iterate hs₀, toggled_iterate, ← hend] at hfinal
  refine ⟨s₀, _, hs₀, hfinal, ⟨rfl, rfl, rfl, rfl, rfl⟩, ?_, ?_⟩
  · rintro rfl
    refine ⟨countToggles_of_deprecated hstart hs₀ after, ?_⟩
    rw [countToggles_of_deprecated hstart hs₀ after]
    rfl
  · intro hne
    refine ⟨rfl, ?_⟩
    show AdapterStatus.as_u8 _ ≠ _
    split_ifs
    · exact as_u8_ne_deprecated hne
    · exact as_u8_ne_deprecated (toggled_ne_deprecated hne)

/-- **A successful toggle** was signed by the record's authority, and emits one
`ToggleEvent` with the status that the record has afterwards. -/
theorem toggle_of_ok {w : World} {accounts : List AccountMeta}
    (h : (execute C w accounts .toggle_adapter ℓ).result = .ok ()) :
    ∃ authority adapter rest a a', accounts = authority :: adapter :: rest ∧
      heldAdapter (ℓ adapter.pubkey) = some a ∧
      authority.is_signer = true ∧ authority.pubkey = a.authority ∧
      heldAdapter ((execute C w accounts .toggle_adapter ℓ).ledger adapter.pubkey) = some a' ∧
      (execute C w accounts .toggle_adapter ℓ).events =
        [(ID, .ToggleEvent a.authority adapter.pubkey a.program_id a'.status)] := by
  obtain ⟨authority, adapter, rest, a, s, data, rfl, hsigner, hheld, hkey, -, -, hevents,
    hledger⟩ := execute_toggle_adapter h
  refine ⟨authority, adapter, rest, a, a.withStatus (toggled s), rfl, hheld, hsigner, hkey.symm,
    ?_, ?_⟩
  · rw [hledger, Function.update_self]
    exact Adapter.accountType.held_serialized _ ID _ data
  · rw [hevents, hkey]
    rfl

end Run

/-- **Status history and authority.**  Along every run

1. from its registration on, the status of a record is determined by the status it
   was registered with and the number `n` of its successful toggles: `Deprecated`
   is never toggled, and any other status alternates between `Active` and `Paused`;
2. every record was registered in the run;
3. every successful toggle was signed by the record's stored authority and emits
   exactly one `ToggleEvent`, with the status afterwards;
4. a step that is not a successful toggle of a record leaves it as it is. -/
theorem status_history {C : Crypto} {ℓ₀ : Ledger} (h₀ : NoData ℓ₀) :
    (∀ before action k a₀ after, Registers C k a₀ (ledgerAfter C ℓ₀ before) action →
      ∃ s₀ a, a₀.status = AdapterStatus.as_u8 s₀ ∧
        heldAdapter (ledgerAfter C ℓ₀ (before ++ action :: after) k) = some a ∧
        a₀.SameEntry a ∧
        let n := countToggles C k (ledgerAfter C ℓ₀ (before ++ [action])) after
        (s₀ = .Deprecated → n = 0 ∧ a.status = AdapterStatus.Deprecated.as_u8) ∧
        (s₀ ≠ .Deprecated → a.status = (if Even n then s₀ else toggled s₀).as_u8 ∧
          a.status ≠ AdapterStatus.Deprecated.as_u8)) ∧
    (∀ actions k a, heldAdapter (ledgerAfter C ℓ₀ actions k) = some a →
      ∃ before action after a₀, actions = before ++ action :: after ∧
        Registers C k a₀ (ledgerAfter C ℓ₀ before) action ∧ a₀.SameEntry a) ∧
    (∀ actions w accounts,
      let ℓ := ledgerAfter C ℓ₀ actions
      let out := execute C w accounts .toggle_adapter ℓ
      out.result = .ok () →
        ∃ authority adapter rest a a', accounts = authority :: adapter :: rest ∧
          heldAdapter (ℓ adapter.pubkey) = some a ∧
          authority.is_signer = true ∧ authority.pubkey = a.authority ∧
          heldAdapter (out.ledger adapter.pubkey) = some a' ∧
          out.events = [(ID, .ToggleEvent a.authority adapter.pubkey a.program_id a'.status)]) ∧
    (∀ actions action k a, heldAdapter (ledgerAfter C ℓ₀ actions k) = some a →
      Toggles C k (ledgerAfter C ℓ₀ actions) action = false →
      heldAdapter (step C (ledgerAfter C ℓ₀ actions) action k) = some a) := by
  refine ⟨?_, ?_, ?_, ?_⟩
  · intro before action k a₀ after h
    exact status_of_registers h₀ h after
  · intro actions k a h
    exact exists_registers h₀ h
  · intro actions w accounts ℓ out h
    exact toggle_of_ok h
  · intro actions action k a h hother
    exact (adapter_step h action).2 hother

/-- Registered `Active` and toggled once, the Drift adapter is `Paused`. -/
theorem status_history_toggleDrift :
    ∃ a, heldAdapter (ledgerAfter sampleCrypto genesis
      [openRegistry, registerDrift 0, toggleDrift] driftAddress) = some a ∧
        a.status = AdapterStatus.Paused.as_u8 := by
  obtain ⟨hlaw, -, -, -⟩ := status_history (C := sampleCrypto) noData_genesis
  have hregisters : Registers sampleCrypto driftAddress (driftRecord 0)
      (ledgerAfter sampleCrypto genesis [openRegistry]) (registerDrift 0) :=
    ⟨quietWorld, _, _, _, _, rfl, by decide +kernel, rfl,
      ⟨registryAddress, ⟨INITIALIZER, 255⟩, by decide +kernel, rfl⟩, rfl, by decide +kernel,
      by decide +kernel, rfl⟩
  obtain ⟨s₀, a, hs₀, hheld, -, -, hodd⟩ := hlaw _ _ _ _ [toggleDrift] hregisters
  have hcount : countToggles sampleCrypto driftAddress
      (ledgerAfter sampleCrypto genesis [openRegistry, registerDrift 0]) [toggleDrift] = 1 := by
    decide +kernel
  cases s₀ with
  | Active =>
      refine ⟨a, hheld, (hodd (by simp)).1.trans ?_⟩
      rw [List.singleton_append, hcount]
      rfl
  | Paused => exact absurd hs₀ (by decide)
  | Deprecated => exact absurd hs₀ (by decide)

end Dispatcher
