/-
# What the instructions of the dispatcher do

One inversion lemma for each instruction: exactly when it succeeds, and the
machine it leaves behind.  Everything later about the dispatcher is derived from
these, without looking into the handlers again.

The routing instructions are relays of a plan, `Deposit.plan` and its siblings,
that is a pure function of the accounts and the arguments.
-/
import YieldAdapter.DispatcherInstructions

open Solana

namespace Dispatcher

variable {C : Crypto} {env : Env YieldError Event} {m m' : Machine Event}
  {accounts : List AccountInfo}

/-! ## Setting up -/

theorem INITIALIZER_ne_default : INITIALIZER ≠ Pubkey.default := by decide

theorem Registry.invariant_eq_ok {r : Registry} {u : Unit} :
    r.invariant = .ok u ↔ r.initializer ≠ Pubkey.default := by
  rw [invariant, require_eq_ok, decide_eq_true_eq]

/-- **`registry_init` succeeds** when `INITIALIZER` signs and pays for an account at the
registry address, which is unused, and then stores the registry there. -/
theorem registry_init_eq_ok :
    registry_init C accounts env m = (.ok (), m') ↔
      ∃ initializer registry system_program rest bump,
        accounts = initializer :: registry :: system_program :: rest ∧
        initializer.is_signer = true ∧ initializer.is_writable = true ∧
        initializer.key = INITIALIZER ∧ system_program.key = System.ID ∧
        find_program_address C Registry.seeds ID = some (registry.key, bump) ∧
        registry.is_writable = true ∧
        System.Creatable m.ledger INITIALIZER registry.key
          (8 + Registry.accountType.INIT_SPACE) ∧
        m' = m.create INITIALIZER registry.key ID
          (Registry.accountType.try_serialize ⟨INITIALIZER, bump⟩) := by
  simp only [registry_init, Exec.bind_eq_ok, Exec.lift_eq_ok, Prod.exists,
    Anchor.next_account_eq_ok, Anchor.signer_eq_ok, Anchor.program_eq_ok,
    Anchor.constraint_seeds_find_eq_ok, Anchor.init_eq_ok, Anchor.constraint_mut_eq_ok,
    Anchor.constraint_key_eq_ok, Registry.invariant_eq_ok, Anchor.exit_after_init, and_assoc,
    exists_and_left, exists_eq_left, exists_const]
  constructor
  · rintro ⟨initializer, _, rfl, hsigner, registry, _, rfl, system_program, rest, rfl, hsystem,
      bump, hfind, hwritable, -, hcreatable, hmut, hkey, -, rfl⟩
    rw [hkey] at hcreatable ⊢
    exact ⟨initializer, registry, system_program, rest, rfl, hsigner, hmut, hkey, hsystem, bump,
      hfind, hwritable, hcreatable, rfl⟩
  · rintro ⟨initializer, registry, system_program, rest, rfl, hsigner, hmut, hkey, hsystem, bump,
      hfind, hwritable, hcreatable, rfl⟩
    refine ⟨initializer, _, rfl, hsigner, registry, _, rfl, system_program, rest, rfl, hsystem,
      bump, hfind, hwritable, .inr ⟨hsigner, hmut⟩, ?_⟩
    rw [hkey]
    exact ⟨hcreatable, hmut, rfl, INITIALIZER_ne_default, rfl⟩

/-- The check of the status byte is part of the invariant of the new record. -/
theorem AdapterInitArgs.validate_of_invariant {args : AdapterInitArgs} {registered_at : Int64}
    {bump : UInt8} (h : (args.record registered_at bump).invariant = .ok ()) :
    args.validate = .ok () := by
  obtain ⟨-, -, -, s, hs⟩ := Adapter.invariant_eq_ok.mp h
  change args.status = s.as_u8 at hs
  rw [validate, hs, AdapterStatus.from_u8_as_u8]
  rfl

/-- **`adapter_init` succeeds** when the registry's initializer signs and pays for an
account at the record's address, which is unused, and the record satisfies its
invariant, and then stores the record there. -/
theorem adapter_init_eq_ok {args : AdapterInitArgs} :
    adapter_init C accounts args env m = (.ok (), m') ↔
      ∃ initializer adapter registry_info system_program rest registry bump,
        accounts = initializer :: adapter :: registry_info :: system_program :: rest ∧
        initializer.is_signer = true ∧ initializer.is_writable = true ∧
        Anchor.account Registry.accountType ID registry_info = (.ok registry : Except Error _) ∧
        registry.initializer = initializer.key ∧
        create_program_address C (Registry.seeds ++ [[registry.bump]]) ID =
          some registry_info.key ∧
        system_program.key = System.ID ∧
        find_program_address C (Adapter.seeds args.program_id args.authority) ID =
          some (adapter.key, bump) ∧
        adapter.is_writable = true ∧
        System.Creatable m.ledger initializer.key adapter.key
          (8 + Adapter.accountType.INIT_SPACE) ∧
        (args.record env.unix_timestamp bump).invariant = .ok () ∧
        m' = m.create initializer.key adapter.key ID
          (Adapter.accountType.try_serialize (args.record env.unix_timestamp bump)) := by
  simp only [adapter_init, Exec.bind_eq_ok, Exec.lift_eq_ok, Prod.exists,
    Anchor.next_account_eq_ok, Anchor.signer_eq_ok, Anchor.program_eq_ok,
    Anchor.constraint_seeds_find_eq_ok, Anchor.init_eq_ok, Anchor.constraint_mut_eq_ok,
    Anchor.constraint_key_eq_ok, Anchor.constraint_seeds_eq_ok, Exec.unix_timestamp_eq_ok,
    Anchor.exit_after_init, and_assoc, exists_and_left, exists_eq_left, exists_const]
  constructor
  · rintro ⟨initializer, _, rfl, hsigner, adapter, _, rfl, registry_info, _, rfl, registry,
      hregistry, system_program, rest, rfl, hsystem, bump, hfind, hwritable, -, hcreatable, hmut,
      hseeds, hkey, ⟨⟩, -, ⟨⟩, hinv, rfl⟩
    exact ⟨initializer, adapter, registry_info, system_program, rest, rfl, hsigner, hmut, registry,
      hregistry, hkey, hseeds, hsystem, bump, hfind, hwritable, hcreatable, hinv, rfl⟩
  · rintro ⟨initializer, adapter, registry_info, system_program, rest, rfl, hsigner, hmut, registry,
      hregistry, hkey, hseeds, hsystem, bump, hfind, hwritable, hcreatable, hinv, rfl⟩
    exact ⟨initializer, _, rfl, hsigner, adapter, _, rfl, registry_info, _, rfl, registry,
      hregistry, system_program, rest, rfl, hsystem, bump, hfind, hwritable,
      .inr ⟨hsigner, hmut⟩, hcreatable, hmut, hseeds, hkey, (),
      AdapterInitArgs.validate_of_invariant hinv, (), hinv, rfl⟩

/-! ## Toggling -/

/-- **`toggle_adapter` succeeds** when the record's authority signs and the status
is not `Deprecated`, and then stores the record with the next status. -/
theorem toggle_adapter_eq_ok :
    toggle_adapter C accounts env m = (.ok (), m') ↔
      ∃ authority info rest adapter status next_status,
        accounts = authority :: info :: rest ∧
        authority.is_signer = true ∧ authority.is_writable = true ∧ info.is_writable = true ∧
        Anchor.account Adapter.accountType ID info = (.ok adapter : Except Error _) ∧
        adapter.authority = authority.key ∧
        create_program_address C (Adapter.seeds adapter.program_id adapter.authority ++
          [[adapter.bump]]) ID = some info.key ∧
        adapter.readStatus = .ok status ∧ nextStatus status = .ok next_status ∧
        8 + Adapter.accountType.INIT_SPACE ≤ (m.ledger info.key).data.length ∧
        m' = (m.emit env.program_id
            (.ToggleEvent authority.key info.key adapter.program_id next_status.as_u8)).write
          info.key { m.ledger info.key with
            data :=
              Adapter.accountType.try_serialize { adapter with status := next_status.as_u8 } ++
                (m.ledger info.key).data.drop (8 + Adapter.accountType.INIT_SPACE) } := by
  simp only [toggle_adapter, Exec.bind_eq_ok, Exec.lift_eq_ok, Prod.exists,
    Anchor.next_account_eq_ok, Anchor.signer_eq_ok, Anchor.constraint_mut_eq_ok,
    Anchor.constraint_key_eq_ok, Anchor.constraint_seeds_eq_ok, Exec.emit_eq_ok,
    Anchor.exit_eq_ok, and_assoc, exists_and_left, exists_eq_left, exists_const]
  constructor
  · rintro ⟨authority, _, rfl, hsigner, info, rest, rfl, adapter, hadapter, hmut, hseeds, hwritable,
      hkey, status, hstatus, next_status, hnext, hspace, rfl⟩
    exact ⟨authority, info, rest, rfl, hsigner, hmut, hwritable, adapter, hadapter, hkey, hseeds,
      status, hstatus, next_status, hnext, hspace, rfl⟩
  · rintro ⟨authority, info, rest, rfl, hsigner, hmut, hwritable, adapter, hadapter, hkey, hseeds,
      status, hstatus, next_status, hnext, hspace, rfl⟩
    exact ⟨authority, _, rfl, hsigner, info, rest, rfl, adapter, hadapter, hmut, hseeds, hwritable,
      hkey, status, hstatus, next_status, hnext, hspace, rfl⟩

end Dispatcher
