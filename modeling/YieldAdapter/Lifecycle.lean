/-
# What comes into being, and how often

The dispatcher opens its registry once and adds records one at a time.  This module
counts: the registries and records of a reachable ledger are as many as there were
successful instructions to create them, no pair of a program and an authority is
registered twice, and no record comes before the registry.
-/
import YieldAdapter.RegistryInvariant
import YieldAdapter.RunLogs

open Solana

namespace Dispatcher

/-! ## The instructions that create something -/

/-- The action is a successful `registry_init`. -/
def Opens (C : Crypto) (ℓ : Ledger) : Action → Bool
  | .call w accounts .registry_init => (execute C w accounts .registry_init ℓ).result.isOk
  | _ => false

/-- The action is a successful `adapter_init` for a program and an authority that `p`
holds of. -/
def RegistersFor (C : Crypto) (p : Pubkey → Pubkey → Bool) (ℓ : Ledger) : Action → Bool
  | .call w accounts (.adapter_init args) =>
      p args.program_id args.authority &&
        (execute C w accounts (.adapter_init args) ℓ).result.isOk
  | _ => false

/-- The addresses at which there is a registry. -/
def registryKeys (ℓ : Ledger) : Set Pubkey :=
  Runs.keysWhere (fun k => heldRegistry (ℓ k)) fun _ => True

/-- The addresses of the records of a program and an authority that `p` holds of. -/
def recordKeys (p : Pubkey → Pubkey → Bool) (ℓ : Ledger) : Set Pubkey :=
  Runs.keysWhere (fun k => heldAdapter (ℓ k)) fun a => p a.program_id a.authority = true

section Step

variable {C : Crypto} {ℓ : Ledger} {action : Action} {p : Pubkey → Pubkey → Bool}

/-- The records of a ledger are those of its table. -/
theorem recordKeys_of_view {t : Table} (h : view ℓ = t) :
    recordKeys p ℓ = Runs.keysWhere t.adapter fun a => p a.program_id a.authority = true := by
  subst h
  rfl

/-- The registries of a ledger are those of its table. -/
theorem registryKeys_of_view {t : Table} (h : view ℓ = t) :
    registryKeys ℓ = Runs.keysWhere t.registry fun _ => True := by
  subst h
  rfl

/-! ## Single steps -/

/-- A successful `registry_init` adds one registry. -/
theorem registryKeys_of_opens (h : Opens C ℓ action = true) :
    ∃ k, k ∉ registryKeys ℓ ∧ registryKeys (step C ℓ action) = insert k (registryKeys ℓ) := by
  cases action with
  | other programs => exact absurd h (by simp [Opens])
  | call w accounts call =>
      cases call with
      | registry_init =>
          obtain ⟨_, registry, _, bump, rfl, -, -, -, hcreatable, hledger⟩ :=
            execute_registry_init (isOk_iff.mp h)
          obtain ⟨hregistry, hadapter⟩ := view_of_plain hcreatable.unused
          have hview := view_created_registry hadapter INITIALIZER ⟨INITIALIZER, bump⟩
          rw [← hledger] at hview
          refine ⟨registry.pubkey, Runs.not_mem_keysWhere hregistry, ?_⟩
          exact (registryKeys_of_view hview).trans (Runs.keysWhere_update trivial)
      | _ => exact absurd h (by simp [Opens])

/-- Nothing but a successful `registry_init` changes a registry. -/
theorem registryKeys_of_not_opens (h : Opens C ℓ action = false) :
    registryKeys (step C ℓ action) = registryKeys ℓ := by
  cases action with
  | other programs => exact registryKeys_of_view (view_of_frame (programs.frame ℓ))
  | call w accounts call =>
      by_cases hok : (execute C w accounts call ℓ).result = .ok ()
      · cases call with
        | registry_init => exact absurd (isOk_iff.mpr hok) (Bool.eq_false_iff.mp h)
        | adapter_init args =>
            obtain ⟨initializer, adapter, _, _, _, _, bump, rfl, -, -, -, -, -, -, -, -,
              hcreatable, -, hledger⟩ := execute_adapter_init hok
            have hview := view_created_adapter (view_of_plain hcreatable.unused).1
              initializer.pubkey (args.record w.unix_timestamp bump)
            rw [← hledger] at hview
            exact registryKeys_of_view hview
        | toggle_adapter =>
            obtain ⟨_, adapter, _, a, s, data, rfl, -, hheld, -, -, -, -, hledger⟩ :=
              execute_toggle_adapter hok
            have hview := view_update_adapter (heldRegistry_of_heldAdapter hheld)
              (ℓ adapter.pubkey).lamports (a.withStatus (toggled s)) data
            rw [← hledger] at hview
            exact registryKeys_of_view hview
        | deposit args =>
            exact registryKeys_of_view (view_of_frame (ownerFrame_execute_route rfl))
        | withdraw args =>
            exact registryKeys_of_view (view_of_frame (ownerFrame_execute_route rfl))
        | current_value =>
            exact registryKeys_of_view (view_of_frame (ownerFrame_execute_route rfl))
      · rw [step, (execute_of_not_ok hok).1]

/-- A successful `adapter_init` adds one record. -/
theorem recordKeys_of_registers (h : RegistersFor C p ℓ action = true) :
    ∃ k, k ∉ recordKeys p ℓ ∧ recordKeys p (step C ℓ action) = insert k (recordKeys p ℓ) := by
  cases action with
  | other programs => exact absurd h (by simp [RegistersFor])
  | call w accounts call =>
      cases call with
      | adapter_init args =>
          obtain ⟨hp, hok⟩ := Bool.and_eq_true_iff.mp h
          obtain ⟨initializer, adapter, _, _, _, _, bump, rfl, -, -, -, -, -, -, -, -,
            hcreatable, -, hledger⟩ := execute_adapter_init (isOk_iff.mp hok)
          obtain ⟨hregistry, hadapter⟩ := view_of_plain hcreatable.unused
          have hview := view_created_adapter hregistry initializer.pubkey
            (args.record w.unix_timestamp bump)
          rw [← hledger] at hview
          refine ⟨adapter.pubkey, Runs.not_mem_keysWhere hadapter, ?_⟩
          exact (recordKeys_of_view hview).trans (Runs.keysWhere_update hp)
      | _ => exact absurd h (by simp [RegistersFor])

/-- Nothing but a successful `adapter_init` adds or removes a record. -/
theorem recordKeys_of_not_registers (h : RegistersFor C p ℓ action = false) :
    recordKeys p (step C ℓ action) = recordKeys p ℓ := by
  obtain ⟨c, henabled, hview, hby⟩ := step_change (C := C) (ℓ := ℓ) action
  rw [recordKeys_of_view hview]
  cases c with
  | idle => rfl
  | openRegistry k r => rfl
  | register k a =>
      obtain ⟨-, w, initializer, adapter, rest, args, rfl, hok, -, -, -, hnone, -, hrecord⟩ := hby
      -- the record that is added is not one of those that count
      have hnot : ¬ p a.program_id a.authority = true := by
        rw [RegistersFor, isOk_iff.mpr hok, Bool.and_true] at h
        rw [hrecord, Bool.not_eq_true]
        exact h
      refine Runs.keysWhere_update_of_iff ⟨fun hp => absurd hp hnot, ?_⟩
      rintro ⟨b, hb, -⟩
      exact absurd (hnone.symm.trans hb) (by simp)
  | toggle k a s =>
      refine Runs.keysWhere_update_of_iff ⟨fun hp => ⟨a, henabled.1, hp⟩, ?_⟩
      rintro ⟨b, hb, hp⟩
      obtain rfl := Option.some.inj (henabled.1.symm.trans hb)
      exact hp

end Step

/-! ## Runs -/

section Run

variable {C : Crypto} {ℓ₀ : Ledger}

/-- The number of successful `registry_init` of a run. -/
def countOpens (C : Crypto) (ℓ : Ledger) (actions : List Action) : ℕ :=
  Runs.countMarked (step C) (Opens C) ℓ actions

/-- The number of successful `adapter_init` of a run, for programs and authorities that
`p` holds of. -/
def countRegisters (C : Crypto) (p : Pubkey → Pubkey → Bool) (ℓ : Ledger)
    (actions : List Action) : ℕ :=
  Runs.countMarked (step C) (RegistersFor C p) ℓ actions

/-- There are as many registries as were opened. -/
theorem ncard_registryKeys (h₀ : NoData ℓ₀) (actions : List Action) :
    (registryKeys (ledgerAfter C ℓ₀ actions)).Finite ∧
      (registryKeys (ledgerAfter C ℓ₀ actions)).ncard = countOpens C ℓ₀ actions := by
  have hempty : registryKeys ℓ₀ = ∅ := by
    rw [registryKeys_of_view (view_of_noData h₀)]
    exact Set.eq_empty_of_forall_notMem fun k => Runs.not_mem_keysWhere rfl
  have hgrowth : (registryKeys (ledgerAfter C ℓ₀ actions)).Finite ∧
      (registryKeys (ledgerAfter C ℓ₀ actions)).ncard =
        (registryKeys ℓ₀).ncard + countOpens C ℓ₀ actions :=
    Runs.ncard_of_marked (I := fun _ => True) (fun _ _ _ => trivial)
      (fun _ _ _ => registryKeys_of_opens) (fun _ _ _ => registryKeys_of_not_opens) trivial
      (by rw [hempty]; exact Set.finite_empty) actions
  rw [hempty, Set.ncard_empty, Nat.zero_add] at hgrowth
  exact hgrowth

/-- There are as many records as were registered. -/
theorem ncard_recordKeys (h₀ : NoData ℓ₀) (p : Pubkey → Pubkey → Bool)
    (actions : List Action) :
    (recordKeys p (ledgerAfter C ℓ₀ actions)).Finite ∧
      (recordKeys p (ledgerAfter C ℓ₀ actions)).ncard = countRegisters C p ℓ₀ actions := by
  have hempty : recordKeys p ℓ₀ = ∅ := by
    rw [recordKeys_of_view (view_of_noData h₀)]
    exact Set.eq_empty_of_forall_notMem fun k => Runs.not_mem_keysWhere rfl
  have hgrowth : (recordKeys p (ledgerAfter C ℓ₀ actions)).Finite ∧
      (recordKeys p (ledgerAfter C ℓ₀ actions)).ncard =
        (recordKeys p ℓ₀).ncard + countRegisters C p ℓ₀ actions :=
    Runs.ncard_of_marked (I := fun _ => True) (fun _ _ _ => trivial)
      (fun _ _ _ => recordKeys_of_registers) (fun _ _ _ => recordKeys_of_not_registers) trivial
      (by rw [hempty]; exact Set.finite_empty) actions
  rw [hempty, Set.ncard_empty, Nat.zero_add] at hgrowth
  exact hgrowth

theorem registryKeys_subsingleton (h₀ : NoData ℓ₀) (actions : List Action) :
    (registryKeys (ledgerAfter C ℓ₀ actions)).Subsingleton := by
  rintro k ⟨r, hr, -⟩ k' ⟨r', hr', -⟩
  exact ((valid_ledgerAfter h₀ actions).registry_unique hr hr').1

/-- The registrations of one program under one authority. -/
def samePair (program_id authority : Pubkey) : Pubkey → Pubkey → Bool :=
  fun p u => p = program_id && u = authority

theorem samePair_iff {program_id authority p u : Pubkey} :
    samePair program_id authority p u = true ↔ p = program_id ∧ u = authority := by
  simp [samePair]

theorem recordKeys_samePair_subsingleton (h₀ : NoData ℓ₀) (actions : List Action)
    (program_id authority : Pubkey) :
    (recordKeys (samePair program_id authority) (ledgerAfter C ℓ₀ actions)).Subsingleton := by
  rintro k ⟨a, ha, hpair⟩ k' ⟨a', ha', hpair'⟩
  obtain ⟨hprogram, hauthority⟩ := samePair_iff.mp hpair
  obtain ⟨hprogram', hauthority'⟩ := samePair_iff.mp hpair'
  exact (valid_ledgerAfter h₀ actions).adapter_unique ha ha' (hprogram.trans hprogram'.symm)
    (hauthority.trans hauthority'.symm)

/-- **Once only.**  Along every run, whoever takes part and in whatever order,

1. there are as many registries as there were successful `registry_init`, at most one;
2. there are as many records as there were successful `adapter_init`;
3. for one program and one authority `adapter_init` succeeds at most once, and has
   succeeded exactly when the pair has a record;
4. an `adapter_init` that succeeds comes after the one successful `registry_init`. -/
theorem lifecycle (h₀ : NoData ℓ₀) (actions : List Action) :
    let ℓ := ledgerAfter C ℓ₀ actions
    ({k | ∃ r, heldRegistry (ℓ k) = some r}.ncard = countOpens C ℓ₀ actions ∧
      countOpens C ℓ₀ actions ≤ 1) ∧
    ({k | ∃ a, heldAdapter (ℓ k) = some a}.Finite ∧
      {k | ∃ a, heldAdapter (ℓ k) = some a}.ncard =
        countRegisters C (fun _ _ => true) ℓ₀ actions) ∧
    (∀ program_id authority,
      countRegisters C (samePair program_id authority) ℓ₀ actions ≤ 1 ∧
      (countRegisters C (samePair program_id authority) ℓ₀ actions = 1 ↔
        ∃ k a, heldAdapter (ℓ k) = some a ∧ a.program_id = program_id ∧
          a.authority = authority)) ∧
    (∀ action, RegistersFor C (fun _ _ => true) ℓ action = true →
      countOpens C ℓ₀ actions = 1) := by
  intro ℓ
  have hregistries : registryKeys ℓ = {k | ∃ r, heldRegistry (ℓ k) = some r} := by
    ext k
    exact exists_congr fun r => and_iff_left trivial
  have hrecords : recordKeys (fun _ _ => true) ℓ = {k | ∃ a, heldAdapter (ℓ k) = some a} := by
    ext k
    exact exists_congr fun a => and_iff_left rfl
  have hopened : (registryKeys ℓ).ncard = countOpens C ℓ₀ actions :=
    (ncard_registryKeys h₀ actions).2
  have honce : (registryKeys ℓ).Subsingleton := registryKeys_subsingleton h₀ actions
  refine ⟨⟨?_, ?_⟩, ?_, ?_, ?_⟩
  · rw [← hregistries]
    exact hopened
  · rw [← hopened]
    exact Runs.ncard_le_one honce
  · rw [← hrecords]
    exact ncard_recordKeys h₀ _ actions
  · intro program_id authority
    have hcount : (recordKeys (samePair program_id authority) ℓ).ncard = _ :=
      (ncard_recordKeys (C := C) h₀ (samePair program_id authority) actions).2
    have hpair := recordKeys_samePair_subsingleton (C := C) h₀ actions program_id authority
    rw [← hcount]
    refine ⟨Runs.ncard_le_one hpair, (Runs.ncard_eq_one_iff hpair).trans ?_⟩
    exact exists_congr fun k => exists_congr fun a => and_congr_right fun _ => samePair_iff
  · -- registering reads the registry, so there is one already
    intro action haction
    rw [← hopened, Runs.ncard_eq_one_iff honce]
    cases action with
    | other programs => exact absurd haction (by simp [RegistersFor])
    | call w accounts call =>
        cases call with
        | adapter_init args =>
            obtain ⟨_, _, registry, _, _, r, _, -, -, -, hheld, -⟩ :=
              execute_adapter_init (isOk_iff.mp haction)
            exact ⟨registry.pubkey, r, hheld, trivial⟩
        | _ => exact absurd haction (by simp [RegistersFor])

/-- Opening the registry and registering the Drift adapter, twice each: the second time
fails. -/
theorem lifecycle_registerDrift :
    countOpens sampleCrypto genesis
        [openRegistry, openRegistry, registerDrift 0, registerDrift 2] ≤ 1 ∧
      countRegisters sampleCrypto (samePair DriftAdapter.ID INITIALIZER) genesis
        [openRegistry, openRegistry, registerDrift 0, registerDrift 2] = 1 := by
  obtain ⟨⟨-, hopens⟩, -, hpair, -⟩ := lifecycle (C := sampleCrypto) noData_genesis
    [openRegistry, openRegistry, registerDrift 0, registerDrift 2]
  refine ⟨hopens, (hpair DriftAdapter.ID INITIALIZER).2.mpr ⟨driftAddress, driftRecord 0, ?_⟩⟩
  exact ⟨by decide +kernel, rfl, rfl⟩

end Run

/-! ## Opening the registry -/

/-- `RegistryInit`: the accounts of the instruction. -/
structure RegistryInit where
  initializer : AccountMeta
  registry : AccountMeta
  system_program : AccountMeta

namespace RegistryInit

variable (s : RegistryInit)

/-- The accounts in order, with any others behind them. -/
def accounts (rest : List AccountMeta) : List AccountMeta :=
  s.initializer :: s.registry :: s.system_program :: rest

/-- What the accounts struct asks of the accounts, whatever they hold. -/
structure Declared : Prop where
  signer : s.initializer.is_signer = true
  payer : s.initializer.is_writable = true
  created : s.registry.is_writable = true
  system : s.system_program.pubkey = System.ID

/-- The registry passed lies at its address, which nobody uses, and the signer can pay for
an account there. -/
structure Vacant (C : Crypto) (ℓ : Ledger) : Prop where
  address : ∃ bump, find_program_address C Registry.seeds ID = some (s.registry.pubkey, bump)
  creatable : System.Creatable ℓ s.initializer.pubkey s.registry.pubkey
    (8 + Registry.accountType.INIT_SPACE)

/-- The machine in which the registry's account has been created, but not written. -/
def create (s : RegistryInit) (m : Machine Event) : Machine Event :=
  m.create s.initializer.pubkey s.registry.pubkey ID
    (List.replicate (8 + Registry.accountType.INIT_SPACE) 0)

variable {s} {C : Crypto} {w : World} {ℓ : Ledger}

/-- **When `registry_init` succeeds.** -/
theorem execute_eq_ok_iff {accounts : List AccountMeta} :
    (execute C w accounts .registry_init ℓ).result = .ok () ↔
      ∃ (s : RegistryInit) (rest : List AccountMeta),
        accounts = s.accounts rest ∧ s.Declared ∧ s.initializer.pubkey = INITIALIZER ∧
          s.Vacant C ℓ := by
  constructor
  · intro h
    obtain ⟨m, hrun, -⟩ := transact_result_ok h
    obtain ⟨_, _, _, _, bump, haccounts, hsigner, hpayer, hkey, hsystem, hfind, hcreated,
      hcreatable, -⟩ := registry_init_eq_ok.mp hrun
    obtain ⟨initializer, _, rfl, rfl, hrest⟩ := List.map_eq_cons_iff.mp haccounts
    obtain ⟨registry, _, rfl, rfl, hrest'⟩ := List.map_eq_cons_iff.mp hrest
    obtain ⟨system_program, rest, rfl, rfl, -⟩ := List.map_eq_cons_iff.mp hrest'
    rw [← hkey] at hcreatable
    exact ⟨⟨initializer, registry, system_program⟩, rest, rfl,
      ⟨hsigner, hpayer, hcreated, hsystem⟩, hkey, ⟨bump, hfind⟩, hcreatable⟩
  · rintro ⟨s, rest, rfl, hdeclared, hkey, ⟨bump, hfind⟩, hcreatable⟩
    rw [hkey] at hcreatable
    have hrun : registry_init C ((s.accounts rest).map (AccountInfo.load ℓ))
        (env C w (s.accounts rest)) (Machine.start ID ℓ) = (.ok (), _) := registry_init_eq_ok.mpr
      ⟨AccountInfo.load ℓ s.initializer, AccountInfo.load ℓ s.registry,
        AccountInfo.load ℓ s.system_program, rest.map (AccountInfo.load ℓ), bump, rfl,
        hdeclared.signer, hdeclared.payer, hkey, hdeclared.system, hfind, hdeclared.created,
        hcreatable, rfl⟩
    have hout : execute C w (s.accounts rest) .registry_init ℓ = _ := transact_of_ok hrun
    rw [hout]

/-- **Only `INITIALIZER` opens the registry**, though the check comes late: by then the
registry's account has been created. -/
theorem run_of_other (rest : List AccountMeta) (hdeclared : s.Declared) (hs : s.Vacant C ℓ)
    (h : s.initializer.pubkey ≠ INITIALIZER) :
    registry_init C ((s.accounts rest).map (AccountInfo.load ℓ)) (env C w (s.accounts rest))
        (Machine.start ID ℓ) =
      (.error (dispatcherError .Unauthorized), s.create (Machine.start ID ℓ)) := by
  obtain ⟨bump, hfind⟩ := hs.address
  have hsigner : (Anchor.signer (AccountInfo.load ℓ s.initializer) : Except Error Unit) =
      .ok () := Anchor.signer_eq_ok.mpr hdeclared.signer
  have hsystem : (Anchor.program System.ID (AccountInfo.load ℓ s.system_program) :
      Except Error Unit) = .ok () := Anchor.program_eq_ok.mpr hdeclared.system
  have hbump : (Anchor.constraint_seeds_find C Registry.seeds ID
      (AccountInfo.load ℓ s.registry) : Except Error UInt8) = .ok bump :=
    Anchor.constraint_seeds_find_eq_ok.mpr hfind
  have hinit : (Anchor.init Registry.accountType ID (AccountInfo.load ℓ s.initializer)
      (AccountInfo.load ℓ s.registry) : Prog Unit) (env C w (s.accounts rest))
        (Machine.start ID ℓ) = (.ok (), s.create (Machine.start ID ℓ)) :=
    Anchor.init_eq_ok.mpr
      ⟨hdeclared.created, .inr ⟨hdeclared.signer, hdeclared.payer⟩, hs.creatable, rfl⟩
  have hmut : (Anchor.constraint_mut (AccountInfo.load ℓ s.initializer) : Except Error Unit) =
      .ok () := Anchor.constraint_mut_eq_ok.mpr hdeclared.payer
  have hkey : (Anchor.constraint_key (AccountInfo.load ℓ s.initializer).key INITIALIZER
      (dispatcherError .Unauthorized) : Except Error Unit) =
        .error (dispatcherError .Unauthorized) :=
    require_eq_error.mpr ⟨decide_eq_false h, rfl⟩
  have haccounts : (s.accounts rest).map (AccountInfo.load ℓ) =
      AccountInfo.load ℓ s.initializer :: AccountInfo.load ℓ s.registry ::
        AccountInfo.load ℓ s.system_program :: rest.map (AccountInfo.load ℓ) := rfl
  unfold registry_init
  rw [haccounts]
  simp only [Exec.bind_apply, Exec.lift_apply, Anchor.next_account, hsigner, hsystem, hbump,
    hinit, hmut, hkey]

/-- What a successful `registry_init` writes. -/
theorem ledger_of_ok {rest : List AccountMeta}
    (h : (execute C w (s.accounts rest) .registry_init ℓ).result = .ok ()) :
    ∃ bump, find_program_address C Registry.seeds ID = some (s.registry.pubkey, bump) ∧
      (execute C w (s.accounts rest) .registry_init ℓ).ledger =
        System.created ℓ INITIALIZER s.registry.pubkey ID
          (Registry.accountType.try_serialize ⟨INITIALIZER, bump⟩) ∧
      view (execute C w (s.accounts rest) .registry_init ℓ).ledger =
        ⟨Function.update (view ℓ).registry s.registry.pubkey (some ⟨INITIALIZER, bump⟩),
          (view ℓ).adapter⟩ := by
  obtain ⟨initializer, registry, rest', bump, haccounts, -, -, hfind, hcreatable, hledger⟩ :=
    execute_registry_init h
  unfold accounts at haccounts
  cases haccounts
  have hview := view_created_registry (view_of_plain hcreatable.unused).2 INITIALIZER
    ⟨INITIALIZER, bump⟩
  rw [← hledger] at hview
  exact ⟨bump, hfind, hledger, hview⟩

end RegistryInit

/-- **Opening is exact, atomic and final.**

1. `registry_init` succeeds exactly when the accounts passed are marked as the accounts
   struct declares them, the signer is `INITIALIZER`, the registry passed lies at its
   address, which nobody uses, and the signer can pay for an account there.
2. On success that address holds the registry, and `INITIALIZER` has paid what the account
   lacked in lamports.  All other accounts hold what they held.
3. On failure the ledger is as before.  That includes the failure of a signer that is not
   `INITIALIZER`, which is found when the account has been created already.
4. Where the table is valid, so in every reachable ledger, nobody opens the registry
   again.

What the transaction costs, and whether the signer is rent exempt at its end, is left out of
account. -/
theorem registry_init_exact (C : Crypto) (w : World) (ℓ : Ledger) :
    (∀ accounts, (execute C w accounts .registry_init ℓ).result = .ok () ↔
      ∃ (s : RegistryInit) (rest : List AccountMeta),
        accounts = s.accounts rest ∧ s.Declared ∧ s.initializer.pubkey = INITIALIZER ∧
          s.Vacant C ℓ) ∧
    (∀ (s : RegistryInit) (rest : List AccountMeta),
      (execute C w (s.accounts rest) .registry_init ℓ).result = .ok () →
      ∃ bump, find_program_address C Registry.seeds ID = some (s.registry.pubkey, bump) ∧
        (execute C w (s.accounts rest) .registry_init ℓ).ledger =
          System.created ℓ INITIALIZER s.registry.pubkey ID
            (Registry.accountType.try_serialize ⟨INITIALIZER, bump⟩) ∧
        (∀ k, k ≠ s.registry.pubkey →
          ((execute C w (s.accounts rest) .registry_init ℓ).ledger k).owner = (ℓ k).owner ∧
          ((execute C w (s.accounts rest) .registry_init ℓ).ledger k).data = (ℓ k).data) ∧
        view (execute C w (s.accounts rest) .registry_init ℓ).ledger =
          ⟨Function.update (view ℓ).registry s.registry.pubkey (some ⟨INITIALIZER, bump⟩),
            (view ℓ).adapter⟩) ∧
    (∀ accounts, (execute C w accounts .registry_init ℓ).result ≠ .ok () →
      (execute C w accounts .registry_init ℓ).ledger = ℓ) ∧
    (∀ (s : RegistryInit) (rest : List AccountMeta),
      s.Declared → s.Vacant C ℓ → s.initializer.pubkey ≠ INITIALIZER →
      registry_init C ((s.accounts rest).map (AccountInfo.load ℓ)) (env C w (s.accounts rest))
          (Machine.start ID ℓ) =
        (.error (dispatcherError .Unauthorized), s.create (Machine.start ID ℓ)) ∧
      (execute C w (s.accounts rest) .registry_init ℓ).result =
        .error (dispatcherError .Unauthorized)) ∧
    ((view ℓ).Valid C → ∀ k r, heldRegistry (ℓ k) = some r →
      ∀ accounts, (execute C w accounts .registry_init ℓ).result ≠ .ok ()) := by
  refine ⟨fun accounts => RegistryInit.execute_eq_ok_iff, ?_,
    fun accounts h => (execute_of_not_ok h).1, ?_, ?_⟩
  · intro s rest h
    obtain ⟨bump, hfind, hledger, hview⟩ := RegistryInit.ledger_of_ok h
    refine ⟨bump, hfind, hledger, ?_, hview⟩
    intro k hk
    rw [hledger]
    exact System.created_holds_of_ne hk
  · intro s rest hdeclared hs h
    have hrun := RegistryInit.run_of_other (w := w) rest hdeclared hs h
    have hout : execute C w (s.accounts rest) .registry_init ℓ = _ := transact_of_error hrun
    rw [hout]
    exact ⟨hrun, rfl⟩
  · intro hvalid k r hheld accounts hok
    obtain ⟨s, -, -, -, -, ⟨bump, hfind⟩, hcreatable⟩ := RegistryInit.execute_eq_ok_iff.mp hok
    -- the registry that is there lies at the same address, which is in use
    have hfind' := (hvalid.registry k r hheld).2
    obtain ⟨rfl, -⟩ := Prod.mk.inj (Option.some.inj (hfind'.symm.trans hfind))
    exact absurd ((heldRegistry_of_plain hcreatable.unused).symm.trans hheld) (by simp)

end Dispatcher
