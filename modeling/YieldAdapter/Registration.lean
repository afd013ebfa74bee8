/-
# Registration

When `adapter_init` succeeds, and what is left of it when it does not.  Its
conditions are spread over three stages: the accounts struct, which also creates
the record's account; `AdapterInit::validate`; and the invariant of the record,
which is checked when the account exists already.

The signer pays the rent of the new account.  The fee, and what the runtime asks of the
payer's balance once all the instructions of a transaction are through, are not part of
an instruction.
-/
import YieldAdapter.DispatcherRun

open Solana

namespace Dispatcher

/-- `AdapterInit`: the accounts of the instruction. -/
structure AdapterInit where
  initializer : AccountMeta
  adapter : AccountMeta
  registry : AccountMeta
  system_program : AccountMeta

namespace AdapterInit

variable (s : AdapterInit)

/-- The accounts in order, with any others behind them. -/
def accounts (rest : List AccountMeta) : List AccountMeta :=
  s.initializer :: s.adapter :: s.registry :: s.system_program :: rest

/-- What the accounts struct asks of the accounts, whatever they hold. -/
structure Declared : Prop where
  signer : s.initializer.is_signer = true
  payer : s.initializer.is_writable = true
  created : s.adapter.is_writable = true
  system : s.system_program.pubkey = System.ID

variable (C : Crypto) (args : AdapterInitArgs) (ℓ : Ledger)

/-- The first stage: what the accounts must hold, and where they must lie. -/
structure Constrained : Prop where
  /-- The registry passed is the registry, at its address, and the signer keeps it. -/
  registry : ∃ r, heldRegistry (ℓ s.registry.pubkey) = some r ∧
    r.initializer = s.initializer.pubkey ∧
    create_program_address C (Registry.seeds ++ [[r.bump]]) ID = some s.registry.pubkey
  /-- The record's account lies at the address derived from the arguments. -/
  address : ∃ bump, find_program_address C (Adapter.seeds args.program_id args.authority) ID =
    some (s.adapter.pubkey, bump)
  /-- Nobody uses that address, and the signer can pay for an account there. -/
  creatable : System.Creatable ℓ s.initializer.pubkey s.adapter.pubkey
    (8 + Adapter.accountType.INIT_SPACE)

/-- All three stages. -/
structure Registrable : Prop extends s.Constrained C args ℓ where
  status : ∃ t : AdapterStatus, args.status = t.as_u8
  authority : args.authority ≠ Pubkey.default
  program_id : args.program_id ≠ Pubkey.default
  supported_mint : args.supported_mint ≠ Pubkey.default

variable {s C args ℓ}

theorem Registrable.invariant (h : s.Registrable C args ℓ) (registered_at : Int64) (bump : UInt8) :
    (args.record registered_at bump).invariant = .ok () :=
  Adapter.invariant_eq_ok.mpr ⟨h.authority, h.program_id, h.supported_mint, h.status⟩

/-- Where the table is valid, only `INITIALIZER` gets past the first stage, with the
registry at its canonical address. -/
theorem Constrained.canonical (h : s.Constrained C args ℓ) (hvalid : (view ℓ).Valid C) :
    s.initializer.pubkey = INITIALIZER ∧
      ∃ bump, find_program_address C Registry.seeds ID = some (s.registry.pubkey, bump) := by
  obtain ⟨r, hheld, hkey, -⟩ := h.registry
  obtain ⟨hinitializer, hfind⟩ := hvalid.registry _ r hheld
  exact ⟨hkey.symm.trans hinitializer, r.bump, hfind⟩

/-! ## The three stages -/

variable {w : World} {accounts : List AccountMeta}

/-- **When `adapter_init` succeeds.** -/
theorem execute_eq_ok_iff :
    (execute C w accounts (.adapter_init args) ℓ).result = .ok () ↔
      ∃ (s : AdapterInit) (rest : List AccountMeta),
        accounts = s.accounts rest ∧ s.Declared ∧ s.Registrable C args ℓ := by
  constructor
  · intro h
    obtain ⟨initializer, adapter, registry, system_program, rest, r, bump, rfl, hsigner, hpayer,
      hregistry, hkey, hseeds, hsystem, hfind, hcreated, hcreatable, hinv, -⟩ :=
      execute_adapter_init h
    obtain ⟨hauthority, hprogram, hmint, hstatus⟩ := Adapter.invariant_eq_ok.mp hinv
    exact ⟨⟨initializer, adapter, registry, system_program⟩, rest, rfl,
      ⟨hsigner, hpayer, hcreated, hsystem⟩,
      ⟨⟨r, hregistry, hkey, hseeds⟩, ⟨bump, hfind⟩, hcreatable⟩,
      hstatus, hauthority, hprogram, hmint⟩
  · rintro ⟨s, rest, rfl, hdeclared, hs⟩
    obtain ⟨r, hheld, hkey, hseeds⟩ := hs.registry
    obtain ⟨bump, hfind⟩ := hs.address
    have hrun : adapter_init C ((s.accounts rest).map (AccountInfo.load ℓ)) args
        (env C w (s.accounts rest)) (Machine.start ID ℓ) = (.ok (), _) := adapter_init_eq_ok.mpr
      ⟨AccountInfo.load ℓ s.initializer, AccountInfo.load ℓ s.adapter,
        AccountInfo.load ℓ s.registry, AccountInfo.load ℓ s.system_program,
        rest.map (AccountInfo.load ℓ), r, bump, rfl, hdeclared.signer, hdeclared.payer,
        (Anchor.account_load_eq_ok ID_ne_system).mpr hheld, hkey, hseeds, hdeclared.system, hfind,
        hdeclared.created, hs.creatable, hs.invariant w.unix_timestamp bump, rfl⟩
    have hout : execute C w (s.accounts rest) (.adapter_init args) ℓ = _ := transact_of_ok hrun
    rw [hout]

/-- **What a successful registration writes**: one record, at an address that held
nothing, for which the signer pays. -/
theorem ledger_of_ok {s : AdapterInit} {rest : List AccountMeta}
    (h : (execute C w (s.accounts rest) (.adapter_init args) ℓ).result = .ok ()) :
    ∃ bump,
      find_program_address C (Adapter.seeds args.program_id args.authority) ID =
        some (s.adapter.pubkey, bump) ∧
      (execute C w (s.accounts rest) (.adapter_init args) ℓ).ledger =
        System.created ℓ s.initializer.pubkey s.adapter.pubkey ID
          (Adapter.accountType.try_serialize (args.record w.unix_timestamp bump)) ∧
      (view ℓ).adapter s.adapter.pubkey = none ∧
      view (execute C w (s.accounts rest) (.adapter_init args) ℓ).ledger =
        ⟨(view ℓ).registry, Function.update (view ℓ).adapter s.adapter.pubkey
          (some (args.record w.unix_timestamp bump))⟩ := by
  obtain ⟨initializer, adapter, registry, system_program, rest', r, bump, haccounts, -, -, -, -, -,
    -, hfind, -, hcreatable, -, hledger⟩ := execute_adapter_init h
  unfold accounts at haccounts
  cases haccounts
  obtain ⟨hregistry, hadapter⟩ := view_of_plain hcreatable.unused
  have hview := view_created_adapter hregistry s.initializer.pubkey
    (args.record w.unix_timestamp bump)
  rw [← hledger] at hview
  exact ⟨bump, hfind, hledger, hadapter, hview⟩

/-- The machine between the first stage and the write-back. -/
def create (s : AdapterInit) (m : Machine Event) : Machine Event :=
  m.create s.initializer.pubkey s.adapter.pubkey ID
    (List.replicate (8 + Adapter.accountType.INIT_SPACE) 0)

/-- **The first stage** creates the record's account; the other two come after it. -/
theorem run_of_constrained {s : AdapterInit} {env : Env YieldError Event} {m : Machine Event}
    {bump : UInt8} (rest : List AccountMeta) (hdeclared : s.Declared)
    (hs : s.Constrained C args m.ledger)
    (hfind : find_program_address C (Adapter.seeds args.program_id args.authority) ID =
      some (s.adapter.pubkey, bump)) :
    adapter_init C ((s.accounts rest).map (AccountInfo.load m.ledger)) args env m =
      (do
        Exec.lift args.validate
        let registered_at ← Exec.unix_timestamp
        Exec.lift (args.record registered_at bump).invariant
        Anchor.exit Adapter.accountType s.adapter.pubkey (args.record registered_at bump) :
          Prog Unit) env (s.create m) := by
  obtain ⟨r, hheld, hinitializer, hseeds⟩ := hs.registry
  -- every check of the accounts struct passes, in the order in which they are made
  have hsigner : (Anchor.signer (AccountInfo.load m.ledger s.initializer) : Except Error Unit) =
      .ok () := Anchor.signer_eq_ok.mpr hdeclared.signer
  have hregistry : (Anchor.account Registry.accountType ID
      (AccountInfo.load m.ledger s.registry) : Except Error Registry) = .ok r :=
    (Anchor.account_load_eq_ok ID_ne_system).mpr hheld
  have hsystem : (Anchor.program System.ID (AccountInfo.load m.ledger s.system_program) :
      Except Error Unit) = .ok () := Anchor.program_eq_ok.mpr hdeclared.system
  have hbump : (Anchor.constraint_seeds_find C (Adapter.seeds args.program_id args.authority) ID
      (AccountInfo.load m.ledger s.adapter) : Except Error UInt8) = .ok bump :=
    Anchor.constraint_seeds_find_eq_ok.mpr hfind
  have hinit : (Anchor.init Adapter.accountType ID (AccountInfo.load m.ledger s.initializer)
      (AccountInfo.load m.ledger s.adapter) : Prog Unit) env m = (.ok (), s.create m) :=
    Anchor.init_eq_ok.mpr
      ⟨hdeclared.created, .inr ⟨hdeclared.signer, hdeclared.payer⟩, hs.creatable, rfl⟩
  have hmut : (Anchor.constraint_mut (AccountInfo.load m.ledger s.initializer) :
      Except Error Unit) = .ok () := Anchor.constraint_mut_eq_ok.mpr hdeclared.payer
  have hkey : (Anchor.constraint_key r.initializer (AccountInfo.load m.ledger s.initializer).key
      (dispatcherError .Unauthorized) : Except Error Unit) = .ok () :=
    Anchor.constraint_key_eq_ok.mpr hinitializer
  have hregistry_seeds : (Anchor.constraint_seeds C Registry.seeds r.bump ID
      (AccountInfo.load m.ledger s.registry) : Except Error Unit) = .ok () :=
    Anchor.constraint_seeds_eq_ok.mpr hseeds
  have haccounts : (s.accounts rest).map (AccountInfo.load m.ledger) =
      AccountInfo.load m.ledger s.initializer :: AccountInfo.load m.ledger s.adapter ::
        AccountInfo.load m.ledger s.registry :: AccountInfo.load m.ledger s.system_program ::
          rest.map (AccountInfo.load m.ledger) := rfl
  unfold adapter_init
  rw [haccounts]
  simp only [Exec.bind_apply, Exec.lift_apply, Anchor.next_account, hsigner, hregistry, hsystem,
    hbump, hinit, hmut, hkey, hregistry_seeds]
  rfl

/-- The error of the later stages: a bad status is found before a bad key. -/
def lateError (args : AdapterInitArgs) : Error :=
  if (AdapterStatus.from_u8 args.status).isSome then dispatcherError .InvalidAccount
  else dispatcherError .InvalidStatus

/-- Only a default key is left to fail the last stage. -/
theorem invariant_of_not_registrable {s : AdapterInit} (hs : s.Constrained C args ℓ)
    (h : ¬ s.Registrable C args ℓ) {t : AdapterStatus} (ht : args.status = t.as_u8)
    (registered_at : Int64) (bump : UInt8) :
    (args.record registered_at bump).invariant = .error (dispatcherError .InvalidAccount) := by
  unfold Adapter.invariant AdapterInitArgs.record
  by_cases hauthority : args.authority = Pubkey.default
  · simp [hauthority, bind, Except.bind]
  by_cases hprogram : args.program_id = Pubkey.default
  · simp [hauthority, hprogram, bind, Except.bind]
  by_cases hmint : args.supported_mint = Pubkey.default
  · simp [hauthority, hprogram, hmint, bind, Except.bind]
  · exact absurd ⟨hs, ⟨t, ht⟩, hauthority, hprogram, hmint⟩ h

/-- **The later stages come late.**  When one of them fails, the record's account has
been created already. -/
theorem run_of_not_registrable {s : AdapterInit} {env : Env YieldError Event}
    {m : Machine Event} (rest : List AccountMeta) (hdeclared : s.Declared)
    (hs : s.Constrained C args m.ledger) (h : ¬ s.Registrable C args m.ledger) :
    adapter_init C ((s.accounts rest).map (AccountInfo.load m.ledger)) args env m =
      (.error (lateError args), s.create m) := by
  obtain ⟨bump, hfind⟩ := hs.address
  rw [run_of_constrained rest hdeclared hs hfind]
  cases ht : AdapterStatus.from_u8 args.status with
  | none =>
      have hvalidate : args.validate = .error (lateError args) := by
        rw [AdapterInitArgs.validate, lateError, ht]
        rfl
      rw [hvalidate, Exec.bind_lift_error]
  | some t =>
      have hvalidate : args.validate = .ok () := by
        rw [AdapterInitArgs.validate, ht]
        rfl
      have hinvariant : (args.record env.unix_timestamp bump).invariant =
          .error (lateError args) := by
        rw [invariant_of_not_registrable hs h (AdapterStatus.from_u8_eq_some_iff.mp ht), lateError,
          ht]
        rfl
      simp only [Exec.bind_apply, Exec.lift_apply, Exec.unix_timestamp, hvalidate, hinvariant]

end AdapterInit

/-! ## Exactness and atomicity -/

section Exactness

open AdapterInit

/-- **Registration is exact and atomic.**

1. `adapter_init` succeeds exactly when the accounts passed are marked as the accounts
   struct declares them, the registry passed is the registry at the address of its bump
   and the signer keeps it, the adapter account passed lies at the address of the
   arguments, which nobody uses, the signer can pay for an account there, the status byte
   denotes a status and no key is the default key.  Where the table is valid, so in every
   reachable ledger, the registry passed lies at its canonical address.
2. On success that address, which held nothing, holds the record of the arguments, the
   clock and the canonical bump, and the signer has paid what the account lacked in
   lamports.  All other accounts hold what they held; no other record and no registry has
   changed.
3. On failure the ledger is as before.
4. That includes the failures of the two later stages, in which the run itself has
   created the account already.

What the transaction costs, and whether the signer is rent exempt at its end, is left out of
account. -/
theorem adapter_init_exact (C : Crypto) (w : World) (args : AdapterInitArgs) (ℓ : Ledger) :
    (∀ accounts, (execute C w accounts (.adapter_init args) ℓ).result = .ok () ↔
      ∃ (s : AdapterInit) (rest : List AccountMeta),
        accounts = s.accounts rest ∧ s.Declared ∧ s.Registrable C args ℓ) ∧
    ((view ℓ).Valid C → ∀ s : AdapterInit, s.Constrained C args ℓ →
      ∃ bump, find_program_address C Registry.seeds ID = some (s.registry.pubkey, bump)) ∧
    (∀ (s : AdapterInit) (rest : List AccountMeta),
      (execute C w (s.accounts rest) (.adapter_init args) ℓ).result = .ok () →
      ∃ bump,
        find_program_address C (Adapter.seeds args.program_id args.authority) ID =
          some (s.adapter.pubkey, bump) ∧
        (execute C w (s.accounts rest) (.adapter_init args) ℓ).ledger =
          System.created ℓ s.initializer.pubkey s.adapter.pubkey ID
            (Adapter.accountType.try_serialize (args.record w.unix_timestamp bump)) ∧
        (∀ k, k ≠ s.adapter.pubkey →
          ((execute C w (s.accounts rest) (.adapter_init args) ℓ).ledger k).owner = (ℓ k).owner ∧
          ((execute C w (s.accounts rest) (.adapter_init args) ℓ).ledger k).data = (ℓ k).data) ∧
        (view ℓ).adapter s.adapter.pubkey = none ∧
        view (execute C w (s.accounts rest) (.adapter_init args) ℓ).ledger =
          ⟨(view ℓ).registry, Function.update (view ℓ).adapter s.adapter.pubkey
            (some (args.record w.unix_timestamp bump))⟩) ∧
    (∀ accounts, (execute C w accounts (.adapter_init args) ℓ).result ≠ .ok () →
      (execute C w accounts (.adapter_init args) ℓ).ledger = ℓ) ∧
    (∀ (s : AdapterInit) (rest : List AccountMeta),
      s.Declared → s.Constrained C args ℓ → ¬ s.Registrable C args ℓ →
      adapter_init C ((s.accounts rest).map (AccountInfo.load ℓ)) args
          (env C w (s.accounts rest)) (Machine.start ID ℓ) =
            (.error (lateError args), s.create (Machine.start ID ℓ)) ∧
        (execute C w (s.accounts rest) (.adapter_init args) ℓ).result =
          .error (lateError args) ∧
        (execute C w (s.accounts rest) (.adapter_init args) ℓ).ledger = ℓ) := by
  refine ⟨fun accounts => execute_eq_ok_iff, fun hvalid s hs => (hs.canonical hvalid).2,
    ?_, fun accounts h => (execute_of_not_ok h).1, ?_⟩
  · intro s rest h
    obtain ⟨bump, hfind, hledger, hadapter, hview⟩ := ledger_of_ok h
    refine ⟨bump, hfind, hledger, ?_, hadapter, hview⟩
    intro k hk
    rw [hledger]
    exact System.created_holds_of_ne hk
  · intro s rest hdeclared hs h
    have hrun : adapter_init C ((s.accounts rest).map (AccountInfo.load ℓ)) args
        (env C w (s.accounts rest)) (Machine.start ID ℓ) = _ :=
      run_of_not_registrable rest hdeclared hs h
    have hout : execute C w (s.accounts rest) (.adapter_init args) ℓ = _ := transact_of_error hrun
    rw [hout]
    exact ⟨hrun, rfl, rfl⟩

/-! ### The accounts struct -/

/-- The accounts of `registerDrift`, but for the record's account, which is read-only. -/
def readOnlyInit : AdapterInit where
  initializer := ⟨INITIALIZER, true, true⟩
  adapter := ⟨driftAddress, false, false⟩
  registry := ⟨registryAddress, false, false⟩
  system_program := ⟨System.ID, false, false⟩

/-- **What an account holds is not all**: the signer, the registry, the address and the
arguments are as they should be, but the record's account is not passed as writable. -/
theorem adapter_init_refuses_readOnly :
    readOnlyInit.initializer.is_signer = true ∧
      find_program_address sampleCrypto Registry.seeds ID =
        some (readOnlyInit.registry.pubkey, 255) ∧
      readOnlyInit.Registrable sampleCrypto ⟨INITIALIZER, DriftAdapter.ID, USDC, 0⟩
        (ledgerAfter sampleCrypto genesis [openRegistry]) ∧
      (execute sampleCrypto quietWorld (readOnlyInit.accounts [])
        (.adapter_init ⟨INITIALIZER, DriftAdapter.ID, USDC, 0⟩)
        (ledgerAfter sampleCrypto genesis [openRegistry])).result =
          .error .privilegeEscalation := by
  refine ⟨rfl, by decide +kernel, ⟨⟨?_, ?_, ⟨?_, ?_, ?_⟩⟩, ?_, ?_, ?_, ?_⟩, ?_⟩
  · exact ⟨⟨INITIALIZER, 255⟩, by decide +kernel, rfl, by decide +kernel⟩
  · exact ⟨255, by decide +kernel⟩
  · decide +kernel
  · decide
  · exact .inr (by decide +kernel)
  · exact ⟨.Active, rfl⟩
  · decide
  · decide
  · decide
  · decide +kernel

end Exactness

end Dispatcher
