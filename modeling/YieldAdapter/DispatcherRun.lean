/-
# Runs of the dispatcher

The ledger under any interleaving of dispatcher instructions, successful or not,
with actions of other programs.  Seen through `view`, every step is a change of
the adapter table that is possible there: the dispatcher refines the table.
-/
import YieldAdapter.AdapterTable
import YieldAdapter.DispatcherRouting
import YieldAdapter.ReferenceAdapters

open Solana

namespace Dispatcher

/-! ## The table behind a ledger -/

/-- What the dispatcher keeps in a ledger. -/
def view (ℓ : Ledger) : Table := ⟨fun k => heldRegistry (ℓ k), fun k => heldAdapter (ℓ k)⟩

/-- No account of the dispatcher holds anything but zeros. -/
def NoData (ℓ : Ledger) : Prop := ∀ k, (ℓ k).owner = ID → ∀ b ∈ (ℓ k).data, b = 0

theorem view_of_noData {ℓ : Ledger} (h : NoData ℓ) : view ℓ = Table.empty := by
  have hnone : ∀ {α : Type} (T : AccountType α) k, T.held ID (ℓ k) = none := by
    intro α T k
    by_cases howner : (ℓ k).owner = ID
    · exact T.held_zeroed (h k howner)
    · exact T.held_of_owner_ne howner
  rw [view, Table.empty, Table.mk.injEq]
  exact ⟨funext fun k => hnone Registry.accountType k, funext fun k => hnone Adapter.accountType k⟩

/-- Other programs do not change the table. -/
theorem view_of_frame {ℓ ℓ' : Ledger} (h : OwnerFrame ID ℓ ℓ') : view ℓ' = view ℓ := by
  rw [view, view, Table.mk.injEq]
  exact ⟨funext fun k => Registry.accountType.held_of_frame h k,
    funext fun k => Adapter.accountType.held_of_frame h k⟩

/-- An address that no program has claimed holds nothing. -/
theorem view_of_plain {ℓ : Ledger} {k : Pubkey} (h : (ℓ k).Plain) :
    (view ℓ).registry k = none ∧ (view ℓ).adapter k = none :=
  ⟨heldRegistry_of_plain h, heldAdapter_of_plain h⟩

theorem view_update (ℓ : Ledger) (k : Pubkey) (account : Account) :
    view (Function.update ℓ k account) =
      ⟨Function.update (view ℓ).registry k (heldRegistry account),
        Function.update (view ℓ).adapter k (heldAdapter account)⟩ := by
  rw [view, Table.mk.injEq]
  constructor <;>
  · funext k'
    by_cases hk : k' = k
    · subst hk
      rw [Function.update_self, Function.update_self]
    · rw [Function.update_of_ne hk, Function.update_of_ne hk]
      rfl

/-- Lamports are no part of the table: paying for a new account leaves the rest of it. -/
theorem view_created (ℓ : Ledger) (payer k : Pubkey) (data : List UInt8) :
    view (System.created ℓ payer k ID data) =
      ⟨Function.update (view ℓ).registry k
          (heldRegistry ⟨(ℓ k).lamports + System.rentDue ℓ k data.length, ID, data⟩),
        Function.update (view ℓ).adapter k
          (heldAdapter ⟨(ℓ k).lamports + System.rentDue ℓ k data.length, ID, data⟩)⟩ := by
  rw [System.created, view_update, Table.mk.injEq]
  have hpaid : ∀ {α : Type} (T : AccountType α),
      (fun k' => T.held ID (Function.update ℓ payer { ℓ payer with
        lamports := (ℓ payer).lamports - System.rentDue ℓ k data.length } k')) =
      fun k' => T.held ID (ℓ k') := by
    intro α T
    funext k'
    by_cases hk : k' = payer
    · subst hk
      rw [Function.update_self]
      exact T.held_congr rfl rfl
    · rw [Function.update_of_ne hk]
  exact ⟨congrArg (Function.update · k _) (hpaid Registry.accountType),
    congrArg (Function.update · k _) (hpaid Adapter.accountType)⟩

/-- Storing a record changes the table at that address only. -/
theorem view_update_adapter {ℓ : Ledger} {k : Pubkey} (hregistry : (view ℓ).registry k = none)
    (lamports : ℕ) (a : Adapter) (rest : List UInt8) :
    view (Function.update ℓ k ⟨lamports, ID, Adapter.accountType.try_serialize a ++ rest⟩) =
      { view ℓ with adapter := Function.update (view ℓ).adapter k (some a) } := by
  have hheld : heldAdapter ⟨lamports, ID, Adapter.accountType.try_serialize a ++ rest⟩ = some a :=
    Adapter.accountType.held_serialized lamports ID a rest
  rw [view_update, hheld, heldRegistry_of_heldAdapter hheld, ← hregistry,
    Function.update_eq_self]

theorem heldAdapter_image (lamports : ℕ) (a : Adapter) :
    heldAdapter ⟨lamports, ID, Adapter.accountType.try_serialize a⟩ = some a :=
  Adapter.accountType.held_image lamports ID a

theorem heldRegistry_image (lamports : ℕ) (r : Registry) :
    heldRegistry ⟨lamports, ID, Registry.accountType.try_serialize r⟩ = some r :=
  Registry.accountType.held_image lamports ID r

/-- Creating a record adds it to the table. -/
theorem view_created_adapter {ℓ : Ledger} {k : Pubkey} (hregistry : (view ℓ).registry k = none)
    (payer : Pubkey) (a : Adapter) :
    view (System.created ℓ payer k ID (Adapter.accountType.try_serialize a)) =
      { view ℓ with adapter := Function.update (view ℓ).adapter k (some a) } := by
  have hheld := heldAdapter_image
    ((ℓ k).lamports + System.rentDue ℓ k (Adapter.accountType.try_serialize a).length) a
  rw [view_created, hheld, heldRegistry_of_heldAdapter hheld, ← hregistry,
    Function.update_eq_self]

/-- Creating the registry adds it to the table. -/
theorem view_created_registry {ℓ : Ledger} {k : Pubkey} (hadapter : (view ℓ).adapter k = none)
    (payer : Pubkey) (r : Registry) :
    view (System.created ℓ payer k ID (Registry.accountType.try_serialize r)) =
      { view ℓ with registry := Function.update (view ℓ).registry k (some r) } := by
  have hother : heldAdapter ⟨(ℓ k).lamports +
      System.rentDue ℓ k (Registry.accountType.try_serialize r).length, ID,
      Registry.accountType.try_serialize r⟩ = none := by
    rw [Option.eq_none_iff_forall_ne_some]
    intro a ha
    exact absurd ((heldRegistry_image _ r).symm.trans (heldRegistry_of_heldAdapter ha)) (by simp)
  rw [view_created, heldRegistry_image, hother, ← hadapter, Function.update_eq_self]

/-! ## What successful instructions do to the ledger -/

section Execute

variable {C : Crypto} {w : World} {accounts : List AccountMeta} {ℓ : Ledger}

theorem execute_registry_init (h : (execute C w accounts .registry_init ℓ).result = .ok ()) :
    ∃ initializer registry rest bump,
      accounts = initializer :: registry :: rest ∧
      initializer.is_signer = true ∧ initializer.pubkey = INITIALIZER ∧
      find_program_address C Registry.seeds ID = some (registry.pubkey, bump) ∧
      System.Creatable ℓ INITIALIZER registry.pubkey (8 + Registry.accountType.INIT_SPACE) ∧
      (execute C w accounts .registry_init ℓ).ledger =
        System.created ℓ INITIALIZER registry.pubkey ID
          (Registry.accountType.try_serialize { initializer := INITIALIZER, bump := bump }) := by
  obtain ⟨m, hrun, hout⟩ := transact_result_ok h
  obtain ⟨initializer, registry, system_program, rest, bump, haccounts, hsigner, -, hkey, -, hfind,
    -, hcreatable, rfl⟩ := registry_init_eq_ok.mp hrun
  obtain ⟨initializer, _, rfl, rfl, hrest⟩ := List.map_eq_cons_iff.mp haccounts
  obtain ⟨registry, _, rfl, rfl, -⟩ := List.map_eq_cons_iff.mp hrest
  refine ⟨initializer, registry, _, bump, rfl, hsigner, hkey, hfind, hcreatable, ?_⟩
  rw [execute, hout]
  rfl

theorem execute_adapter_init {args : AdapterInitArgs}
    (h : (execute C w accounts (.adapter_init args) ℓ).result = .ok ()) :
    ∃ initializer adapter registry system_program rest r bump,
      accounts = initializer :: adapter :: registry :: system_program :: rest ∧
      initializer.is_signer = true ∧ initializer.is_writable = true ∧
      heldRegistry (ℓ registry.pubkey) = some r ∧ r.initializer = initializer.pubkey ∧
      create_program_address C (Registry.seeds ++ [[r.bump]]) ID = some registry.pubkey ∧
      system_program.pubkey = System.ID ∧
      find_program_address C (Adapter.seeds args.program_id args.authority) ID =
        some (adapter.pubkey, bump) ∧
      adapter.is_writable = true ∧
      System.Creatable ℓ initializer.pubkey adapter.pubkey
        (8 + Adapter.accountType.INIT_SPACE) ∧
      (args.record w.unix_timestamp bump).invariant = .ok () ∧
      (execute C w accounts (.adapter_init args) ℓ).ledger =
        System.created ℓ initializer.pubkey adapter.pubkey ID
          (Adapter.accountType.try_serialize (args.record w.unix_timestamp bump)) := by
  obtain ⟨m, hrun, hout⟩ := transact_result_ok h
  obtain ⟨_, _, _, _, _, r, bump, haccounts, hsigner, hpayer, hregistry, hkey, hseeds, hsystem,
    hfind, hcreated, hcreatable, hinv, rfl⟩ := adapter_init_eq_ok.mp hrun
  -- the handler's accounts are those passed, loaded one by one
  obtain ⟨initializer, _, rfl, rfl, hrest₁⟩ := List.map_eq_cons_iff.mp haccounts
  obtain ⟨adapter, _, rfl, rfl, hrest₂⟩ := List.map_eq_cons_iff.mp hrest₁
  obtain ⟨registry, _, rfl, rfl, hrest₃⟩ := List.map_eq_cons_iff.mp hrest₂
  obtain ⟨system_program, rest, rfl, rfl, -⟩ := List.map_eq_cons_iff.mp hrest₃
  refine ⟨initializer, adapter, registry, system_program, rest, r, bump, rfl, hsigner, hpayer,
    (Anchor.account_load_eq_ok ID_ne_system).mp hregistry, hkey, hseeds, hsystem, hfind, hcreated,
    hcreatable, hinv, ?_⟩
  rw [execute, hout]
  rfl

theorem nextStatus_eq_ok {s s' : AdapterStatus} :
    nextStatus s = .ok s' ↔ s ≠ .Deprecated ∧ s' = toggled s := by
  cases s <;> simp [nextStatus, toggled, eq_comm]

theorem execute_toggle_adapter
    (h : (execute C w accounts .toggle_adapter ℓ).result = .ok ()) :
    ∃ authority adapter rest a s data,
      accounts = authority :: adapter :: rest ∧
      authority.is_signer = true ∧ heldAdapter (ℓ adapter.pubkey) = some a ∧
      a.authority = authority.pubkey ∧ a.status = s.as_u8 ∧ s ≠ .Deprecated ∧
      (execute C w accounts .toggle_adapter ℓ).events = [(ID, .ToggleEvent authority.pubkey
        adapter.pubkey a.program_id (toggled s).as_u8)] ∧
      (execute C w accounts .toggle_adapter ℓ).ledger = Function.update ℓ adapter.pubkey
        ⟨(ℓ adapter.pubkey).lamports, ID,
          Adapter.accountType.try_serialize (a.withStatus (toggled s)) ++ data⟩ := by
  obtain ⟨m, hrun, hout⟩ := transact_result_ok h
  obtain ⟨authority, adapter, rest, a, s, s', haccounts, hsigner, -, -, hadapter, hkey, -, hstatus,
    hnext, -, rfl⟩ := toggle_adapter_eq_ok.mp hrun
  obtain ⟨hne, rfl⟩ := nextStatus_eq_ok.mp hnext
  obtain ⟨authority, _, rfl, rfl, hrest⟩ := List.map_eq_cons_iff.mp haccounts
  obtain ⟨adapter, _, rfl, rfl, -⟩ := List.map_eq_cons_iff.mp hrest
  have hheld := (Anchor.account_load_eq_ok ID_ne_system).mp hadapter
  obtain ⟨howner, -⟩ := Adapter.accountType.held_eq_some.mp hheld
  refine ⟨authority, adapter, _, a, s,
    (ℓ adapter.pubkey).data.drop (8 + Adapter.accountType.INIT_SPACE), rfl, hsigner, hheld, hkey,
    Adapter.readStatus_eq_ok.mp hstatus, hne, ?_, ?_⟩
  · rw [execute, hout]
    rfl
  · rw [execute, hout, ← howner]
    rfl

/-- A failed instruction changes nothing. -/
theorem execute_of_not_ok {call : Call} (h : (execute C w accounts call ℓ).result ≠ .ok ()) :
    (execute C w accounts call ℓ).ledger = ℓ ∧ (execute C w accounts call ℓ).events = [] :=
  transact_of_not_ok h

end Execute

/-! ## Actions -/

/-- What programs other than the dispatcher do on their own. -/
structure OtherPrograms where
  run : Ledger → Ledger
  frame : ∀ ℓ, OwnerFrame ID ℓ (run ℓ)

/-- A step of a run: a dispatcher instruction, or other programs. -/
inductive Action where
  | call (w : World) (accounts : List AccountMeta) (call : Call)
  | other (programs : OtherPrograms)

/-- The ledger after a step. -/
def step (C : Crypto) (ℓ : Ledger) : Action → Ledger
  | .call w accounts call => (execute C w accounts call ℓ).ledger
  | .other programs => programs.run ℓ

/-- The ledger after a run. -/
abbrev ledgerAfter (C : Crypto) (ℓ : Ledger) (actions : List Action) : Ledger :=
  Runs.run (step C) ℓ actions

/-- The action is a successful `toggle_adapter` of the record at `k`. -/
def Toggles (C : Crypto) (k : Pubkey) (ℓ : Ledger) : Action → Bool
  | .call w (authority :: adapter :: rest) .toggle_adapter =>
      adapter.pubkey = k &&
        (execute C w (authority :: adapter :: rest) .toggle_adapter ℓ).result.isOk
  | _ => false

/-- The action is a successful `adapter_init` that the registry's initializer has
signed, and that created the record `a` at the unused address `k`. -/
def Registers (C : Crypto) (k : Pubkey) (a : Adapter) (ℓ : Ledger) (action : Action) : Prop :=
  ∃ w initializer adapter rest args,
    action = .call w (initializer :: adapter :: rest) (.adapter_init args) ∧
    (execute C w (initializer :: adapter :: rest) (.adapter_init args) ℓ).result = .ok () ∧
    initializer.is_signer = true ∧
    (∃ k₀ r, heldRegistry (ℓ k₀) = some r ∧ r.initializer = initializer.pubkey) ∧
    adapter.pubkey = k ∧ heldAdapter (ℓ k) = none ∧
    heldAdapter (step C ℓ action k) = some a ∧ a = args.record w.unix_timestamp a.bump

/-- How a change of the table came about. -/
def Change.By (C : Crypto) (ℓ : Ledger) (action : Action) : Change → Prop
  | .idle | .openRegistry _ _ => ∀ k, Toggles C k ℓ action = false
  | .register k a => (∀ k', Toggles C k' ℓ action = false) ∧ Registers C k a ℓ action
  | .toggle k _ _ => ∀ k', Toggles C k' ℓ action = decide (k = k')

/-! ## Refinement -/

section Refinement

variable {C : Crypto} {ℓ : Ledger} {w : World} {accounts : List AccountMeta}

theorem isOk_iff {ε : Type} {x : Except ε Unit} : x.isOk = true ↔ x = .ok () := by
  rcases x with e | ⟨⟩ <;> simp [Except.isOk, Except.toBool]

/-- A failed instruction toggles nothing. -/
theorem toggles_of_not_ok {call : Call} (h : (execute C w accounts call ℓ).result ≠ .ok ())
    (k : Pubkey) : Toggles C k ℓ (.call w accounts call) = false := by
  rcases accounts with _ | ⟨authority, _ | ⟨adapter, rest⟩⟩
  · rfl
  · rfl
  · cases call with
    | toggle_adapter =>
        rw [Toggles, Bool.and_eq_false_iff]
        exact .inr (Bool.eq_false_iff.mpr fun hok => h (isOk_iff.mp hok))
    | _ => rfl

/-- Only `toggle_adapter` toggles. -/
theorem toggles_of_ne {call : Call} (h : call ≠ .toggle_adapter) (k : Pubkey) :
    Toggles C k ℓ (.call w accounts call) = false := by
  rcases accounts with _ | ⟨authority, _ | ⟨adapter, rest⟩⟩
  · rfl
  · rfl
  · cases call with
    | toggle_adapter => exact absurd rfl h
    | _ => rfl

/-- **Refinement.**  Every step of the dispatcher's ledger is a possible change of
the adapter table, brought about as it should be. -/
theorem step_change (action : Action) :
    ∃ c : Change, c.Enabled C (view ℓ) ∧ view (step C ℓ action) = c.apply (view ℓ) ∧
      c.By C ℓ action := by
  cases action with
  | other programs =>
      exact ⟨.idle, trivial, view_of_frame (programs.frame ℓ), fun k => rfl⟩
  | call w accounts call =>
      by_cases hok : (execute C w accounts call ℓ).result = .ok ()
      · cases call with
        | registry_init =>
            obtain ⟨initializer, registry, rest, bump, rfl, -, -, hfind, hcreatable, hledger⟩ :=
              execute_registry_init hok
            obtain ⟨hregistry, hadapter⟩ := view_of_plain hcreatable.unused
            refine ⟨.openRegistry registry.pubkey { initializer := INITIALIZER, bump := bump },
              ⟨hregistry, hadapter, rfl, hfind⟩, ?_, toggles_of_ne (by simp)⟩
            rw [step, hledger, view_created_registry hadapter]
            rfl
        | adapter_init args =>
            obtain ⟨initializer, adapter, registry, system_program, rest, r, bump, rfl, hsigner, -,
              hregistry, hkey, -, -, hfind, -, hcreatable, hinv, hledger⟩ :=
              execute_adapter_init hok
            obtain ⟨hnoregistry, hadapter⟩ := view_of_plain hcreatable.unused
            have hview := view_created_adapter hnoregistry initializer.pubkey
              (args.record w.unix_timestamp bump)
            rw [← hledger] at hview
            refine ⟨.register adapter.pubkey (args.record w.unix_timestamp bump),
              ⟨hnoregistry, hadapter, ⟨registry.pubkey, r, hregistry⟩, hinv, hfind⟩, hview,
              toggles_of_ne (by simp), w, initializer, adapter, _, args, rfl, hok, hsigner,
              ⟨registry.pubkey, r, hregistry, hkey⟩, rfl, hadapter, ?_, rfl⟩
            exact (congrFun (congrArg Table.adapter hview) adapter.pubkey).trans
              (Function.update_self _ _ _)
        | toggle_adapter =>
            obtain ⟨authority, adapter, rest, a, s, data, rfl, -, hheld, -, hstatus, hne, -,
              hledger⟩ := execute_toggle_adapter hok
            have hregistry : (view ℓ).registry adapter.pubkey = none :=
              heldRegistry_of_heldAdapter hheld
            refine ⟨.toggle adapter.pubkey a s, ⟨hheld, hstatus, hne⟩, ?_, ?_⟩
            · rw [step, hledger, view_update_adapter hregistry]
              rfl
            · intro k
              rw [Toggles, isOk_iff.mpr hok, Bool.and_true]
        -- whatever the adapter does, it cannot write the dispatcher's accounts
        | deposit args =>
            exact ⟨.idle, trivial, view_of_frame (ownerFrame_execute_route rfl),
              toggles_of_ne (by simp)⟩
        | withdraw args =>
            exact ⟨.idle, trivial, view_of_frame (ownerFrame_execute_route rfl),
              toggles_of_ne (by simp)⟩
        | current_value =>
            exact ⟨.idle, trivial, view_of_frame (ownerFrame_execute_route rfl),
              toggles_of_ne (by simp)⟩
      · -- a failed instruction is rolled back
        refine ⟨.idle, trivial, ?_, toggles_of_not_ok hok⟩
        rw [step, (execute_of_not_ok hok).1]
        rfl

/-- Every step keeps the table valid. -/
theorem valid_step (ℓ : Ledger) (action : Action) (h : (view ℓ).Valid C) :
    (view (step C ℓ action)).Valid C := by
  obtain ⟨c, henabled, hview, -⟩ := step_change (C := C) (ℓ := ℓ) action
  rw [hview]
  exact h.apply henabled

/-- **Every reachable ledger holds a valid table.** -/
theorem valid_ledgerAfter {ℓ₀ : Ledger} (h₀ : NoData ℓ₀) (actions : List Action) :
    (view (ledgerAfter C ℓ₀ actions)).Valid C :=
  Runs.invariant (I := fun ℓ => (view ℓ).Valid C) valid_step
    (by rw [view_of_noData h₀]; exact Table.Valid.empty) actions

/-- Records persist along runs. -/
theorem persists_ledgerAfter (ℓ : Ledger) (actions : List Action) :
    (view ℓ).Persists (view (ledgerAfter C ℓ actions)) := by
  refine Runs.related (I := fun _ => True) (R := fun ℓ ℓ' => (view ℓ).Persists (view ℓ'))
    (fun _ _ _ => trivial) (fun ℓ => Table.Persists.refl _) (fun _ _ _ => Table.Persists.trans)
    ?_ trivial actions
  intro ℓ action _
  obtain ⟨c, henabled, hview, -⟩ := step_change (C := C) (ℓ := ℓ) action
  rw [hview]
  exact Table.persists_apply henabled

end Refinement

/-! ## A run

One registered adapter, at the addresses that the programs have on the network. -/

section Sample

/-- The registry's address, with bump 255. -/
def registryAddress : Pubkey :=
  ⟨[60, 89, 48, 178, 207, 34, 146, 43, 68, 57, 156, 17, 185, 169, 224, 238, 118, 12, 157, 218, 136,
    102, 116, 245, 22, 214, 163, 90, 145, 147, 19, 50], rfl⟩

/-- The address of the Drift adapter's record under `INITIALIZER`, with bump 255. -/
def driftAddress : Pubkey :=
  ⟨[185, 76, 234, 141, 20, 57, 30, 71, 157, 62, 106, 52, 105, 169, 157, 147, 146, 114, 37, 116, 248,
    34, 30, 148, 131, 35, 50, 199, 144, 191, 187, 216], rfl⟩

/-- The mint `EPjFWdd5AufqSSqeM2qN1xzybapC8G4wEGGkZwyTDt1v`. -/
def USDC : Pubkey :=
  ⟨[198, 250, 122, 243, 190, 219, 173, 58, 61, 101, 243, 106, 171, 201, 116, 49, 177, 187, 228,
    194, 210, 246, 224, 228, 124, 166, 2, 3, 69, 47, 93, 97], rfl⟩

/-- The hash at the two preimages that matter below. -/
def sampleCrypto : Crypto where
  sha256 := fun bs =>
    if bs = Registry.seeds.flatten ++ [255] ++ ID.bytes ++ PDA_MARKER then registryAddress
    else if bs = (Adapter.seeds DriftAdapter.ID INITIALIZER).flatten ++ [255] ++ ID.bytes ++
      PDA_MARKER then driftAddress
    else Pubkey.default
  bytes_are_curve_point := fun k => k = Pubkey.default

/-- The ledger before anything has happened: `INITIALIZER` has ten SOL. -/
def genesis : Ledger :=
  Function.update (fun _ => Account.vacant) INITIALIZER ⟨10000000000, System.ID, []⟩

theorem plain_genesis (k : Pubkey) : (genesis k).Plain := by
  unfold genesis
  by_cases hk : k = INITIALIZER
  · rw [hk, Function.update_self]
    exact ⟨rfl, rfl⟩
  · rw [Function.update_of_ne hk]
    exact Account.plain_vacant

theorem noData_genesis : NoData genesis := fun k h =>
  absurd ((plain_genesis k).owner.symm.trans h) ID_ne_system.symm

/-- Other programs that return at once. -/
def quietWorld : World where
  unix_timestamp := 1700000000
  programs := ⟨fun _ m => (.ok (), m), fun _ m _ => Foreign.refl m⟩

/-- `INITIALIZER` opens the registry. -/
def openRegistry : Action :=
  .call quietWorld [⟨INITIALIZER, true, true⟩, ⟨registryAddress, false, true⟩,
    ⟨System.ID, false, false⟩] .registry_init

/-- `INITIALIZER` registers the Drift adapter under itself. -/
def registerDrift (status : UInt8) : Action :=
  .call quietWorld [⟨INITIALIZER, true, true⟩, ⟨driftAddress, false, true⟩,
    ⟨registryAddress, false, false⟩, ⟨System.ID, false, false⟩]
    (.adapter_init ⟨INITIALIZER, DriftAdapter.ID, USDC, status⟩)

/-- The record of the Drift adapter. -/
def driftRecord (status : UInt8) : Adapter :=
  (⟨INITIALIZER, DriftAdapter.ID, USDC, status⟩ : AdapterInitArgs).record 1700000000 255

/-- `INITIALIZER` toggles the Drift adapter. -/
def toggleDrift : Action :=
  .call quietWorld [⟨INITIALIZER, true, true⟩, ⟨driftAddress, false, true⟩] .toggle_adapter

/-- The ledger in which the Drift adapter is registered as `Active`. -/
def sampleLedger : Ledger := ledgerAfter sampleCrypto genesis [openRegistry, registerDrift 0]

/-- The accounts of a call for the Drift adapter, by `INITIALIZER`. -/
def driftAccounts (remaining : List AccountMeta) : List AccountMeta :=
  ⟨INITIALIZER, true, true⟩ :: ⟨driftAddress, false, false⟩ :: remaining

/-- The accounts of the Drift adapter and of Drift, without which neither is called. -/
def driftPrograms : List AccountMeta :=
  [⟨DriftAdapter.ID, false, false⟩, ⟨DriftAdapter.PROGRAM_ID, false, false⟩]

/-- Every call for the Drift adapter that passes its check is routed to it, wherever the
record is held. -/
theorem planAt_of_driftRecord {r : Route} {ℓ : Ledger} (remaining : List AccountMeta)
    (hheld : heldAdapter (ℓ driftAddress) = some (driftRecord 0))
    (h : r.validate (driftRecord 0) = .ok ()) :
    r.planAt sampleCrypto (driftAccounts remaining) ℓ =
      .ok (⟨DriftAdapter.ID, AccountMeta.new_readonly INITIALIZER true :: remaining, r.data⟩,
        ⟨AccountInfo.load ℓ ⟨INITIALIZER, true, true⟩,
          AccountInfo.load ℓ ⟨driftAddress, false, false⟩, driftRecord 0,
          remaining.map (AccountInfo.load ℓ)⟩) := by
  have haddress : create_program_address sampleCrypto
      (Adapter.seeds DriftAdapter.ID INITIALIZER ++ [[255]]) ID = some driftAddress := by
    decide +kernel
  exact Route.planAt_eq_ok.mpr ⟨_, _, _, rfl, rfl, rfl, hheld, haddress, h, rfl, rfl⟩

theorem heldAdapter_sampleLedger :
    heldAdapter (sampleLedger driftAddress) = some (driftRecord 0) := by
  decide +kernel

theorem planAt_sampleLedger {r : Route} (remaining : List AccountMeta)
    (h : r.validate (driftRecord 0) = .ok ()) :
    r.planAt sampleCrypto (driftAccounts remaining) sampleLedger =
      .ok (⟨DriftAdapter.ID, AccountMeta.new_readonly INITIALIZER true :: remaining, r.data⟩,
        ⟨AccountInfo.load sampleLedger ⟨INITIALIZER, true, true⟩,
          AccountInfo.load sampleLedger ⟨driftAddress, false, false⟩, driftRecord 0,
          remaining.map (AccountInfo.load sampleLedger)⟩) :=
  planAt_of_driftRecord remaining heldAdapter_sampleLedger h

end Sample

end Dispatcher
