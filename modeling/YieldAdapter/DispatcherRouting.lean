/-
# Routing

`deposit`, `withdraw` and `current_value` as relays: the plan of a routed call is
a pure function of its accounts and arguments, and the call itself is carried out
by the runtime.

The runtime lets the dispatcher call itself, and no other program call it back.
A routed call back into the dispatcher is refused at its entry point, because the
discriminators of the adapter interface are not among its own; so whatever a
routed call reaches, it does not touch the dispatcher's accounts.
-/
import YieldAdapter.DispatcherSpec
import YieldAdapter.Relay

open Solana

namespace Dispatcher

/-! ## Plans -/

section Plan

variable {C : Crypto} {accounts : List AccountInfo}

/-- What the three routing instructions differ in: their check of the record, the
data they send, and what they do afterwards. -/
structure Route where
  validate : Adapter → Except Error Unit
  data : List UInt8
  after : Routed → Prog Unit

/-- The route of `deposit`. -/
def Deposit.route (args : DepositArgs) : Route where
  validate := fun adapter => Deposit.validate adapter args
  data := Deposit.data args
  after := fun ctx => Exec.emit
    (.DepositEvent ctx.signer.key ctx.adapter.program_id args.amount)

/-- The route of `withdraw`. -/
def Withdraw.route (args : WithdrawArgs) : Route where
  validate := fun adapter => Withdraw.validate adapter args
  data := Withdraw.data args
  after := fun ctx => Exec.emit
    (.WithdrawEvent ctx.signer.key ctx.adapter.program_id args.amount)

/-- The route of `current_value`. -/
def CurrentValue.route : Route where
  validate := CurrentValue.validate
  data := ADAPTER_CURRENT_VALUE_DISCRIMINATOR
  after := fun _ => do
    let current_value ← read_return_u64
    set_return_u64 current_value

/-- The route of a routing instruction. -/
def Call.route : Call → Option Route
  | .deposit args => some (Deposit.route args)
  | .withdraw args => some (Withdraw.route args)
  | .current_value => some CurrentValue.route
  | .registry_init | .adapter_init _ | .toggle_adapter => none

/-- The routing instructions, with their routes. -/
theorem Call.route_cases {call : Call} {r : Route} (h : call.route = some r) :
    (∃ args, call = .deposit args ∧ r = Deposit.route args) ∨
      (∃ args, call = .withdraw args ∧ r = Withdraw.route args) ∨
      call = .current_value ∧ r = CurrentValue.route := by
  cases call with
  | deposit args => exact .inl ⟨args, rfl, (Option.some.inj h).symm⟩
  | withdraw args => exact .inr (.inl ⟨args, rfl, (Option.some.inj h).symm⟩)
  | current_value => exact .inr (.inr ⟨rfl, (Option.some.inj h).symm⟩)
  | registry_init => exact absurd h (by simp [route])
  | adapter_init args => exact absurd h (by simp [route])
  | toggle_adapter => exact absurd h (by simp [route])

/-- The plan of a route: the checks, then the instruction for the adapter. -/
def Route.plan (C : Crypto) (r : Route) (accounts : List AccountInfo) :
    Except Error (Instruction × Routed) := do
  let ctx ← Routed.try_accounts C accounts
  r.validate ctx.adapter
  return (ctx.instruction r.data, ctx)

/-- **The routing instructions are relays of their plans.** -/
theorem Call.run_of_route {call : Call} {r : Route} (h : call.route = some r) :
    call.run C accounts = relay (r.plan C accounts) r.after := by
  -- a handler makes its checks one by one, where a relay makes them all at once
  obtain ⟨args, rfl, rfl⟩ | ⟨args, rfl, rfl⟩ | ⟨rfl, rfl⟩ := Call.route_cases h
  · simp only [run, Dispatcher.deposit, Deposit.route, relay, Route.plan, Exec.lift_bind,
      bind_assoc, Exec.lift_pure, pure_bind]
  · simp only [run, Dispatcher.withdraw, Withdraw.route, relay, Route.plan, Exec.lift_bind,
      bind_assoc, Exec.lift_pure, pure_bind]
  · simp only [run, Dispatcher.current_value, CurrentValue.route, relay, Route.plan,
      Exec.lift_bind, bind_assoc, Exec.lift_pure, pure_bind]

/-- When the accounts of a routed call pass. -/
theorem Routed.try_accounts_eq_ok {ctx : Routed} :
    Routed.try_accounts C accounts = .ok ctx ↔
      accounts = ctx.signer :: ctx.adapter_info :: ctx.remaining_accounts ∧
      ctx.signer.is_signer = true ∧ ctx.signer.is_writable = true ∧
      Anchor.account Adapter.accountType ID ctx.adapter_info =
        (.ok ctx.adapter : Except Error _) ∧
      create_program_address C (Adapter.seeds ctx.adapter.program_id ctx.adapter.authority ++
        [[ctx.adapter.bump]]) ID = some ctx.adapter_info.key := by
  simp only [Routed.try_accounts, except_bind_eq_ok, Prod.exists, Anchor.next_account_eq_ok,
    Anchor.signer_eq_ok, Anchor.constraint_mut_eq_ok, Anchor.constraint_seeds_eq_ok,
    exists_and_left, exists_const]
  constructor
  · rintro ⟨signer, _, rfl, hsigner, info, remaining, rfl, adapter, hadapter, hmut, hseeds, h⟩
    obtain rfl := Except.ok.inj h
    exact ⟨rfl, hsigner, hmut, hadapter, hseeds⟩
  · rintro ⟨rfl, hsigner, hmut, hadapter, hseeds⟩
    exact ⟨ctx.signer, _, rfl, hsigner, ctx.adapter_info, _, rfl, ctx.adapter, hadapter, hmut,
      hseeds, rfl⟩

theorem Route.plan_eq_ok {r : Route} {ix : Instruction} {ctx : Routed} :
    r.plan C accounts = .ok (ix, ctx) ↔
      Routed.try_accounts C accounts = .ok ctx ∧ r.validate ctx.adapter = .ok () ∧
        ix = ctx.instruction r.data := by
  simp only [Route.plan, except_bind_eq_ok]
  constructor
  · rintro ⟨ctx', hctx, ⟨⟩, hvalidate, h⟩
    obtain ⟨rfl, rfl⟩ := Prod.mk.inj (Except.ok.inj h)
    exact ⟨hctx, hvalidate, rfl⟩
  · rintro ⟨hctx, hvalidate, rfl⟩
    exact ⟨ctx, hctx, (), hvalidate, rfl⟩

/-- The `extra_data` of an instruction that carries some. -/
def Call.extra_data : Call → Option (List UInt8)
  | .deposit args => some args.extra_data
  | .withdraw args => some args.extra_data
  | _ => none

/-- The check that `deposit` and `withdraw` make of a record and of `extra_data`. -/
theorem validate_eq_ok {adapter : Adapter} {bound : Bool} {e : Error} :
    (do let active ← adapter.is_active
        require active (dispatcherError .Inactive)
        require bound e : Except Error Unit) = .ok () ↔
      adapter.status = AdapterStatus.Active.as_u8 ∧ bound = true := by
  simp only [except_bind_eq_ok, require_eq_ok, exists_const, ← Adapter.is_active_eq_ok_true]
  constructor
  · rintro ⟨active, h, rfl, hbound⟩
    exact ⟨h, hbound⟩
  · rintro ⟨h, hbound⟩
    exact ⟨true, h, rfl, hbound⟩

theorem Deposit.validate_eq_ok {adapter : Adapter} {args : DepositArgs} :
    Deposit.validate adapter args = .ok () ↔
      adapter.status = AdapterStatus.Active.as_u8 ∧
        args.extra_data.length ≤ EXTRA_DATA_MAX_LEN :=
  Dispatcher.validate_eq_ok.trans (and_congr_right fun _ => decide_eq_true_iff)

theorem Withdraw.validate_eq_ok {adapter : Adapter} {args : WithdrawArgs} :
    Withdraw.validate adapter args = .ok () ↔
      adapter.status = AdapterStatus.Active.as_u8 ∧
        args.extra_data.length ≤ EXTRA_DATA_MAX_LEN :=
  Dispatcher.validate_eq_ok.trans (and_congr_right fun _ => decide_eq_true_iff)

theorem CurrentValue.validate_eq_ok {adapter : Adapter} :
    CurrentValue.validate adapter = .ok () ↔
      adapter.status = AdapterStatus.Active.as_u8 := by
  simp only [CurrentValue.validate, except_bind_eq_ok, require_eq_ok,
    ← Adapter.is_active_eq_ok_true]
  constructor
  · rintro ⟨active, h, rfl⟩
    exact h
  · exact fun h => ⟨true, h, rfl⟩

/-- **Every route requires the status `Active`.** -/
theorem Call.active_of_validate {call : Call} {r : Route} (h : call.route = some r)
    {adapter : Adapter} (hvalidate : r.validate adapter = .ok ()) :
    adapter.status = AdapterStatus.Active.as_u8 := by
  obtain ⟨args, rfl, rfl⟩ | ⟨args, rfl, rfl⟩ | ⟨rfl, rfl⟩ := Call.route_cases h
  · exact (Deposit.validate_eq_ok.mp hvalidate).1
  · exact (Withdraw.validate_eq_ok.mp hvalidate).1
  · exact CurrentValue.validate_eq_ok.mp hvalidate

/-- Every route bounds the `extra_data`. -/
theorem Call.extra_data_of_validate {call : Call} {r : Route} (h : call.route = some r)
    {adapter : Adapter} (hvalidate : r.validate adapter = .ok ()) {data : List UInt8}
    (hdata : call.extra_data = some data) : data.length ≤ EXTRA_DATA_MAX_LEN := by
  obtain ⟨args, rfl, rfl⟩ | ⟨args, rfl, rfl⟩ | ⟨rfl, rfl⟩ := Call.route_cases h
  · obtain rfl := Option.some.inj hdata
    exact (Deposit.validate_eq_ok.mp hvalidate).2
  · obtain rfl := Option.some.inj hdata
    exact (Withdraw.validate_eq_ok.mp hvalidate).2
  · exact absurd hdata (by simp [extra_data])

end Plan

/-! ## The runtime -/

/-- What surrounds a top-level instruction: the clock, and the programs other than
the dispatcher. -/
structure World where
  unix_timestamp : Int64
  programs : ForeignPrograms YieldError Event ID

/-- How many calls can be nested below a top-level instruction. -/
def MAX_CALL_DEPTH : ℕ := 4

section Runtime

variable (C : Crypto) (w : World)

/-- Carrying out a CPI, with room for `depth` nested calls. -/
def cpi : ℕ → Instruction → Machine Event → Except Error Unit × Machine Event
  | 0, _, m => (.error .callDepth, m)
  | depth + 1, ix, m =>
      if ix.program_id = ID then enter (entry C) w.unix_timestamp (cpi depth) ix m
      else w.programs.call ix m

/-- The circumstances of a top-level instruction of the dispatcher with these accounts. -/
def env (accounts : List AccountMeta) : Env YieldError Event :=
  ⟨ID, w.unix_timestamp, findCallee (accounts.map AccountMeta.pubkey) (cpi C w MAX_CALL_DEPTH)⟩

/-- A top-level instruction of the dispatcher, in ledger `ℓ`. -/
def execute (accounts : List AccountMeta) (call : Call) (ℓ : Ledger) :
    Outcome YieldError Event :=
  transact (call.run C (accounts.map (AccountInfo.load ℓ))) (env C w accounts) ℓ

/-- The data of an instruction for an adapter. -/
def ForAdapter (data : List UInt8) : Prop :=
  data.take 8 = ADAPTER_DEPOSIT_DISCRIMINATOR ∨ data.take 8 = ADAPTER_WITHDRAW_DISCRIMINATOR ∨
    data.take 8 = ADAPTER_CURRENT_VALUE_DISCRIMINATOR

/-- Every route sends data for an adapter. -/
theorem Call.forAdapter_of_route {call : Call} {r : Route} (h : call.route = some r) :
    ForAdapter r.data := by
  obtain ⟨args, rfl, rfl⟩ | ⟨args, rfl, rfl⟩ | ⟨rfl, rfl⟩ := Call.route_cases h
  · exact .inl (List.take_left' rfl)
  · exact .inr (.inl (List.take_left' rfl))
  · exact .inr (.inr rfl)

/-- **The dispatcher is not an adapter**: its entry point refuses the interface's
instructions. -/
theorem Call.decode_of_forAdapter {data : List UInt8} (h : ForAdapter data) :
    Call.decode data = .error (.anchor .InstructionFallbackNotFound) := by
  rcases h with h | h | h <;> rw [Call.decode, h] <;> rfl

variable {C w} {ix : Instruction} {m : Machine Event}

/-- A routed call back into the dispatcher does nothing. -/
theorem cpi_self (hself : ix.program_id = ID) (h : ForAdapter ix.data) (depth : ℕ) :
    cpi C w (depth + 1) ix m =
      (.error (.anchor .InstructionFallbackNotFound), { m with return_data := (ID, []) }) := by
  rw [cpi, if_pos hself, enter, entry, Call.decode_of_forAdapter h, Exec.bind_lift_error, hself]

theorem cpi_other (hother : ix.program_id ≠ ID) (depth : ℕ) :
    cpi C w (depth + 1) ix m = w.programs.call ix m := by
  rw [cpi, if_neg hother]

theorem env_call_other {accounts : List AccountMeta}
    (hlisted : ix.program_id ∈ accounts.map AccountMeta.pubkey) (hother : ix.program_id ≠ ID) :
    (env C w accounts).call ix m = w.programs.call ix m :=
  (findCallee_of_mem hlisted).trans (cpi_other hother 3)

/-- A program that is not listed is not called. -/
theorem env_call_unlisted {accounts : List AccountMeta}
    (h : ix.program_id ∉ accounts.map AccountMeta.pubkey) :
    (env C w accounts).call ix m = (.error .missingAccount, m) := findCallee_of_not_mem h

/-- **What a routed call may do**: whatever it reaches, the dispatcher's accounts
are protected, and nothing it emits or calls is the dispatcher's. -/
theorem cpi_foreign (h : ForAdapter ix.data) (depth : ℕ) :
    Foreign ID m (cpi C w depth ix m).2 := by
  cases depth with
  | zero => exact Foreign.refl m
  | succ depth =>
      by_cases hself : ix.program_id = ID
      · rw [cpi_self hself h]
        exact ⟨.refl _ _, ⟨[], by simp⟩, ⟨[], by simp⟩⟩
      · rw [cpi_other hself]
        exact w.programs.foreign ix m hself

end Runtime

/-! ## Routed instructions -/

section Execute

variable {C : Crypto} {w : World} {accounts : List AccountMeta} {call : Call} {r : Route}
  {ℓ : Ledger}

/-- The plan of a routed instruction, in a ledger. -/
def Route.planAt (C : Crypto) (r : Route) (accounts : List AccountMeta) (ℓ : Ledger) :
    Except Error (Instruction × Routed) :=
  r.plan C (accounts.map (AccountInfo.load ℓ))

/-- **The accounts and the record behind a plan.** -/
theorem Route.planAt_eq_ok {ix : Instruction} {ctx : Routed} :
    r.planAt C accounts ℓ = .ok (ix, ctx) ↔
      ∃ signer adapter remaining,
        accounts = signer :: adapter :: remaining ∧
        signer.is_signer = true ∧ signer.is_writable = true ∧
        heldAdapter (ℓ adapter.pubkey) = some ctx.adapter ∧
        create_program_address C (Adapter.seeds ctx.adapter.program_id ctx.adapter.authority ++
          [[ctx.adapter.bump]]) ID = some adapter.pubkey ∧
        r.validate ctx.adapter = .ok () ∧
        ctx = ⟨AccountInfo.load ℓ signer, AccountInfo.load ℓ adapter, ctx.adapter,
          remaining.map (AccountInfo.load ℓ)⟩ ∧
        ix = ⟨ctx.adapter.program_id, AccountMeta.new_readonly signer.pubkey true :: remaining,
          r.data⟩ := by
  rw [planAt, plan_eq_ok, Routed.try_accounts_eq_ok]
  constructor
  · rintro ⟨⟨haccounts, hsigner, hmut, hadapter, hseeds⟩, hvalidate, rfl⟩
    obtain ⟨signer, _, rfl, hload, haccounts⟩ := List.map_eq_cons_iff.mp haccounts
    obtain ⟨adapter, remaining, rfl, hload', hremaining⟩ := List.map_eq_cons_iff.mp haccounts
    rw [← hload] at hsigner hmut
    rw [← hload'] at hadapter hseeds
    refine ⟨signer, adapter, remaining, rfl, hsigner, hmut,
      (Anchor.account_load_eq_ok ID_ne_system).mp hadapter, hseeds, hvalidate, ?_, ?_⟩
    · rw [hload, hload', hremaining]
    · rw [Routed.instruction, ← hload, ← hremaining, map_toMeta_load]
      rfl
  · rintro ⟨signer, adapter, remaining, rfl, hsigner, hmut, hheld, hseeds, hvalidate, hctx, rfl⟩
    rw [hctx]
    refine ⟨⟨rfl, hsigner, hmut, (Anchor.account_load_eq_ok ID_ne_system).mpr hheld, hseeds⟩,
      hvalidate, ?_⟩
    rw [Routed.instruction, map_toMeta_load]
    rfl

/-- Afterwards a route calls nothing and writes no account. -/
theorem Call.after_frame (h : call.route = some r) (ctx : Routed) (e : Env YieldError Event)
    (m : Machine Event) :
    (r.after ctx e m).2.calls = m.calls ∧ (r.after ctx e m).2.ledger = m.ledger := by
  obtain ⟨args, rfl, rfl⟩ | ⟨args, rfl, rfl⟩ | ⟨rfl, rfl⟩ := Call.route_cases h
  · exact ⟨rfl, rfl⟩
  · exact ⟨rfl, rfl⟩
  · -- reading the return data may fail, and changes nothing else either way
    show ((read_return_u64 >>= set_return_u64) e m).2.calls = _ ∧
      ((read_return_u64 >>= set_return_u64) e m).2.ledger = _
    rw [Exec.bind_apply, read_return_u64_apply]
    rcases parse_return_u64 (if m.return_data.2 = [] then none else some m.return_data) with
      error | value
    · exact ⟨rfl, rfl⟩
    · exact ⟨rfl, rfl⟩

theorem execute_of_route (h : call.route = some r) :
    execute C w accounts call ℓ =
      transact (relay (r.planAt C accounts ℓ) r.after) (env C w accounts) ℓ := by
  rw [execute, Call.run_of_route h, Route.planAt]

/-- What a planned call does, as the relay lemmas ask for it. -/
theorem foreign_of_planAt (h : call.route = some r) {ix : Instruction} {ctx : Routed}
    (hplan : r.planAt C accounts ℓ = .ok (ix, ctx)) (m : Machine Event) :
    Foreign ID m ((env C w accounts).call ix m).2 := by
  obtain ⟨-, -, -, -, -, -, -, -, -, -, rfl⟩ := Route.planAt_eq_ok.mp hplan
  exact findCallee_related (Foreign.refl m) (cpi_foreign (Call.forAdapter_of_route h) _)

/-- **A routed instruction without a plan** fails, calls nothing and changes
nothing. -/
theorem execute_route_of_error (h : call.route = some r) {e : Error}
    (hplan : r.planAt C accounts ℓ = .error e) :
    execute C w accounts call ℓ = ⟨.error e, ℓ, [], (ID, []), []⟩ := by
  rw [execute_of_route h]
  exact transact_relay_of_error hplan

/-- **A routed instruction without the account of its adapter** fails, since the runtime
does not find the program that it calls. -/
theorem execute_route_unlisted (h : call.route = some r) {ix : Instruction} {ctx : Routed}
    (hplan : r.planAt C accounts ℓ = .ok (ix, ctx))
    (hunlisted : ix.program_id ∉ accounts.map AccountMeta.pubkey) :
    execute C w accounts call ℓ = ⟨.error .missingAccount, ℓ, [], (ID, []), [(ID, ix)]⟩ := by
  rw [execute_of_route h]
  exact transact_relay_of_call_error (m := (Machine.start ID ℓ).called ID ix) hplan
    (env_call_unlisted hunlisted)

/-- A routed instruction that succeeds was passed the account of its adapter. -/
theorem passed_of_execute_route (h : call.route = some r) {ix : Instruction} {ctx : Routed}
    (hplan : r.planAt C accounts ℓ = .ok (ix, ctx))
    (hok : (execute C w accounts call ℓ).result = .ok ()) :
    ix.program_id ∈ accounts.map AccountMeta.pubkey := by
  by_contra hunlisted
  rw [execute_route_unlisted h hplan hunlisted] at hok
  exact absurd hok (by simp)

/-- **A routed instruction with a plan** makes the planned call, and no other. -/
theorem calls_execute_route (h : call.route = some r) {ix : Instruction} {ctx : Routed}
    (hplan : r.planAt C accounts ℓ = .ok (ix, ctx)) :
    ∃ cs, (execute C w accounts call ℓ).calls = (ID, ix) :: cs ∧ ∀ c ∈ cs, c.1 ≠ ID := by
  rw [execute_of_route h,
    calls_transact_relay_of_ok (fun ctx' m => (Call.after_frame h ctx' _ m).1) hplan]
  exact (foreign_of_planAt h hplan _).calls

/-- **A routed instruction changes no account of the dispatcher.** -/
theorem ownerFrame_execute_route (h : call.route = some r) :
    OwnerFrame ID ℓ (execute C w accounts call ℓ).ledger := by
  rw [execute_of_route h]
  refine transact_ledger_of_within (R := OwnerFrame ID) (OwnerFrame.refl ID)
    (ledger_relay (OwnerFrame.refl ID) ?_ fun ctx m => (Call.after_frame h ctx _ m).2)
  intro ix ctx m hplan
  exact (foreign_of_planAt h hplan m).ledger

end Execute

end Dispatcher
