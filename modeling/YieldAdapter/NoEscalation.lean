/-
# No privilege is made up

The dispatcher and the adapters pass on accounts that they were given.  No call of theirs
to an adapter or to a protocol asks for an account, a signature or a right to write that
the instruction they are carrying out does not give, so the runtime's check of privileges
never stops these calls, and the model carries them out without it.  What the runtime asks
besides, that the callee is among the accounts, is in the model, and so is the check of
privileges where `init` calls the System program, which it can stop.
-/
import YieldAdapter.Fleet
import YieldAdapter.Privileges

open Solana

namespace Dispatcher

/-! ## The plans -/

section Plans

variable {C : Crypto} {r : Route} {accounts : List AccountMeta} {ℓ : Ledger} {ix : Instruction}

/-- The dispatcher passes on its caller, as a read-only signer, and the accounts behind the
record. -/
theorem permitted_of_planAt {ctx : Routed} (hplan : r.planAt C accounts ℓ = .ok (ix, ctx)) :
    Permitted accounts ix.accounts := by
  obtain ⟨signer, adapter, remaining, rfl, hsigner, -, -, -, -, -, rfl⟩ :=
    Route.planAt_eq_ok.mp hplan
  have hremaining : remaining ⊆ signer :: adapter :: remaining :=
    List.subset_cons_of_subset _ (List.subset_cons_self _ _)
  exact .cons (.new_readonly List.mem_cons_self hsigner) (.of_subset hremaining)

/-- A flow of an adapter passes on the accounts behind its caller. -/
theorem permitted_of_plan {f : AdapterFlow} {PROGRAM_ID : Pubkey} {amount : UInt64}
    {extra_data : List UInt8} {report : Report} {given : List AccountMeta}
    (hplan : f.plan PROGRAM_ID (cpiAccounts ℓ given) amount extra_data = .ok (ix, report)) :
    Permitted given ix.accounts := by
  obtain ⟨ctx, _, _, _, hctx, -, -, -, rfl, -⟩ := AdapterFlow.plan_eq_ok.mp hplan
  obtain ⟨haccounts, -, -⟩ := Context.try_accounts_eq_ok.mp hctx
  have hmerged : mergeFlags given = ctx.authority.toMeta ::
      ctx.remaining_accounts.map AccountInfo.toMeta := by
    rw [← map_toMeta_load ℓ (mergeFlags given), ← cpiAccounts, haccounts, List.map_cons]
  refine Permitted.trans (.mergeFlags given) (.of_subset ?_)
  rw [hmerged]
  exact List.subset_cons_self _ _

end Plans

/-! ## The programs -/

section Programs

variable {C : Crypto} {refusal : Error} {given : List AccountMeta} {e : Env YieldError Event}

/-- Having an account created depends on the accounts alone. -/
theorem sameIn_init {α : Type} {T : AccountType α} {owner : Pubkey} {payer info : AccountInfo} :
    Exec.SameIn e (e.guarded refusal given) (Anchor.init T owner payer info : Prog Unit) := by
  have htopUp : ∀ required, Exec.SameIn e (e.guarded refusal given)
      (Anchor.topUp required payer info : Prog Unit) := by
    intro required
    unfold Anchor.topUp
    split
    · rfl
    · rfl
  refine .bind ?_ fun _ => .lift _
  refine .bind rfl fun current => ?_
  split
  · rfl
  · exact .bind (.lift _) fun _ => .bind rfl fun _ => .bind (htopUp _) fun _ => rfl

/-- Administrative instructions call neither adapters nor protocols. -/
theorem sameIn_setup {call : Call} {accounts : List AccountInfo} (h : call.route = none) :
    Exec.SameIn e (e.guarded refusal given) (call.run C accounts) := by
  cases call with
  | registry_init =>
      exact .bind (.lift _) fun (initializer, accounts) => .bind (.lift _) fun _ =>
        .bind (.lift _) fun (registry, accounts) => .bind (.lift _) fun (system_program, _) =>
        .bind (.lift _) fun _ => .bind (.lift _) fun bump => .bind sameIn_init fun _ => rfl
  | adapter_init args =>
      exact .bind (.lift _) fun (initializer, accounts) => .bind (.lift _) fun _ =>
        .bind (.lift _) fun (adapter, accounts) => .bind (.lift _) fun (registry_info, accounts) =>
        .bind (.lift _) fun registry => .bind (.lift _) fun (system_program, _) =>
        .bind (.lift _) fun _ => .bind (.lift _) fun bump => .bind sameIn_init fun _ => rfl
  | toggle_adapter => rfl
  | deposit args => exact absurd h (by simp [Call.route])
  | withdraw args => exact absurd h (by simp [Call.route])
  | current_value => exact absurd h (by simp [Call.route])

/-- A call that is permitted is carried out. -/
theorem call_guarded {ix : Instruction} (h : Permitted given ix.accounts) (m : Machine Event) :
    e.call ix m = (e.guarded refusal given).call ix m := (if_pos h).symm

/-- **The dispatcher runs as if nobody looked.** -/
theorem sameIn_call {call : Call} {ℓ : Ledger} :
    Exec.SameIn e (e.guarded refusal given) (call.run C (given.map (AccountInfo.load ℓ))) := by
  rcases hroute : call.route with _ | r
  · exact sameIn_setup hroute
  · rw [Call.run_of_route hroute]
    refine .relay rfl (fun ix ctx hplan => call_guarded ?_) fun ctx => ?_
    · exact permitted_of_planAt (C := C) (ℓ := ℓ) hplan
    · exact Call.sameIn_after hroute ctx rfl

/-- **So do the adapters**, wherever calls that are permitted are carried out alike. -/
theorem sameIn_entry {X : ThirdParty} {A : RepositoryAdapter} {ℓ : Ledger} {data : List UInt8}
    {call : Instruction → Machine Event → Except Error Unit × Machine Event}
    (hcall : ∀ ix, Permitted given ix.accounts → ∀ m, e.call ix m = call ix m) :
    Exec.SameIn e { e with call := call } (adapterEntry (A.run X) (cpiAccounts ℓ given) data) := by
  refine .bind (.lift _) fun received => ?_
  cases A with
  | mock => rcases received with ⟨args | args | _, rest⟩ <;> rfl
  | reference A =>
      rcases received with ⟨args | args | _, rest⟩
      · show Exec.SameIn e _ ((A.program X).adapter_deposit _ args)
        rw [AdapterProgram.adapter_deposit]
        apply Exec.SameIn.relay
        · rfl
        · exact fun ix report hplan => hcall ix (permitted_of_plan hplan)
        · exact fun report => rfl
      · show Exec.SameIn e _ ((A.program X).adapter_withdraw _ args)
        rw [AdapterProgram.adapter_withdraw]
        apply Exec.SameIn.relay
        · rfl
        · exact fun ix report hplan => hcall ix (permitted_of_plan hplan)
        · exact fun report => rfl
      · rfl

end Programs

/-! ## The two hops -/

/-- **No privilege is made up.**  Whatever the accounts, the ledger and the programs below,

1. an instruction of the dispatcher does the same whether or not the runtime checks that
   its calls ask for no more than it was given, and whatever that check fails with;
2. so does every entry point of every adapter;
3. over both hops, whatever a deposit or withdrawal makes the dispatcher or the adapter
   call, that call asks for no account, signature or right to write that the dispatcher's
   instruction does not give. -/
theorem no_escalation (C : Crypto) (X : ThirdParty) (refusal : Error) :
    (∀ w accounts (call : Call) ℓ,
      transact (call.run C (accounts.map (AccountInfo.load ℓ)))
        ((env C w accounts).guarded refusal accounts) ℓ = execute C w accounts call ℓ) ∧
    (∀ (A : RepositoryAdapter) t calls (ix : Instruction) m,
      enter (adapterEntry (A.run X)) t (guardedCall refusal ix.accounts calls) ix m =
        enter (adapterEntry (A.run X)) t calls ix m) ∧
    (∀ (A : Reference) t (below : Below (A.program X)) (d : Direction) amount extra_data accounts ℓ,
      ∀ c ∈ (execute C (deployed t (separate_reference X A) below) accounts
        (d.call amount extra_data) ℓ).calls, c.1 = ID ∨ c.1 = (A.program X).ID →
        Permitted accounts c.2.accounts) := by
  refine ⟨?_, ?_, ?_⟩
  · intro w accounts call ℓ
    exact (sameIn_call.transact_eq rfl ℓ).symm
  · intro A t calls ix m
    -- whether the callee is among the accounts is asked either way
    refine (congrFun (sameIn_entry (e := ⟨ix.program_id, t,
      findCallee (ix.accounts.map AccountMeta.pubkey) calls⟩) fun ix' hpermitted m' => ?_) _).symm
    exact findCallee_congr (if_pos hpermitted).symm
  · intro A t below d amount extra_data accounts ℓ c hc hcaller
    rcases hplan : (d.route amount extra_data).planAt C accounts ℓ with err | ⟨ix, ctx⟩
    · rw [execute_route_of_error d.route_call hplan] at hc
      exact absurd hc (by simp)
    · rcases hcaller with hcaller | hcaller
      · obtain ⟨cs, hcalls, hforeign⟩ := calls_execute_route
          (w := deployed t (separate_reference X A) below) d.route_call hplan
        rw [hcalls] at hc
        rcases List.mem_cons.mp hc with rfl | hc
        · exact permitted_of_planAt hplan
        · exact absurd hcaller (hforeign c hc)
      · obtain ⟨ix', ctx', report, hplan', -, -, hbelow⟩ := calls_deployed hc hcaller
        exact (permitted_of_planAt hplan').trans (permitted_of_plan hbelow)

end Dispatcher
