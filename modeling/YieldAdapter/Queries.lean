/-
# Queries

A `current_value` through an adapter of the repository reads accounts and writes none: it
returns what the adapter reads, with one event and with no call but the dispatcher's, or
it fails, as it does when the adapter's account is not passed.  Such queries can be left
out of a run of the adapters side by side.
-/
import YieldAdapter.Movements

open Solana

namespace Dispatcher

/-- `v` is what the adapter reads off the accounts. -/
def RepositoryAdapter.Reads (X : ThirdParty) (accounts : List AccountInfo) (v : UInt64) :
    RepositoryAdapter → Prop
  | .mock => v = MockAdapter.MOCK_CURRENT_VALUE
  | .reference A => (A.program X).Reports accounts v

/-- The event with which the adapter reports `v`. -/
def RepositoryAdapter.valueEvent (X : ThirdParty) (authority : Pubkey) (v : UInt64) :
    RepositoryAdapter → Event
  | .mock => .MockCurrentValueCalled authority v
  | .reference A => .AdapterCurrentValueEvent authority (A.program X).PROGRAM_ID v

/-- Without a value, an adapter fails where it stands. -/
theorem AdapterProgram.adapter_current_value_of_not_reports {A : AdapterProgram}
    {infos : List AccountInfo} {e : Env YieldError Event} {m : Machine Event}
    (h : ∀ v, ¬ A.Reports infos v) :
    ∃ err, A.adapter_current_value infos e m = (.error err, m) := by
  rcases hctx : Context.try_accounts A.current_value_mut infos with err | context
  · exact ⟨err, A.adapter_current_value_of_refused hctx⟩
  · rcases hvalue : A.value context with err | v
    · exact ⟨err, A.adapter_current_value_of_error hctx hvalue⟩
    · exact absurd ⟨context, hctx, hvalue⟩ (h v)

/-! ## One query -/

section Query

variable {C : Crypto} {X : ThirdParty} (t : Int64) (outside : Outside)
  {accounts : List AccountMeta} {ℓ : Ledger} {ix : Instruction} {ctx : Routed}

/-- A query that the dispatcher passes on to a reference adapter. -/
theorem execute_query_reference {A : Reference}
    (hplan : CurrentValue.route.planAt C accounts ℓ = .ok (ix, ctx))
    (hpassed : (A.program X).ID ∈ accounts.map AccountMeta.pubkey)
    (hadapter : ix.program_id = (A.program X).ID) :
    (∃ v, (A.program X).Reports (cpiAccounts ℓ ix.accounts) v ∧
      execute C (fleet X t outside) accounts .current_value ℓ =
        ⟨.ok (), ℓ, [((A.program X).ID,
          .AdapterCurrentValueEvent ctx.signer.key (A.program X).PROGRAM_ID v)],
          (ID, Codec.u64.encode v), [(ID, ix)]⟩) ∨
    ((∀ v, ¬ (A.program X).Reports (cpiAccounts ℓ ix.accounts) v) ∧
      ∃ err, execute C (fleet X t outside) accounts .current_value ℓ =
        ⟨.error err, ℓ, [], (ID, []), [(ID, ix)]⟩) := by
  have hcall := env_call_current_value t (separate_reference X A) (outside.below X A) hplan hpassed
    hadapter
  rw [execute_fleet_eq_deployed Call.route_current_value hplan hadapter,
    execute_of_route Call.route_current_value]
  by_cases hreports : ∃ v, (A.program X).Reports (cpiAccounts ℓ ix.accounts) v
  · left
    obtain ⟨v, context, hcontext, hvalue⟩ := hreports
    refine ⟨v, ⟨context, hcontext, hvalue⟩, ?_⟩
    have hauthority : context.authority.key = ctx.signer.key := by
      obtain ⟨signer, _, _, -, -, -, -, -, -, hctx, hix⟩ := Route.planAt_eq_ok.mp hplan
      obtain ⟨haccounts, -⟩ := Context.try_accounts_eq_ok.mp hcontext
      rw [hix, cpiAccounts_new_readonly] at haccounts
      rw [← (List.cons.inj haccounts).1, hctx]
      rfl
    rw [AdapterProgram.adapter_current_value_of_ok hcontext hvalue, hauthority] at hcall
    -- the dispatcher writes back the eight bytes that it reads
    have hlength : 8 ≤ (Codec.u64.encode v).length := by rw [Codec.length_encode_u64]
    have hwhole : (Codec.u64.encode v).take 8 = Codec.u64.encode v :=
      List.take_of_length_le (by rw [Codec.length_encode_u64])
    obtain ⟨-, -, hafter⟩ := CurrentValue.after_apply ctx
      (env C (deployed t (separate_reference X A) (outside.below X A)) accounts)
      ((⟨ℓ, ((A.program X).ID, Codec.u64.encode v), [], [(ID, ix)]⟩ : Machine Event).emit
        (A.program X).ID
        (.AdapterCurrentValueEvent ctx.signer.key (A.program X).PROGRAM_ID v))
    rw [transact_relay_of_call_ok hplan hcall (hafter hlength)]
    show (⟨_, _, _, (ID, (Codec.u64.encode v).take 8), _⟩ : Outcome YieldError Event) = _
    rw [hwhole]
    rfl
  · right
    have hnone : ∀ v, ¬ (A.program X).Reports (cpiAccounts ℓ ix.accounts) v :=
      fun v hv => hreports ⟨v, hv⟩
    obtain ⟨err, herr⟩ := AdapterProgram.adapter_current_value_of_not_reports
      (e := ⟨(A.program X).ID, t, (outside.below X A).callFrom ix⟩)
      (m := ⟨ℓ, ((A.program X).ID, []), [], [(ID, ix)]⟩) hnone
    refine ⟨hnone, err, ?_⟩
    exact transact_relay_of_call_error hplan (hcall.trans herr)

/-- **A query that the dispatcher passes on** is answered with the value that the adapter
reads, or fails because there is none. -/
theorem execute_query {A : RepositoryAdapter}
    (hplan : CurrentValue.route.planAt C accounts ℓ = .ok (ix, ctx))
    (hpassed : A.ID ∈ accounts.map AccountMeta.pubkey) (hadapter : ix.program_id = A.ID) :
    (∃ v, A.Reads X (cpiAccounts ℓ ix.accounts) v ∧
      execute C (fleet X t outside) accounts .current_value ℓ =
        ⟨.ok (), ℓ, [(A.ID, A.valueEvent X ctx.signer.key v)], (ID, Codec.u64.encode v),
          [(ID, ix)]⟩) ∨
    ((∀ v, ¬ A.Reads X (cpiAccounts ℓ ix.accounts) v) ∧
      ∃ err, execute C (fleet X t outside) accounts .current_value ℓ =
        ⟨.error err, ℓ, [], (ID, []), [(ID, ix)]⟩) := by
  cases A with
  | mock => exact .inl ⟨_, rfl, execute_fleet_mock_current_value hplan hpassed hadapter⟩
  | reference A =>
      have hID := RepositoryAdapter.ID_reference X A
      have hanswer := execute_query_reference t outside hplan (hID ▸ hpassed)
        (hadapter.trans hID.symm)
      rw [hID] at hanswer
      exact hanswer

end Query

/-! ## Runs with queries -/

/-- The action is a `current_value` by the record of an adapter of the repository. -/
def IsQuery (ℓ : Ledger) : Action → Bool
  | .call _ (_ :: adapter :: _) .current_value =>
      (heldAdapter (ℓ adapter.pubkey)).any fun a => ofAdapter a.program_id
  | _ => false

section Runs

variable {C : Crypto} {X : ThirdParty} {ℓ : Ledger}

/-- A query does nothing, and the dispatcher says nothing of it. -/
theorem step_of_isQuery {t : Int64} {outside : Outside} {accounts : List AccountMeta} {call : Call}
    (h : IsQuery ℓ (.call (fleet X t outside) accounts call) = true) :
    step C ℓ (.call (fleet X t outside) accounts call) = ℓ ∧
      emitted C ℓ (.call (fleet X t outside) accounts call) = [] := by
  rcases accounts with _ | ⟨signer, _ | ⟨adapter, remaining⟩⟩
  · exact absurd h (by simp [IsQuery])
  · exact absurd h (by simp [IsQuery])
  · cases call with
    | current_value =>
        obtain ⟨a, hheld, hadapter⟩ := (Option.any_eq_true _ _).mp h
        obtain ⟨A, hA⟩ := ofAdapter_eq_true.mp hadapter
        rw [step, emitted]
        rcases hplan : CurrentValue.route.planAt C (signer :: adapter :: remaining) ℓ with
          e | ⟨ix, ctx⟩
        · rw [execute_route_of_error Call.route_current_value hplan]
          exact ⟨rfl, rfl⟩
        · obtain ⟨-, -, hprogram⟩ := plan_of_held hheld hplan
          have hcallee : ix.program_id = A.ID := hprogram.trans hA.symm
          by_cases hpassed : A.ID ∈ (signer :: adapter :: remaining).map AccountMeta.pubkey
          · rcases execute_query t outside hplan hpassed hcallee with
              ⟨v, -, hout⟩ | ⟨-, err, hout⟩
            · rw [hout]
              refine ⟨rfl, ?_⟩
              show eventsOf ID [(A.ID, _)] = []
              rw [eventsOf, List.filter_cons_of_neg (by simpa using A.ID_ne)]
              rfl
            · rw [hout]
              exact ⟨rfl, rfl⟩
          · rw [execute_route_unlisted Call.route_current_value hplan
              (by rw [hcallee]; exact hpassed)]
            exact ⟨rfl, rfl⟩
    | _ => exact absurd h (by simp [IsQuery])

/-- **Queries are read-only.**  In every run of the adapters side by side,

1. the queries can be left out: the ledger after the run is the same, and so is all that
   the dispatcher has reported;
2. at the end of the run a query for the record of an adapter meets the refusals of the
   table, and then that of the runtime if the adapter's account is not passed.  Otherwise it
   succeeds exactly when the adapter reads a value off the accounts that it is passed.  It
   returns that value, reported once by the adapter, and makes no call but the
   dispatcher's. -/
theorem queries_read_only {ℓ₀ : Ledger} (h₀ : NoData ℓ₀) (actions : List Action)
    (hfleet : ∀ w accounts call, Action.call w accounts call ∈ actions →
      ∃ t outside, w = fleet X t outside) :
    (ledgerAfter C ℓ₀ (Runs.unmarked (step C) IsQuery ℓ₀ actions) = ledgerAfter C ℓ₀ actions ∧
      Runs.log (step C) (emitted C) ℓ₀ (Runs.unmarked (step C) IsQuery ℓ₀ actions) =
        Runs.log (step C) (emitted C) ℓ₀ actions) ∧
    ∀ (t : Int64) (outside : Outside) (signer adapter : AccountMeta)
      (remaining : List AccountMeta) (a : Adapter) (A : RepositoryAdapter),
      let ℓ := ledgerAfter C ℓ₀ actions
      let accounts := signer :: adapter :: remaining
      let ix : Instruction := ⟨A.ID, AccountMeta.new_readonly signer.pubkey true :: remaining,
        ADAPTER_CURRENT_VALUE_DISCRIMINATOR⟩
      let out := execute C (fleet X t outside) accounts .current_value ℓ
      heldAdapter (ℓ adapter.pubkey) = some a → a.program_id = A.ID →
      match Call.refusal .current_value ℓ accounts with
      | some e => out = ⟨.error e, ℓ, [], (ID, []), []⟩
      | none =>
          (A.ID ∉ accounts.map AccountMeta.pubkey →
            out = ⟨.error .missingAccount, ℓ, [], (ID, []), [(ID, ix)]⟩) ∧
          (A.ID ∈ accounts.map AccountMeta.pubkey →
            (∃ v, A.Reads X (cpiAccounts ℓ ix.accounts) v ∧
              out = ⟨.ok (), ℓ, [(A.ID, A.valueEvent X signer.pubkey v)],
                (ID, Codec.u64.encode v), [(ID, ix)]⟩) ∨
            ((∀ v, ¬ A.Reads X (cpiAccounts ℓ ix.accounts) v) ∧
              ∃ e, out = ⟨.error e, ℓ, [], (ID, []), [(ID, ix)]⟩)) := by
  constructor
  · have hidle : ∀ ℓ', ∀ action ∈ actions, IsQuery ℓ' action = true →
        step C ℓ' action = ℓ' ∧ emitted C ℓ' action = [] := by
      intro ℓ' action hmem hquery
      cases action with
      | call w accounts call =>
          obtain ⟨t, outside, rfl⟩ := hfleet w accounts call hmem
          exact step_of_isQuery hquery
      | other programs => exact absurd hquery (by simp [IsQuery])
    constructor
    · exact Runs.run_unmarked (fun ℓ' action hmem h => (hidle ℓ' action hmem h).1) ℓ₀
    · exact Runs.log_unmarked hidle ℓ₀
  · intro t outside signer adapter remaining a A ℓ accounts ix out hheld hadapter
    have hcall := execute_of_held (w := fleet X t outside) (valid_ledgerAfter h₀ actions)
      (accounted_ledgerAfter h₀ actions) Call.route_current_value signer remaining hheld hadapter
    rcases hrefusal : Call.refusal .current_value ℓ accounts with _ | e
    · rw [hrefusal] at hcall
      obtain ⟨_, ctx, hplan, rfl, hsigner, -, hunlisted⟩ := hcall
      refine ⟨hunlisted, fun hpassed => ?_⟩
      have hanswer := execute_query (X := X) t outside hplan hpassed rfl
      rw [hsigner] at hanswer
      exact hanswer
    · rw [hrefusal] at hcall
      exact hcall

/-- A run in which the mock adapter is asked for its value. -/
def queriedActions : List Action :=
  let w := fleet sampleThirdParty 1700000000 quietOutside
  [.call w [⟨INITIALIZER, true, true⟩, ⟨registryAddress, false, true⟩, ⟨System.ID, false, false⟩]
      .registry_init,
    .call w [⟨INITIALIZER, true, true⟩, ⟨mockAddress, false, true⟩,
      ⟨registryAddress, false, false⟩, ⟨System.ID, false, false⟩]
      (.adapter_init ⟨INITIALIZER, MockAdapter.ID, USDC, 0⟩),
    .call w [⟨INITIALIZER, true, true⟩, ⟨mockAddress, false, false⟩, ⟨MockAdapter.ID, false, false⟩]
      .current_value]

/-- One of the three actions can be left out. -/
theorem queries_read_only_mock :
    (Runs.unmarked (step mockCrypto) IsQuery genesis queriedActions).length = 2 ∧
      ledgerAfter mockCrypto genesis
        (Runs.unmarked (step mockCrypto) IsQuery genesis queriedActions) =
        ledgerAfter mockCrypto genesis queriedActions := by
  have hfleet : ∀ w accounts call, Action.call w accounts call ∈ queriedActions →
      ∃ t outside, w = fleet sampleThirdParty t outside := by
    intro w accounts call hmem
    refine ⟨1700000000, quietOutside, ?_⟩
    rcases List.mem_cons.mp hmem with h | h
    · exact (Action.call.inj h).1
    · rcases List.mem_pair.mp h with h | h
      · exact (Action.call.inj h).1
      · exact (Action.call.inj h).1
  obtain ⟨⟨hledger, -⟩, -⟩ :=
    queries_read_only (C := mockCrypto) noData_genesis queriedActions hfleet
  exact ⟨by decide +kernel, hledger⟩

end Runs

end Dispatcher
