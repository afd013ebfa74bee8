/-
# Whether adapters admit routed calls

The dispatcher puts the caller in front of the remaining accounts as a signer that
is read-only.  An adapter whose accounts struct declares the authority `mut` admits
this only when the runtime finds the caller's key, flagged writable, among the
remaining accounts as well.
-/
import YieldAdapter.DispatcherRun

open Solana

namespace Dispatcher

/-- The accounts pass the accounts struct of an adapter's entry point. -/
def Admissible (authority_mut : Bool) (accounts : List AccountInfo) : Prop :=
  ∃ ctx, Context.try_accounts authority_mut accounts = .ok ctx

/-- Whether the accounts struct that a routed call meets declares `mut`. -/
def declaresMut (A : AdapterProgram) : Call → Bool
  | .deposit _ => A.deposit.authority_mut
  | .withdraw _ => A.withdraw.authority_mut
  | _ => A.current_value_mut

/-- A caller in front that is a read-only signer is admitted where `mut` is not
declared, or where its key comes again as writable. -/
theorem admissible_new_readonly_iff {authority_mut : Bool} {ℓ : Ledger} {signer : Pubkey}
    {remaining : List AccountMeta} :
    Admissible authority_mut
        (cpiAccounts ℓ (AccountMeta.new_readonly signer true :: remaining)) ↔
      authority_mut = false ∨ ∃ a ∈ remaining, a.pubkey = signer ∧ a.is_writable = true := by
  have hwritable : (remaining.any fun b => b.pubkey = signer && b.is_writable) = true ↔
      ∃ a ∈ remaining, a.pubkey = signer ∧ a.is_writable = true := by
    simp only [List.any_eq_true, Bool.and_eq_true, decide_eq_true_eq]
  simp only [Admissible, Context.try_accounts_eq_ok, cpiAccounts_new_readonly]
  rw [← hwritable]
  constructor
  · rintro ⟨ctx, haccounts, -, hmut⟩
    obtain ⟨hauthority, -⟩ := List.cons.inj haccounts
    rw [← hauthority] at hmut
    cases authority_mut with
    | false => exact .inl rfl
    | true => exact .inr (hmut rfl)
  · intro h
    refine ⟨⟨_, _⟩, rfl, rfl, fun hdeclared => ?_⟩
    rcases h with hnone | hany
    · exact absurd (hnone.symm.trans hdeclared) (by simp)
    · exact hany

/-- The entry points whose accounts structs do not declare `mut`. -/
theorem declaresMut_eq_false_iff {X : ThirdParty} {A : Reference} {call : Call} {r : Route}
    (h : call.route = some r) :
    declaresMut (A.program X) call = false ↔
      call = .current_value ∧ (A = .kamino ∨ A = .jupiter) := by
  obtain ⟨args, rfl, rfl⟩ | ⟨args, rfl, rfl⟩ | ⟨rfl, rfl⟩ := Call.route_cases h
  · cases A <;> simp [declaresMut, Reference.program] <;> rfl
  · cases A <;> simp [declaresMut, Reference.program] <;> rfl
  · cases A <;> simp [declaresMut, Reference.program, KaminoAdapter.program,
      MarginfiAdapter.program, JupiterAdapter.program, MapleAdapter.program, DriftAdapter.program]

/-- **Which routed calls the reference adapters admit**: `current_value` of Kamino
and Jupiter always, and every other one exactly when the remaining accounts contain
the caller's own key, flagged writable. -/
theorem routed_accounts_admissible_iff {X : ThirdParty} {A : Reference} {C : Crypto}
    {call : Call} {r : Route} {accounts : List AccountMeta} {ℓ ℓ' : Ledger} {ix : Instruction}
    {ctx : Routed} (hroute : call.route = some r)
    (hplan : r.planAt C accounts ℓ = .ok (ix, ctx)) :
    Admissible (declaresMut (A.program X) call) (cpiAccounts ℓ' ix.accounts) ↔
      call = .current_value ∧ (A = .kamino ∨ A = .jupiter) ∨
        ∃ a ∈ accounts.drop 2, a.pubkey = ctx.signer.key ∧ a.is_writable = true := by
  obtain ⟨signer, adapter, remaining, rfl, -, -, -, -, -, hctx, rfl⟩ :=
    Route.planAt_eq_ok.mp hplan
  have hkey : ctx.signer.key = signer.pubkey := by
    rw [hctx]
    rfl
  rw [hkey, ← declaresMut_eq_false_iff (X := X) hroute]
  exact admissible_new_readonly_iff

/-- A deposit into Drift whose remaining accounts are those of the two programs is routed,
and the adapter's `mut` rejects the caller. -/
theorem routed_accounts_not_admissible :
    ∃ r ix ctx, Call.route (.deposit ⟨5, [0]⟩) = some r ∧
      r.planAt sampleCrypto (driftAccounts driftPrograms) sampleLedger = .ok (ix, ctx) ∧
      ¬ Admissible (declaresMut DriftAdapter.program (.deposit ⟨5, [0]⟩))
        (cpiAccounts sampleLedger ix.accounts) := by
  refine ⟨_, _, _, rfl, planAt_sampleLedger driftPrograms (by decide), ?_⟩
  rw [admissible_new_readonly_iff]
  decide

/-- `TokenkegQfeZyiNwAJbNbGKPFXCWuBvf9Ss623VQ5DA`. -/
def splTokenID : Pubkey :=
  ⟨[6, 221, 246, 225, 215, 101, 161, 147, 217, 203, 225, 70, 206, 235, 121, 172, 28, 180, 133, 237,
    95, 91, 55, 145, 58, 140, 245, 133, 126, 255, 0, 169], rfl⟩

/-- Decoders of third-party accounts, of which the calls below make no use. -/
def sampleThirdParty : ThirdParty :=
  ⟨⟨0, fun _ => false, fun _ => 0⟩,
    ⟨splTokenID, by decide, fun _ => .error .InvalidAccountData⟩⟩

/-- Listing the caller again, as writable, gets the same deposit admitted. -/
theorem routed_accounts_admissible_listed :
    Admissible (declaresMut (Reference.program sampleThirdParty .drift) (.deposit ⟨5, [0]⟩))
      (cpiAccounts sampleLedger (AccountMeta.new_readonly INITIALIZER true ::
        ⟨INITIALIZER, true, true⟩ :: driftPrograms)) :=
  (routed_accounts_admissible_iff (A := .drift) rfl
    (planAt_sampleLedger (⟨INITIALIZER, true, true⟩ :: driftPrograms) (by decide))).mpr
    (.inr ⟨⟨INITIALIZER, true, true⟩, by simp [driftAccounts], rfl, rfl⟩)

end Dispatcher
