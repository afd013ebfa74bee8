/-
# Forwarding of accounts

The accounts behind the record of a routed deposit or withdrawal arrive at the
protocol as they were given to the dispatcher: the caller that the dispatcher puts
in front of them is consumed by the adapter, and being read-only it adds no
privilege to theirs.
-/
import YieldAdapter.Deployment

open Solana

namespace Dispatcher

variable {accounts : List AccountMeta} {ℓ : Ledger}

/-- A caller put in front, read-only, leaves the flags of an agreeing list alone, when
it is a signer there as well. -/
theorem drop_mergeFlags_new_readonly {signer : AccountMeta} {remaining : List AccountMeta}
    (hsigner : signer.is_signer = true) (hagree : FlagsAgree (signer :: remaining)) :
    (mergeFlags (AccountMeta.new_readonly signer.pubkey true :: remaining)).drop 1 =
      remaining := by
  have hremaining : FlagsAgree remaining := fun a ha b hb =>
    hagree a (List.mem_cons_of_mem _ ha) b (List.mem_cons_of_mem _ hb)
  show (mergeFlags ([AccountMeta.new_readonly signer.pubkey true] ++ remaining)).drop
    [AccountMeta.new_readonly signer.pubkey true].length = remaining
  refine mergeFlags_append_of_within hremaining ?_
  intro a ha b hb hkey
  -- the only account in front is the caller, which signs wherever it is listed
  obtain rfl := List.mem_singleton.mp ha
  have hsame : signer = b :=
    hagree signer List.mem_cons_self b (List.mem_cons_of_mem _ hb) hkey
  refine ⟨hkey, fun _ => ?_, fun hwritable => absurd hwritable (by simp [AccountMeta.new_readonly])⟩
  rw [← hsame]
  exact hsigner

/-- **Account forwarding.**  Every instruction that the adapter calls on behalf of a
routed deposit or withdrawal goes to its protocol, with exactly the remaining accounts
of the dispatcher's instruction. -/
theorem account_forwarding {X : ThirdParty} {A : Reference} {C : Crypto} {t : Int64}
    {below : Below (A.program X)} {d : Direction} {amount : UInt64} {extra_data : List UInt8}
    (hagree : FlagsAgree accounts) {c : Pubkey × Instruction}
    (hc : c ∈ (execute C (deployed t (separate_reference X A) below) accounts
      (d.call amount extra_data) ℓ).calls) (hcaller : c.1 = (A.program X).ID) :
    c.2.program_id = (A.program X).PROGRAM_ID ∧ c.2.accounts = accounts.drop 2 := by
  obtain ⟨ix, ctx, report, hplan, -, -, hbelow⟩ := calls_deployed hc hcaller
  obtain ⟨_, _, _, payload, -, -, -, hix', -⟩ := planBelow_eq_ok hplan hbelow
  obtain ⟨signer, adapter, remaining, rfl, hsigner, -, -, -, -, -, hix⟩ :=
    Route.planAt_eq_ok.mp hplan
  refine ⟨by rw [hix'], ?_⟩
  rw [hix', hix]
  refine drop_mergeFlags_new_readonly hsigner fun a ha b hb => ?_
  have hsub : signer :: remaining ⊆ signer :: adapter :: remaining :=
    List.cons_subset_cons _ (List.subset_cons_self _ _)
  exact hagree a (hsub ha) b (hsub hb)

/-- A deposit into Drift whose accounts contain the caller and a duplicate. -/
theorem account_forwarding_drift :
    let remaining : List AccountMeta :=
      [⟨INITIALIZER, true, true⟩, ⟨USDC, false, true⟩, ⟨driftAddress, false, false⟩,
        ⟨USDC, false, true⟩] ++ driftPrograms
    let out := execute sampleCrypto
      (deployed 1700000000 (separate_reference sampleThirdParty .drift) (quietBelow _))
      (driftAccounts remaining) (Direction.deposit.call 5 [0, 1, 0]) sampleLedger
    ∃ c ∈ out.calls, c.1 = DriftAdapter.ID ∧ c.2.accounts = remaining := by
  intro remaining out
  have hc : (DriftAdapter.ID, ⟨DriftAdapter.PROGRAM_ID, remaining,
      DriftAdapter.DEPOSIT ++ [1, 0] ++ Codec.u64.encode 5⟩) ∈ out.calls := by
    decide +kernel
  exact ⟨_, hc, rfl, (account_forwarding (X := sampleThirdParty) (A := .drift) (d := .deposit)
    (by decide) hc rfl).2⟩

end Dispatcher
