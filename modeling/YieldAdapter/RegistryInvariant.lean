/-
# The registry invariant

What holds of the dispatcher's accounts in every reachable ledger: the table
behind it is valid, records persist, and routed calls change nothing.  The facts
about the table are read off `Table.Valid` and `Table.Persists`.
-/
import YieldAdapter.DispatcherRun

open Solana

namespace Dispatcher

variable {C : Crypto} {ℓ₀ : Ledger}

/-- **The registry invariant.**  In every reachable ledger

1. there is at most one registry, it lies at its address and names `INITIALIZER`;
2. every record satisfies its invariant and lies at the address derived from its
   program, authority and bump, and no two share program and authority;
3. no record lies at the registry's address;
4. a record stays, and its entry never changes, whatever happens later;
5. routed calls change neither the registry nor any record. -/
theorem registry_invariant (h₀ : NoData ℓ₀) (actions : List Action) :
    let ℓ := ledgerAfter C ℓ₀ actions
    ((∀ k r, heldRegistry (ℓ k) = some r → r.initializer = INITIALIZER ∧
        find_program_address C Registry.seeds ID = some (k, r.bump)) ∧
      (∀ k k' r r', heldRegistry (ℓ k) = some r → heldRegistry (ℓ k') = some r' → k = k')) ∧
    ((∀ k a, heldAdapter (ℓ k) = some a → a.invariant = .ok () ∧
        create_program_address C (Adapter.seeds a.program_id a.authority ++ [[a.bump]]) ID =
          some k) ∧
      (∀ k k' a a', heldAdapter (ℓ k) = some a → heldAdapter (ℓ k') = some a' →
        a.program_id = a'.program_id → a.authority = a'.authority → k = k')) ∧
    (∀ k a k₀ bump, heldAdapter (ℓ k) = some a →
      find_program_address C Registry.seeds ID = some (k₀, bump) → k ≠ k₀) ∧
    (∀ later k a, heldAdapter (ℓ k) = some a →
      ∃ a', heldAdapter (ledgerAfter C ℓ later k) = some a' ∧ a.SameEntry a') ∧
    (∀ w accounts call r, Call.route call = some r → ∀ k,
      heldRegistry ((execute C w accounts call ℓ).ledger k) = heldRegistry (ℓ k) ∧
      heldAdapter ((execute C w accounts call ℓ).ledger k) = heldAdapter (ℓ k)) := by
  intro ℓ
  have hvalid : (view ℓ).Valid C := valid_ledgerAfter h₀ actions
  refine ⟨⟨hvalid.registry, ?_⟩, ⟨?_, ?_⟩, ?_, ?_, ?_⟩
  · intro k k' r r' h h'
    exact (hvalid.registry_unique h h').1
  · intro k a h
    obtain ⟨hinv, hfind⟩ := hvalid.adapter k a h
    exact ⟨hinv, create_of_find C hfind⟩
  · intro k k' a a' h h'
    exact hvalid.adapter_unique h h'
  · intro k a k₀ bump h hfind
    exact hvalid.adapter_ne_registry h hfind
  · intro later k a h
    exact persists_ledgerAfter ℓ later k a h
  · intro w accounts call r hroute k
    have hview : view (execute C w accounts call ℓ).ledger = view ℓ :=
      view_of_frame (ownerFrame_execute_route hroute)
    exact ⟨congrFun (congrArg Table.registry hview) k, congrFun (congrArg Table.adapter hview) k⟩

/-- After the setup the Drift adapter's record is well formed, lies at the address
of its seeds, and is not the registry. -/
theorem registry_invariant_registerDrift :
    heldAdapter (sampleLedger driftAddress) = some (driftRecord 0) ∧
      (driftRecord 0).invariant = .ok () ∧
      create_program_address sampleCrypto (Adapter.seeds DriftAdapter.ID INITIALIZER ++ [[255]])
        ID = some driftAddress ∧
      driftAddress ≠ registryAddress := by
  have hheld : heldAdapter (sampleLedger driftAddress) = some (driftRecord 0) := by
    decide +kernel
  have hfind : find_program_address sampleCrypto Registry.seeds ID =
      some (registryAddress, 255) := by decide +kernel
  obtain ⟨-, ⟨hrecord, -⟩, hapart, -, -⟩ :=
    registry_invariant noData_genesis [openRegistry, registerDrift 0]
  obtain ⟨hinv, haddress⟩ := hrecord driftAddress (driftRecord 0) hheld
  exact ⟨hheld, hinv, haddress, hapart driftAddress (driftRecord 0) registryAddress 255 hheld hfind⟩

end Dispatcher
