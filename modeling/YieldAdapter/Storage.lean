/-
# What the dispatcher stores, and where it writes

Every account of the dispatcher is blank, or it holds the image of the registry or of
a record, with no byte too many.  An instruction changes what one account holds at most,
and only of one that was passed to it as writable, and it moves lamports only from a signer
to that account; a routed call changes none.
-/
import YieldAdapter.Lifecycle
import YieldAdapter.ToggleRequests
import YieldAdapter.Registration

open Solana

namespace Dispatcher

/-! ## The images -/

/-- What an account of the dispatcher may store. -/
inductive Stored : List UInt8 → Prop where
  | blank {data : List UInt8} (zeros : ∀ b ∈ data, b = 0) : Stored data
  | registry (r : Registry) : Stored (Registry.accountType.try_serialize r)
  | record (a : Adapter) : Stored (Adapter.accountType.try_serialize a)

/-- Every account of the dispatcher stores something that it may. -/
def Accounted (ℓ : Ledger) : Prop := ∀ k, (ℓ k).owner = ID → Stored (ℓ k).data

section Stored

variable {account : Account} {a : Adapter} {r : Registry}

/-- What holds a record is the image of that record. -/
theorem Stored.of_heldAdapter (h : Stored account.data) (hheld : heldAdapter account = some a) :
    account = ⟨account.lamports, ID, Adapter.accountType.try_serialize a⟩ := by
  obtain ⟨lamports, owner, data⟩ := account
  obtain ⟨rfl, -⟩ := Adapter.accountType.held_eq_some.mp hheld
  cases h with
  | blank zeros =>
      have hnone : heldAdapter ⟨lamports, ID, data⟩ = none :=
        Adapter.accountType.held_zeroed zeros
      exact absurd (hnone.symm.trans hheld) (by simp)
  | registry r =>
      have hregistry := heldRegistry_image lamports r
      exact absurd (hregistry.symm.trans (heldRegistry_of_heldAdapter hheld)) (by simp)
  | record a' =>
      obtain rfl := Option.some.inj ((heldAdapter_image lamports a').symm.trans hheld)
      rfl

end Stored

section Step

variable {C : Crypto} {ℓ ℓ' : Ledger}

/-- Other programs may only add blank accounts. -/
theorem Accounted.of_frame (h : Accounted ℓ) (hframe : OwnerFrame ID ℓ ℓ') : Accounted ℓ' := by
  intro k howner
  by_cases hk : (ℓ k).owner = ID
  · rw [(hframe.kept k hk).data]
    exact h k hk
  · exact .blank (hframe.zeroed k hk howner)

/-- Storing an image keeps the accounts in order. -/
theorem Accounted.update (h : Accounted ℓ) {k : Pubkey} {account : Account}
    (hstored : Stored account.data) : Accounted (Function.update ℓ k account) := by
  intro k' howner
  by_cases hk : k' = k
  · subst hk
    rw [Function.update_self]
    exact hstored
  · rw [Function.update_of_ne hk] at howner ⊢
    exact h k' howner

/-- So does creating one. -/
theorem Accounted.created (h : Accounted ℓ) {payer k owner : Pubkey} {data : List UInt8}
    (hstored : Stored data) : Accounted (System.created ℓ payer k owner data) := by
  intro k' howner
  by_cases hk : k' = k
  · subst hk
    rw [System.created_self]
    exact hstored
  · obtain ⟨howner', hdata⟩ := @System.created_holds_of_ne ℓ payer k k' owner data hk
    rw [hdata]
    exact h k' (howner'.symm.trans howner)

/-- **Every step keeps the accounts in order.** -/
theorem accounted_step (ℓ : Ledger) (action : Action) (h : Accounted ℓ) :
    Accounted (step C ℓ action) := by
  cases action with
  | other programs => exact h.of_frame (programs.frame ℓ)
  | call w accounts call =>
      by_cases hok : (execute C w accounts call ℓ).result = .ok ()
      · cases call with
        | registry_init =>
            obtain ⟨_, registry, _, bump, rfl, -, -, -, -, hledger⟩ := execute_registry_init hok
            rw [step, hledger]
            exact h.created (.registry _)
        | adapter_init args =>
            obtain ⟨_, adapter, _, _, _, _, bump, rfl, -, -, -, -, -, -, -, -, -, -, hledger⟩ :=
              execute_adapter_init hok
            rw [step, hledger]
            exact h.created (.record _)
        | toggle_adapter =>
            obtain ⟨s, rest, a, status, rfl, hdeclared, hs⟩ :=
              ToggleAdapter.execute_eq_ok_iff.mp hok
            -- there are no bytes behind the record, so none are left behind the new one
            have hdata := (h _ (Adapter.accountType.held_eq_some.mp hs.1).1).of_heldAdapter hs.1
            rw [step, ToggleAdapter.execute_of_togglable rest hdeclared hs, hdata]
            refine h.update ?_
            rw [List.drop_of_length_le (Adapter.accountType.length_try_serialize a).le,
              List.append_nil]
            exact .record _
        | deposit args => exact h.of_frame (ownerFrame_execute_route rfl)
        | withdraw args => exact h.of_frame (ownerFrame_execute_route rfl)
        | current_value => exact h.of_frame (ownerFrame_execute_route rfl)
      · rw [step, (execute_of_not_ok hok).1]
        exact h

theorem accounted_of_noData (h : NoData ℓ) : Accounted ℓ := fun k howner => .blank (h k howner)

/-- Every reachable ledger has its accounts in order. -/
theorem accounted_ledgerAfter {ℓ₀ : Ledger} (h₀ : NoData ℓ₀) (actions : List Action) :
    Accounted (ledgerAfter C ℓ₀ actions) :=
  Runs.invariant accounted_step (accounted_of_noData h₀) actions

end Step

/-- **What the dispatcher stores.**  In every reachable ledger an account of the dispatcher

1. is blank, and holds neither a registry nor a record; or
2. is the image of the registry, of 41 bytes, which names `INITIALIZER`; or
3. is the image of a record, of 114 bytes, which satisfies its invariant.

The image is all there is: what the account holds determines its bytes. -/
theorem stored_images {C : Crypto} {ℓ₀ : Ledger} (h₀ : NoData ℓ₀) (actions : List Action)
    (k : Pubkey) (howner : (ledgerAfter C ℓ₀ actions k).owner = ID) :
    let account := ledgerAfter C ℓ₀ actions k
    ((∀ b ∈ account.data, b = 0) ∧ heldRegistry account = none ∧ heldAdapter account = none) ∨
    (∃ r, heldRegistry account = some r ∧ heldAdapter account = none ∧
      account.data = Registry.accountType.try_serialize r ∧ account.data.length = 41 ∧
      r.initializer = INITIALIZER) ∨
    (∃ a, heldAdapter account = some a ∧ heldRegistry account = none ∧
      account.data = Adapter.accountType.try_serialize a ∧ account.data.length = 114 ∧
      a.invariant = .ok ()) := by
  intro account
  have hvalid : (view (ledgerAfter C ℓ₀ actions)).Valid C := valid_ledgerAfter h₀ actions
  have hstored : Stored account.data := accounted_ledgerAfter h₀ actions k howner
  have haccount : account = ⟨account.lamports, ID, account.data⟩ := by
    rw [← howner]
  generalize hdata : account.data = data at hstored haccount
  cases hstored with
  | blank zeros =>
      rw [haccount]
      exact .inl ⟨zeros, Registry.accountType.held_zeroed zeros,
        Adapter.accountType.held_zeroed zeros⟩
  | registry r =>
      have hheld : heldRegistry account = some r := by
        rw [haccount]
        exact heldRegistry_image _ r
      have hnone : heldAdapter account = none := by
        rw [Option.eq_none_iff_forall_ne_some]
        intro a ha
        exact absurd (hheld.symm.trans (heldRegistry_of_heldAdapter ha)) (by simp)
      exact .inr (.inl ⟨r, hheld, hnone, rfl, Registry.accountType.length_try_serialize r,
        (hvalid.registry k r hheld).1⟩)
  | record a =>
      have hheld : heldAdapter account = some a := by
        rw [haccount]
        exact heldAdapter_image _ a
      exact .inr (.inr ⟨a, hheld, heldRegistry_of_heldAdapter hheld, rfl,
        Adapter.accountType.length_try_serialize a, (hvalid.adapter k a hheld).1⟩)

/-- The Drift adapter's account is the image of its record. -/
theorem stored_images_driftAddress :
    (sampleLedger driftAddress).data.length = 114 := by
  have howner : (sampleLedger driftAddress).owner = ID := by
    decide +kernel
  rcases stored_images (C := sampleCrypto) noData_genesis [openRegistry, registerDrift 0]
    driftAddress howner with ⟨-, -, hnone⟩ | ⟨_, -, hnone, -⟩ | ⟨_, -, -, -, hlength, -⟩
  · exact absurd (hnone.symm.trans heldAdapter_sampleLedger) (by simp)
  · exact absurd (hnone.symm.trans heldAdapter_sampleLedger) (by simp)
  · exact hlength

/-! ## Where an instruction writes -/

section Footprint

variable {C : Crypto} {w : World} {accounts : List AccountMeta} {ℓ : Ledger}

/-- Between two ledgers, lamports have moved from `payer` to `k` at most. -/
structure Pays (ℓ ℓ' : Ledger) (payer k : Pubkey) : Prop where
  others : ∀ k', k' ≠ payer → k' ≠ k → (ℓ' k').lamports = (ℓ k').lamports
  paid : (ℓ' payer).lamports ≤ (ℓ payer).lamports
  total : (ℓ' payer).lamports + (ℓ' k).lamports = (ℓ payer).lamports + (ℓ k).lamports

/-- What an instruction that is not routed may change: what `k` holds, and the lamports of
`k` and of a payer. -/
structure WritesOne (accounts : List AccountMeta) (ℓ ℓ' : Ledger) (payer k : Pubkey) : Prop where
  others : ∀ k', k' ≠ k → (ℓ' k').owner = (ℓ k').owner ∧ (ℓ' k').data = (ℓ k').data
  written : ℓ' k ≠ ℓ k →
    (∃ passed ∈ accounts, passed.pubkey = k ∧ passed.is_writable = true) ∧
      ((ℓ k).Plain ∨ (ℓ k).owner = ID) ∧ (ℓ' k).owner = ID
  charged : ℓ' payer ≠ ℓ payer → payer ≠ k →
    ∃ passed ∈ accounts, passed.pubkey = payer ∧ passed.is_signer = true ∧
      passed.is_writable = true
  pays : Pays ℓ ℓ' payer k

/-- A failed instruction changes nothing. -/
theorem WritesOne.refl (accounts : List AccountMeta) (ℓ : Ledger) (k : Pubkey) :
    WritesOne accounts ℓ ℓ k k where
  others := fun _ _ => ⟨rfl, rfl⟩
  written := fun h => absurd rfl h
  charged := fun h => absurd rfl h
  pays := ⟨fun _ _ _ => rfl, le_rfl, rfl⟩

/-- Creating an account for which a signer pays. -/
theorem writesOne_created {payer passed : AccountMeta} {data : List UInt8}
    (hcreatable : System.Creatable ℓ payer.pubkey passed.pubkey data.length)
    (hpayer : payer ∈ accounts) (hsigner : payer.is_signer = true)
    (hmut : payer.is_writable = true) (hpassed : passed ∈ accounts)
    (hwritable : passed.is_writable = true) :
    WritesOne accounts ℓ (System.created ℓ payer.pubkey passed.pubkey ID data) payer.pubkey
      passed.pubkey where
  others := fun _ hk => System.created_holds_of_ne hk
  written := fun _ => by
    refine ⟨⟨passed, hpassed, rfl, hwritable⟩, .inl hcreatable.unused, ?_⟩
    rw [System.created_self]
  charged := fun _ _ => ⟨payer, hpayer, rfl, hsigner, hmut⟩
  pays := by
    refine ⟨?_, ?_, System.lamports_created hcreatable⟩
    · intro k' hne hk
      rw [System.created_of_ne hk hne]
    · rw [System.created_payer hcreatable.apart]
      exact Nat.sub_le _ _

/-- Storing other data in an account of the dispatcher. -/
theorem writesOne_update {passed : AccountMeta} {data : List UInt8}
    (howner : (ℓ passed.pubkey).owner = ID) (hpassed : passed ∈ accounts)
    (hwritable : passed.is_writable = true) :
    WritesOne accounts ℓ
      (Function.update ℓ passed.pubkey { ℓ passed.pubkey with data := data }) passed.pubkey
      passed.pubkey := by
  have hlamports : ∀ k', (Function.update ℓ passed.pubkey
      { ℓ passed.pubkey with data := data } k').lamports = (ℓ k').lamports := by
    intro k'
    by_cases hk : k' = passed.pubkey
    · rw [hk, Function.update_self]
    · rw [Function.update_of_ne hk]
  constructor
  · intro k' hk
    rw [Function.update_of_ne hk]
    exact ⟨rfl, rfl⟩
  · intro _
    refine ⟨⟨passed, hpassed, rfl, hwritable⟩, .inr howner, ?_⟩
    rw [Function.update_self]
    exact howner
  · exact fun _ h => absurd rfl h
  · exact ⟨fun k' _ _ => hlamports k', (hlamports _).le,
      congrArg₂ (· + ·) (hlamports _) (hlamports _)⟩

/-- **What an instruction writes.**  In any ledger, an instruction of the dispatcher

1. that is not routed changes the owner or the data of one account at most: one that was
   passed to it as writable, that nobody used or that was the dispatcher's own, and that is
   the dispatcher's afterwards; and it moves lamports to no other account than that, and
   from none but one that was passed as a writable signer, without gain or loss;
2. that is routed changes no account of the dispatcher, unless to send it lamports, and gives
   it none but blank ones. -/
theorem footprint (C : Crypto) (w : World) (accounts : List AccountMeta) (call : Call)
    (ℓ : Ledger) :
    (call.route = none →
      ∃ payer k, WritesOne accounts ℓ (execute C w accounts call ℓ).ledger payer k) ∧
    (call.route ≠ none → OwnerFrame ID ℓ (execute C w accounts call ℓ).ledger) := by
  constructor
  · intro hroute
    by_cases hok : (execute C w accounts call ℓ).result = .ok ()
    · cases call with
      | registry_init =>
          obtain ⟨s, rest, rfl, hdeclared, hkey, hvacant⟩ := RegistryInit.execute_eq_ok_iff.mp hok
          obtain ⟨bump, -, hledger, -⟩ := RegistryInit.ledger_of_ok hok
          rw [hledger, ← hkey]
          refine ⟨_, _, writesOne_created ?_ (by simp [RegistryInit.accounts]) hdeclared.signer
            hdeclared.payer (by simp [RegistryInit.accounts]) hdeclared.created⟩
          rw [Registry.accountType.length_try_serialize]
          exact hvacant.creatable
      | adapter_init args =>
          obtain ⟨s, rest, rfl, hdeclared, hs⟩ := AdapterInit.execute_eq_ok_iff.mp hok
          obtain ⟨bump, -, hledger, -⟩ := AdapterInit.ledger_of_ok hok
          rw [hledger]
          refine ⟨_, _, writesOne_created ?_ (by simp [AdapterInit.accounts]) hdeclared.signer
            hdeclared.payer (by simp [AdapterInit.accounts]) hdeclared.created⟩
          rw [Adapter.accountType.length_try_serialize]
          exact hs.creatable
      | toggle_adapter =>
          obtain ⟨s, rest, a, status, rfl, hdeclared, hs⟩ :=
            ToggleAdapter.execute_eq_ok_iff.mp hok
          rw [ToggleAdapter.execute_of_togglable rest hdeclared hs]
          exact ⟨_, _, writesOne_update (Adapter.accountType.held_eq_some.mp hs.1).1
            (by simp [ToggleAdapter.accounts]) hdeclared.written⟩
      | deposit args => exact absurd hroute (by simp [Call.route])
      | withdraw args => exact absurd hroute (by simp [Call.route])
      | current_value => exact absurd hroute (by simp [Call.route])
    · -- a failed instruction changes nothing
      rw [(execute_of_not_ok hok).1]
      exact ⟨ID, ID, .refl accounts ℓ ID⟩
  · intro hroute
    obtain ⟨r, hr⟩ := Option.ne_none_iff_exists'.mp hroute
    exact ownerFrame_execute_route hr

end Footprint

end Dispatcher
