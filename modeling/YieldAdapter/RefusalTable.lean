/-
# Why a routed call is refused

In every reachable ledger the outcome of the checks of `deposit`, `withdraw` and
`current_value` is a function of what the accounts hold: `Call.refusal` is the table of
refusals, in the order in which the checks are made.  The checks that a record in a
reachable ledger cannot fail (its address, its status byte, the rest of its fields) do
not occur in it.
-/
import YieldAdapter.Storage
import YieldAdapter.RoutingGate

open Solana

namespace Dispatcher

/-! ## The table -/

/-- Why the account passed as the adapter is refused, if it is. -/
def Call.refusalOf (call : Call) (signer : AccountMeta) (account : Account) : Option Error :=
  if account.owner = System.ID ∧ account.lamports = 0 then some (.anchor .AccountNotInitialized)
  else if account.owner ≠ ID then some (.anchor .AccountOwnedByWrongProgram)
  else
    match heldAdapter account with
    | none =>
        if account.data.length < 8 then some (.anchor .AccountDiscriminatorNotFound)
        else some (.anchor .AccountDiscriminatorMismatch)
    | some a =>
        if signer.is_writable = false then some (.anchor .ConstraintMut)
        else if a.status ≠ AdapterStatus.Active.as_u8 then some (dispatcherError .Inactive)
        else if EXTRA_DATA_MAX_LEN < (call.extra_data.getD []).length then
          some (dispatcherError .Overflow)
        else none

/-- Why a routed call is refused, if it is. -/
def Call.refusal (call : Call) (ℓ : Ledger) : List AccountMeta → Option Error
  | [] => some (.anchor .AccountNotEnoughKeys)
  | [signer] =>
      some (.anchor (if signer.is_signer = false then .AccountNotSigner else .AccountNotEnoughKeys))
  | signer :: adapter :: _ =>
      if signer.is_signer = false then some (.anchor .AccountNotSigner)
      else call.refusalOf signer (ℓ adapter.pubkey)

/-! ## The checks -/

section Checks

variable {C : Crypto} {ℓ : Ledger} {i : AccountMeta} {call : Call} {r : Route} {a : Adapter}

/-- A dispatcher's account without a record fails at the discriminator. -/
theorem try_deserialize_of_stored {lamports : ℕ} {data : List UInt8} (hstored : Stored data)
    (hnone : heldAdapter ⟨lamports, ID, data⟩ = none) :
    (Adapter.accountType.try_deserialize data : Except Error Adapter) =
      .error (.anchor (if data.length < 8 then .AccountDiscriminatorNotFound
        else .AccountDiscriminatorMismatch)) := by
  have hmismatch : 8 ≤ data.length → data.take 8 ≠ Adapter.accountType.discriminator := by
    intro hlength htake
    cases hstored with
    | blank zeros =>
        -- the discriminator is not all zeros
        obtain ⟨b, hb, hne⟩ := Adapter.accountType.discriminator_nonzero
        rw [← htake] at hb
        exact hne (zeros b (List.mem_of_mem_take hb))
    | registry r =>
        rw [AccountType.try_serialize,
          List.take_left' Registry.accountType.length_discriminator] at htake
        exact discriminators_ne htake.symm
    | record a =>
        have hsome := heldAdapter_image lamports a
        exact absurd (hnone.symm.trans hsome) (by simp)
  rw [AccountType.try_deserialize]
  by_cases hshort : data.length < 8
  · rw [if_pos hshort, if_pos hshort]
  · rw [if_neg hshort, if_neg hshort, if_pos (hmismatch (by omega))]

/-- An account that nobody has created. -/
theorem account_of_not_initialized
    (h : (ℓ i.pubkey).owner = System.ID ∧ (ℓ i.pubkey).lamports = 0) :
    (Anchor.account Adapter.accountType ID (AccountInfo.load ℓ i) : Except Error Adapter) =
      .error (.anchor .AccountNotInitialized) := by
  have hcheck : ¬ ¬ ((AccountInfo.load ℓ i).owner = System.ID ∧
      (AccountInfo.load ℓ i).lamports = 0) := not_not.mpr h
  rw [Anchor.account, decide_eq_false hcheck, require_false, except_error_bind]

/-- An account that somebody has created passes the first check. -/
theorem account_of_initialized
    (h : ¬ ((ℓ i.pubkey).owner = System.ID ∧ (ℓ i.pubkey).lamports = 0)) :
    (Anchor.account Adapter.accountType ID (AccountInfo.load ℓ i) : Except Error Adapter) = (do
      require ((ℓ i.pubkey).owner = ID) (.anchor .AccountOwnedByWrongProgram)
      Adapter.accountType.try_deserialize (ℓ i.pubkey).data) := by
  have hcheck : ¬ ((AccountInfo.load ℓ i).owner = System.ID ∧
      (AccountInfo.load ℓ i).lamports = 0) := h
  rw [Anchor.account, decide_eq_true hcheck, require_true, except_ok_bind]
  rfl

theorem account_of_owner_ne
    (hexists : ¬ ((ℓ i.pubkey).owner = System.ID ∧ (ℓ i.pubkey).lamports = 0))
    (h : (ℓ i.pubkey).owner ≠ ID) :
    (Anchor.account Adapter.accountType ID (AccountInfo.load ℓ i) : Except Error Adapter) =
      .error (.anchor .AccountOwnedByWrongProgram) := by
  rw [account_of_initialized hexists, decide_eq_false h, require_false, except_error_bind]

theorem account_of_stored (howner : (ℓ i.pubkey).owner = ID) (hstored : Stored (ℓ i.pubkey).data)
    (hnone : heldAdapter (ℓ i.pubkey) = none) :
    (Anchor.account Adapter.accountType ID (AccountInfo.load ℓ i) : Except Error Adapter) =
      .error (.anchor (if (ℓ i.pubkey).data.length < 8 then .AccountDiscriminatorNotFound
        else .AccountDiscriminatorMismatch)) := by
  have hexists : ¬ ((ℓ i.pubkey).owner = System.ID ∧ (ℓ i.pubkey).lamports = 0) := fun h =>
    ID_ne_system (howner.symm.trans h.1)
  have hnone' : heldAdapter ⟨(ℓ i.pubkey).lamports, ID, (ℓ i.pubkey).data⟩ = none := by
    rw [← howner]
    exact hnone
  rw [account_of_initialized hexists, decide_eq_true howner, require_true, except_ok_bind]
  exact try_deserialize_of_stored hstored hnone'

/-- A record with a status is active when the status is. -/
theorem is_active_of_status {s : AdapterStatus} (hstatus : a.status = s.as_u8) :
    a.is_active = .ok s.is_active := by
  have hread : a.readStatus = .ok s := Adapter.readStatus_eq_ok.mpr hstatus
  rw [Adapter.is_active, hread]
  rfl

/-- The check that `deposit` and `withdraw` make, of a record with a status. -/
theorem validate_eq {s : AdapterStatus} (hstatus : a.status = s.as_u8) (bound : Bool) (e : Error) :
    (do let active ← a.is_active
        require active (dispatcherError .Inactive)
        require bound e : Except Error Unit) =
      if a.status ≠ AdapterStatus.Active.as_u8 then .error (dispatcherError .Inactive)
      else require bound e := by
  rw [is_active_of_status hstatus, hstatus]
  cases s <;> rfl

/-- Bytes that must fit are refused when they do not. -/
theorem require_fits (data : List UInt8) :
    (require (data.length ≤ EXTRA_DATA_MAX_LEN) (dispatcherError .Overflow) :
      Except Error Unit) =
      if EXTRA_DATA_MAX_LEN < data.length then .error (dispatcherError .Overflow) else .ok () := by
  by_cases h : EXTRA_DATA_MAX_LEN < data.length
  · rw [if_pos h, decide_eq_false (Nat.not_le_of_lt h), require_false]
  · rw [if_neg h, decide_eq_true (Nat.le_of_not_lt h), require_true]

/-- The check of a record with a status: it must be `Active`, and the bytes must fit. -/
theorem Call.validate_eq (h : call.route = some r) {s : AdapterStatus}
    (hstatus : a.status = s.as_u8) :
    r.validate a =
      if a.status ≠ AdapterStatus.Active.as_u8 then .error (dispatcherError .Inactive)
      else if EXTRA_DATA_MAX_LEN < (call.extra_data.getD []).length then
        .error (dispatcherError .Overflow)
      else .ok () := by
  obtain ⟨args, rfl, rfl⟩ | ⟨args, rfl, rfl⟩ | ⟨rfl, rfl⟩ := Call.route_cases h
  · rw [Call.extra_data, Option.getD_some, ← require_fits]
    exact Dispatcher.validate_eq hstatus _ _
  · rw [Call.extra_data, Option.getD_some, ← require_fits]
    exact Dispatcher.validate_eq hstatus _ _
  · -- there are no bytes to check
    show CurrentValue.validate a = _
    rw [CurrentValue.validate, is_active_of_status hstatus, hstatus]
    cases s <;> rfl

/-- The checks of a call that is signed. -/
theorem plan_of_signer {signer adapter : AccountMeta} {remaining : List AccountMeta}
    (hsigner : signer.is_signer = true) :
    r.planAt C (signer :: adapter :: remaining) ℓ = (do
      let a ← Anchor.account Adapter.accountType ID (AccountInfo.load ℓ adapter)
      Anchor.constraint_mut (AccountInfo.load ℓ signer)
      Anchor.constraint_seeds C (Adapter.seeds a.program_id a.authority) a.bump ID
        (AccountInfo.load ℓ adapter)
      let ctx : Routed := ⟨AccountInfo.load ℓ signer, AccountInfo.load ℓ adapter, a,
        remaining.map (AccountInfo.load ℓ)⟩
      r.validate a
      return (ctx.instruction r.data, ctx)) := by
  have hload : (Anchor.signer (AccountInfo.load ℓ signer) : Except Error Unit) = .ok () :=
    Anchor.signer_eq_ok.mpr hsigner
  simp only [Route.planAt, Route.plan, Routed.try_accounts, List.map_cons, Anchor.next_account,
    except_ok_bind, hload, bind_assoc, pure_bind]

/-- A call that is not signed is refused before its adapter is looked at. -/
theorem plan_of_not_signer {signer : AccountMeta} {rest : List AccountMeta}
    (hsigner : signer.is_signer = false) :
    r.planAt C (signer :: rest) ℓ = .error (.anchor .AccountNotSigner) := by
  have hload : (Anchor.signer (AccountInfo.load ℓ signer) : Except Error Unit) =
      .error (.anchor .AccountNotSigner) := require_eq_error.mpr ⟨hsigner, rfl⟩
  simp only [Route.planAt, Route.plan, Routed.try_accounts, List.map_cons, Anchor.next_account,
    except_ok_bind, hload, except_error_bind]

/-- A call that is signed and names no adapter is refused there. -/
theorem plan_of_no_adapter {signer : AccountMeta} (hsigner : signer.is_signer = true) :
    r.planAt C [signer] ℓ = .error (.anchor .AccountNotEnoughKeys) := by
  have hload : (Anchor.signer (AccountInfo.load ℓ signer) : Except Error Unit) = .ok () :=
    Anchor.signer_eq_ok.mpr hsigner
  simp only [Route.planAt, Route.plan, Routed.try_accounts, List.map_cons, List.map_nil,
    Anchor.next_account, except_ok_bind, hload, except_error_bind]

/-- **The record passed** decides about a call that is signed. -/
theorem plan_of_refusalOf (hvalid : (view ℓ).Valid C) (hstored : Accounted ℓ)
    (h : call.route = some r) {signer adapter : AccountMeta} {remaining : List AccountMeta}
    (hsigner : signer.is_signer = true) :
    match call.refusalOf signer (ℓ adapter.pubkey) with
    | some e => r.planAt C (signer :: adapter :: remaining) ℓ = .error e
    | none => ∃ ix ctx, r.planAt C (signer :: adapter :: remaining) ℓ = .ok (ix, ctx) := by
  rw [plan_of_signer hsigner, Call.refusalOf]
  by_cases hvacant : (ℓ adapter.pubkey).owner = System.ID ∧ (ℓ adapter.pubkey).lamports = 0
  · rw [if_pos hvacant, account_of_not_initialized hvacant]
    simp [except_error_bind]
  rw [if_neg hvacant]
  by_cases howner : (ℓ adapter.pubkey).owner = ID
  · rw [if_neg (not_not.mpr howner)]
    cases hheld : heldAdapter (ℓ adapter.pubkey) with
    | none =>
        rw [account_of_stored howner (hstored _ howner) hheld]
        by_cases hshort : (ℓ adapter.pubkey).data.length < 8
        · simp [hshort, except_error_bind]
        · simp [hshort, except_error_bind]
    | some a =>
        -- a record that is held lies at its address and has a status
        obtain ⟨hinv, hfind⟩ := hvalid.adapter _ a hheld
        obtain ⟨-, -, -, s, hs⟩ := Adapter.invariant_eq_ok.mp hinv
        have haccount : (Anchor.account Adapter.accountType ID (AccountInfo.load ℓ adapter) :
            Except Error Adapter) = .ok a := (Anchor.account_load_eq_ok ID_ne_system).mpr hheld
        have hseeds : (Anchor.constraint_seeds C (Adapter.seeds a.program_id a.authority) a.bump
            ID (AccountInfo.load ℓ adapter) : Except Error Unit) = .ok () :=
          Anchor.constraint_seeds_eq_ok.mpr (create_of_find C hfind)
        simp only [haccount, except_ok_bind]
        cases hwritable : signer.is_writable with
        | false =>
            have hmut : (Anchor.constraint_mut (AccountInfo.load ℓ signer) :
                Except Error Unit) = .error (.anchor .ConstraintMut) :=
              require_eq_error.mpr ⟨hwritable, rfl⟩
            simp [hmut, except_error_bind]
        | true =>
            have hmut : (Anchor.constraint_mut (AccountInfo.load ℓ signer) :
                Except Error Unit) = .ok () := Anchor.constraint_mut_eq_ok.mpr hwritable
            simp only [hmut, hseeds, except_ok_bind, Call.validate_eq h hs]
            by_cases hactive : a.status = AdapterStatus.Active.as_u8
            · by_cases hbound : EXTRA_DATA_MAX_LEN < (call.extra_data.getD []).length
              · simp [hactive, hbound]
              · simp [hactive, hbound, except_ok_bind, pure, Except.pure]
            · simp [hactive]
  · rw [if_pos howner, account_of_owner_ne hvacant howner]
    simp [except_error_bind]

/-- **The table is what the checks amount to.** -/
theorem planAt_of_refusal (hvalid : (view ℓ).Valid C) (hstored : Accounted ℓ)
    (h : call.route = some r) (accounts : List AccountMeta) :
    match call.refusal ℓ accounts with
    | some e => r.planAt C accounts ℓ = .error e
    | none => ∃ ix ctx, r.planAt C accounts ℓ = .ok (ix, ctx) := by
  rcases accounts with _ | ⟨signer, _ | ⟨adapter, remaining⟩⟩
  · rfl
  · rw [Call.refusal]
    cases hsigner : signer.is_signer with
    | false => exact plan_of_not_signer hsigner
    | true => exact plan_of_no_adapter hsigner
  · rw [Call.refusal]
    cases hsigner : signer.is_signer with
    | false => exact plan_of_not_signer hsigner
    | true => exact plan_of_refusalOf hvalid hstored h hsigner

end Checks

/-- **Why a routed call is refused.**  In every reachable ledger, a call of `deposit`,
`withdraw` or `current_value`, by whoever and with whatever accounts and arguments,

1. fails with the error of the table, calls nothing and changes nothing, when the table
   has one;
2. otherwise makes its one call, which the runtime refuses with `MissingAccount` when the
   called program is not among the accounts. -/
theorem routed_refusals {C : Crypto} {ℓ₀ : Ledger} (h₀ : NoData ℓ₀) (actions : List Action)
    (w : World) (accounts : List AccountMeta) (call : Call) {r : Route}
    (h : call.route = some r) :
    let ℓ := ledgerAfter C ℓ₀ actions
    (∀ e, call.refusal ℓ accounts = some e →
      execute C w accounts call ℓ = ⟨.error e, ℓ, [], (ID, []), []⟩) ∧
    (call.refusal ℓ accounts = none →
      ∃ ix cs, (execute C w accounts call ℓ).calls = (ID, ix) :: cs ∧ (∀ c ∈ cs, c.1 ≠ ID) ∧
        (ix.program_id ∉ accounts.map AccountMeta.pubkey →
          execute C w accounts call ℓ =
            ⟨.error .missingAccount, ℓ, [], (ID, []), [(ID, ix)]⟩)) := by
  intro ℓ
  have htable := planAt_of_refusal (C := C) (valid_ledgerAfter h₀ actions)
    (accounted_ledgerAfter h₀ actions) h accounts
  constructor
  · intro e he
    rw [he] at htable
    exact execute_route_of_error h htable
  · intro he
    rw [he] at htable
    obtain ⟨ix, ctx, hplan⟩ := htable
    obtain ⟨cs, hcalls, hother⟩ := calls_execute_route (w := w) h hplan
    exact ⟨ix, cs, hcalls, hother, execute_route_unlisted h hplan⟩

/-- A deposit for the registry instead of a record is refused at its discriminator. -/
theorem routed_refusals_registry :
    execute sampleCrypto quietWorld [⟨INITIALIZER, true, true⟩, ⟨registryAddress, false, false⟩]
        (.deposit ⟨5, []⟩) sampleLedger =
      ⟨.error (.anchor .AccountDiscriminatorMismatch), sampleLedger, [], (ID, []), []⟩ :=
  (routed_refusals (C := sampleCrypto) noData_genesis [openRegistry, registerDrift 0] quietWorld
    [⟨INITIALIZER, true, true⟩, ⟨registryAddress, false, false⟩] (.deposit ⟨5, []⟩) rfl).1 _
    (by decide +kernel)

end Dispatcher
