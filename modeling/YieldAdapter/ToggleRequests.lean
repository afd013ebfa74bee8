/-
# Who decides the status of a record

`toggle_adapter` succeeds for the authority of a record and for nobody else, and it
always does: what else happens on the ledger neither prevents nor replaces it.  So
the status of a record follows from the requests of its authority alone, and not
from the order in which they are carried out.
-/
import YieldAdapter.StatusHistory
import YieldAdapter.RunLogs

open Solana

namespace Dispatcher

/-- `ToggleAdapter`: the accounts of the instruction. -/
structure ToggleAdapter where
  authority : AccountMeta
  adapter : AccountMeta

namespace ToggleAdapter

variable (s : ToggleAdapter)

/-- The accounts in order, with any others behind them. -/
def accounts (rest : List AccountMeta) : List AccountMeta := s.authority :: s.adapter :: rest

/-- What the accounts struct asks of the accounts, whatever they hold. -/
structure Declared : Prop where
  signer : s.authority.is_signer = true
  payer : s.authority.is_writable = true
  written : s.adapter.is_writable = true

/-- The record passed is one of the signer's, at its address, and can be toggled. -/
def Togglable (C : Crypto) (ℓ : Ledger) (a : Adapter) (status : AdapterStatus) : Prop :=
  heldAdapter (ℓ s.adapter.pubkey) = some a ∧ a.authority = s.authority.pubkey ∧
    create_program_address C (Adapter.seeds a.program_id a.authority ++ [[a.bump]]) ID =
      some s.adapter.pubkey ∧
    a.status = status.as_u8 ∧ status ≠ .Deprecated

variable {s} {C : Crypto} {w : World} {ℓ : Ledger} {a : Adapter} {status : AdapterStatus}

/-- A held record is stored in front of whatever else its account holds. -/
theorem data_of_held {account : Account} (h : heldAdapter account = some a) :
    account = ⟨account.lamports, ID, Adapter.accountType.try_serialize a ++
      account.data.drop (8 + Adapter.accountType.INIT_SPACE)⟩ := by
  obtain ⟨howner, rest, hdata⟩ := Adapter.accountType.held_eq_some.mp h
  obtain ⟨lamports, owner, data⟩ := account
  subst howner hdata
  rw [List.drop_left' (Adapter.accountType.length_try_serialize a)]

/-- **What a toggle does**, when it can be carried out: the status byte changes, and
nothing else. -/
theorem execute_of_togglable (rest : List AccountMeta) (hdeclared : s.Declared)
    (h : s.Togglable C ℓ a status) :
    execute C w (s.accounts rest) .toggle_adapter ℓ =
      ⟨.ok (),
        Function.update ℓ s.adapter.pubkey
          { ℓ s.adapter.pubkey with
            data := Adapter.accountType.try_serialize (a.withStatus (toggled status)) ++
              (ℓ s.adapter.pubkey).data.drop (8 + Adapter.accountType.INIT_SPACE) },
        [(ID, .ToggleEvent s.authority.pubkey s.adapter.pubkey a.program_id
          (toggled status).as_u8)],
        (ID, []), []⟩ := by
  obtain ⟨hheld, hkey, hseeds, hstatus, hne⟩ := h
  have hdata := data_of_held hheld
  have hspace : 8 + Adapter.accountType.INIT_SPACE ≤ (ℓ s.adapter.pubkey).data.length := by
    have hlength := congrArg (fun account : Account => account.data.length) hdata
    simp only [List.length_append, AccountType.length_try_serialize] at hlength
    omega
  have hrun : toggle_adapter C ((s.accounts rest).map (AccountInfo.load ℓ))
      (env C w (s.accounts rest)) (Machine.start ID ℓ) = (.ok (), _) := toggle_adapter_eq_ok.mpr
    ⟨AccountInfo.load ℓ s.authority, AccountInfo.load ℓ s.adapter,
      rest.map (AccountInfo.load ℓ), a, status, toggled status, rfl, hdeclared.signer,
      hdeclared.payer, hdeclared.written, (Anchor.account_load_eq_ok ID_ne_system).mpr hheld, hkey,
      hseeds,
      Adapter.readStatus_eq_ok.mpr hstatus, nextStatus_eq_ok.mpr ⟨hne, rfl⟩, hspace, rfl⟩
  have hout : execute C w (s.accounts rest) .toggle_adapter ℓ = _ := transact_of_ok hrun
  rw [hout]
  rfl

/-- **When `toggle_adapter` succeeds.** -/
theorem execute_eq_ok_iff {accounts : List AccountMeta} :
    (execute C w accounts .toggle_adapter ℓ).result = .ok () ↔
      ∃ (s : ToggleAdapter) (rest : List AccountMeta) (a : Adapter) (status : AdapterStatus),
        accounts = s.accounts rest ∧ s.Declared ∧ s.Togglable C ℓ a status := by
  constructor
  · intro h
    obtain ⟨m, hrun, -⟩ := transact_result_ok h
    obtain ⟨_, _, _, a, status, _, haccounts, hsigner, hpayer, hwritten, hadapter, hkey, hseeds,
      hstatus, hnext, -, -⟩ := toggle_adapter_eq_ok.mp hrun
    obtain ⟨authority, _, rfl, rfl, hrest⟩ := List.map_eq_cons_iff.mp haccounts
    obtain ⟨adapter, rest, rfl, rfl, -⟩ := List.map_eq_cons_iff.mp hrest
    exact ⟨⟨authority, adapter⟩, rest, a, status, rfl, ⟨hsigner, hpayer, hwritten⟩,
      (Anchor.account_load_eq_ok ID_ne_system).mp hadapter, hkey, hseeds,
      Adapter.readStatus_eq_ok.mp hstatus, (nextStatus_eq_ok.mp hnext).1⟩
  · rintro ⟨s, rest, a, status, rfl, hdeclared, h⟩
    rw [execute_of_togglable rest hdeclared h]

/-- Where the table is valid, a held record lies at its address and has a status. -/
theorem togglable_iff (hvalid : (view ℓ).Valid C)
    (hheld : heldAdapter (ℓ s.adapter.pubkey) = some a) :
    (∃ a' status, s.Togglable C ℓ a' status) ↔
      a.authority = s.authority.pubkey ∧ a.status ≠ AdapterStatus.Deprecated.as_u8 := by
  obtain ⟨hinv, hfind⟩ := hvalid.adapter _ a hheld
  constructor
  · rintro ⟨a', status, hheld', hkey, -, hstatus, hne⟩
    obtain rfl := Option.some.inj (hheld'.symm.trans hheld)
    refine ⟨hkey, ?_⟩
    rw [hstatus]
    exact as_u8_ne_deprecated hne
  · rintro ⟨hkey, hne⟩
    obtain ⟨-, -, -, status, hstatus⟩ := Adapter.invariant_eq_ok.mp hinv
    refine ⟨a, status, hheld, hkey, create_of_find C hfind, hstatus, ?_⟩
    rintro rfl
    exact hne hstatus

end ToggleAdapter

/-! ## RequestsToggle -/

/-- The action is a `toggle_adapter` of the record at `k` with the signature of `authority`,
and with the accounts marked as the accounts struct declares them.  Whether it succeeds
is left open. -/
def RequestsToggle (k authority : Pubkey) : Action → Bool
  | .call _ (signer :: adapter :: _) .toggle_adapter =>
      signer.pubkey = authority && signer.is_signer && signer.is_writable &&
        (adapter.pubkey = k && adapter.is_writable)
  | _ => false

section Requests

variable {C : Crypto} {ℓ ℓ₀ : Ledger} {k : Pubkey} {a : Adapter}

/-- **A toggle succeeds exactly when the authority requests it**, and the record is not
deprecated. -/
theorem toggles_eq_requests (hvalid : (view ℓ).Valid C) (h : heldAdapter (ℓ k) = some a)
    (action : Action) :
    Toggles C k ℓ action =
      (RequestsToggle k a.authority action && a.status ≠ AdapterStatus.Deprecated.as_u8) := by
  rcases action with ⟨w, _ | ⟨signer, _ | ⟨adapter, rest⟩⟩, call⟩ | programs
  · rfl
  · rfl
  · cases call with
    | toggle_adapter =>
        by_cases hk : adapter.pubkey = k
        · subst hk
          have htogglable := ToggleAdapter.togglable_iff (s := ⟨signer, adapter⟩) hvalid h
          rw [Toggles, RequestsToggle, Bool.eq_iff_iff]
          simp only [decide_true, Bool.true_and, Bool.and_eq_true, decide_eq_true_eq, isOk_iff]
          rw [ToggleAdapter.execute_eq_ok_iff]
          constructor
          · rintro ⟨s, rest', a', status, haccounts, hdeclared, hs⟩
            obtain ⟨rfl, htail⟩ := List.cons.inj haccounts
            obtain ⟨rfl, -⟩ := List.cons.inj htail
            obtain ⟨hkey, hne⟩ := htogglable.mp ⟨a', status, hs⟩
            exact ⟨⟨⟨⟨hkey.symm, hdeclared.signer⟩, hdeclared.payer⟩, hdeclared.written⟩, hne⟩
          · rintro ⟨⟨⟨⟨hkey, hsigner⟩, hpayer⟩, hwritten⟩, hne⟩
            obtain ⟨a', status, hs⟩ := htogglable.mpr ⟨hkey.symm, hne⟩
            exact ⟨⟨signer, adapter⟩, rest, a', status, rfl, ⟨hsigner, hpayer, hwritten⟩, hs⟩
        · simp [Toggles, RequestsToggle, hk]
    | _ => rfl
  · rfl

/-- Toggling a deprecated record leaves it as it is. -/
theorem Adapter.toggle_of_deprecated (h : a.status = AdapterStatus.Deprecated.as_u8) :
    a.toggle = a := by
  rw [Adapter.toggle_of_status h, Adapter.withStatus, toggled, ← h]

theorem Adapter.authority_toggle (a : Adapter) : a.toggle.authority = a.authority := by
  unfold Adapter.toggle
  cases AdapterStatus.from_u8 a.status <;> rfl

/-- **What one step does to a record**, in terms of requests. -/
theorem adapter_step_of_requests (hvalid : (view ℓ).Valid C) (h : heldAdapter (ℓ k) = some a)
    (action : Action) :
    heldAdapter (step C ℓ action k) =
      some (if RequestsToggle k a.authority action then a.toggle else a) := by
  obtain ⟨htoggled, hkept⟩ := adapter_step h action
  have hmark := toggles_eq_requests hvalid h action
  cases hrequest : RequestsToggle k a.authority action with
  | false =>
      rw [hrequest, Bool.false_and] at hmark
      rw [hkept hmark, if_neg Bool.false_ne_true]
  | true =>
      rw [if_pos rfl]
      rw [hrequest, Bool.true_and] at hmark
      by_cases hdeprecated : a.status = AdapterStatus.Deprecated.as_u8
      · rw [Adapter.toggle_of_deprecated hdeprecated]
        exact hkept (hmark.trans (decide_eq_false (not_not.mpr hdeprecated)))
      · exact (htoggled (hmark.trans (decide_eq_true hdeprecated))).2

/-- **What a run does to a record**: it toggles it as often as its authority asks. -/
theorem adapter_run_of_requests (hvalid : (view ℓ).Valid C) (h : heldAdapter (ℓ k) = some a)
    (actions : List Action) :
    heldAdapter (ledgerAfter C ℓ actions k) =
      some (Adapter.toggle^[actions.countP (RequestsToggle k a.authority)] a) := by
  have hstep : ∀ (ℓ : Ledger) (action : Action), ((view ℓ).Valid C ∧
      ∃ b, heldAdapter (ℓ k) = some b ∧ b.authority = a.authority) →
      (view (step C ℓ action)).Valid C ∧
        ∃ b, heldAdapter (step C ℓ action k) = some b ∧ b.authority = a.authority := by
    rintro ℓ action ⟨hvalid, b, hb, hauthority⟩
    refine ⟨valid_step ℓ action hvalid, _, adapter_step_of_requests hvalid hb action, ?_⟩
    split_ifs
    · rw [Adapter.authority_toggle, hauthority]
    · exact hauthority
  have hmarked : ∀ (ℓ : Ledger) (action : Action), ((view ℓ).Valid C ∧
      ∃ b, heldAdapter (ℓ k) = some b ∧ b.authority = a.authority) →
      RequestsToggle k a.authority action = true →
      heldAdapter (step C ℓ action k) = (heldAdapter (ℓ k)).map Adapter.toggle := by
    rintro ℓ action ⟨hvalid, b, hb, hauthority⟩ hrequest
    rw [adapter_step_of_requests hvalid hb, hauthority, if_pos hrequest, hb, Option.map_some]
  have hother : ∀ (ℓ : Ledger) (action : Action), ((view ℓ).Valid C ∧
      ∃ b, heldAdapter (ℓ k) = some b ∧ b.authority = a.authority) →
      RequestsToggle k a.authority action = false →
      heldAdapter (step C ℓ action k) = heldAdapter (ℓ k) := by
    rintro ℓ action ⟨hvalid, b, hb, hauthority⟩ hrequest
    rw [adapter_step_of_requests hvalid hb, hauthority, hrequest, if_neg Bool.false_ne_true, hb]
  have hcount := Runs.iterate_of_marked (f := fun ℓ : Ledger => heldAdapter (ℓ k)) hstep hmarked
    hother ⟨hvalid, a, h, rfl⟩ actions
  rw [Runs.countMarked_eq_countP] at hcount
  rw [ledgerAfter, hcount, h]
  exact (Function.Semiconj.iterate_right (f := some) (fun _ => rfl) _ a).symm

/-- Toggling as often, up to an even number, is toggling alike. -/
theorem Adapter.toggle_iterate_congr {status : AdapterStatus} (h : a.status = status.as_u8)
    {n n' : ℕ} (hparity : n % 2 = n' % 2) :
    Adapter.toggle^[n] a = Adapter.toggle^[n'] a := by
  have heven : Even n ↔ Even n' := by
    rw [Nat.even_iff, Nat.even_iff, hparity]
  rw [Adapter.toggle_iterate h, Adapter.toggle_iterate h, toggled_iterate, toggled_iterate]
  by_cases hn : Even n
  · rw [if_pos hn, if_pos (heven.mp hn)]
  · rw [if_neg hn, if_neg fun hn' => hn (heven.mpr hn')]

/-- The part of a run from a point on. -/
theorem ledgerAfter_append (before after : List Action) :
    ledgerAfter C ℓ₀ (before ++ after) = ledgerAfter C (ledgerAfter C ℓ₀ before) after :=
  Runs.run_append (step C) ℓ₀ before after

end Requests

/-! ## Exactness and independence -/

/-- **Toggling is exact and atomic.**  In any ledger,

1. `toggle_adapter` succeeds exactly when the accounts passed are marked as the accounts
   struct declares them, and the record passed lies at its address, has the signer as its
   authority and is not deprecated;
2. the status byte is then the other one of `Active` and `Paused`, the one event says so,
   and nothing else has changed, lamports and the bytes behind the record included;
3. on failure the ledger is as before, and there is no event;
4. where the table is valid, so in every reachable ledger, the address and the status byte
   of a record that is held are never the reason for a failure.

Whatever Anchor itself may have against accounts that are passed twice as writable is left
out of account. -/
theorem toggle_adapter_exact (C : Crypto) (w : World) (ℓ : Ledger) :
    (∀ accounts, (execute C w accounts .toggle_adapter ℓ).result = .ok () ↔
      ∃ (s : ToggleAdapter) (rest : List AccountMeta) (a : Adapter) (status : AdapterStatus),
        accounts = s.accounts rest ∧ s.Declared ∧ s.Togglable C ℓ a status) ∧
    (∀ (s : ToggleAdapter) (rest : List AccountMeta) (a : Adapter) (status : AdapterStatus),
      s.Declared → s.Togglable C ℓ a status →
      execute C w (s.accounts rest) .toggle_adapter ℓ =
        ⟨.ok (),
          Function.update ℓ s.adapter.pubkey
            { ℓ s.adapter.pubkey with
              data := Adapter.accountType.try_serialize (a.withStatus (toggled status)) ++
                (ℓ s.adapter.pubkey).data.drop (8 + Adapter.accountType.INIT_SPACE) },
          [(ID, .ToggleEvent s.authority.pubkey s.adapter.pubkey a.program_id
            (toggled status).as_u8)],
          (ID, []), []⟩) ∧
    (∀ accounts, (execute C w accounts .toggle_adapter ℓ).result ≠ .ok () →
      (execute C w accounts .toggle_adapter ℓ).ledger = ℓ ∧
        (execute C w accounts .toggle_adapter ℓ).events = []) ∧
    ((view ℓ).Valid C → ∀ (s : ToggleAdapter) (a : Adapter),
      heldAdapter (ℓ s.adapter.pubkey) = some a →
      ((∃ a' status, s.Togglable C ℓ a' status) ↔
        a.authority = s.authority.pubkey ∧ a.status ≠ AdapterStatus.Deprecated.as_u8)) :=
  ⟨fun _ => ToggleAdapter.execute_eq_ok_iff,
    fun _ rest _ _ hdeclared h => ToggleAdapter.execute_of_togglable rest hdeclared h,
    fun _ h => execute_of_not_ok h,
    fun hvalid _ _ hheld => ToggleAdapter.togglable_iff hvalid hheld⟩

/-- **The status of a record is its authority's.**  From any point of a run on,

1. a record is toggled as often as its authority requests it, whatever else happens, and
   whether or not the requests of others succeed;
2. two continuations in which the authority makes as many requests, up to an even number,
   lead to the same record;
3. so do two continuations that contain the same actions in a different order. -/
theorem record_follows_requests {C : Crypto} {ℓ₀ : Ledger} (h₀ : NoData ℓ₀)
    (before : List Action) {k : Pubkey} {a : Adapter}
    (h : heldAdapter (ledgerAfter C ℓ₀ before k) = some a) :
    (∀ after, heldAdapter (ledgerAfter C ℓ₀ (before ++ after) k) =
      some (Adapter.toggle^[after.countP (RequestsToggle k a.authority)] a)) ∧
    (∀ after after',
      after.countP (RequestsToggle k a.authority) % 2 =
        after'.countP (RequestsToggle k a.authority) % 2 →
      heldAdapter (ledgerAfter C ℓ₀ (before ++ after) k) =
        heldAdapter (ledgerAfter C ℓ₀ (before ++ after') k)) ∧
    (∀ after after' : List Action, after.Perm after' →
      heldAdapter (ledgerAfter C ℓ₀ (before ++ after) k) =
        heldAdapter (ledgerAfter C ℓ₀ (before ++ after') k)) := by
  have hrun : ∀ after, heldAdapter (ledgerAfter C ℓ₀ (before ++ after) k) =
      some (Adapter.toggle^[after.countP (RequestsToggle k a.authority)] a) := by
    intro after
    rw [ledgerAfter_append]
    exact adapter_run_of_requests (valid_ledgerAfter h₀ before) h after
  obtain ⟨status, hstatus⟩ := exists_status h₀ h
  have hparity : ∀ after after' : List Action,
      after.countP (RequestsToggle k a.authority) % 2 =
        after'.countP (RequestsToggle k a.authority) % 2 →
      heldAdapter (ledgerAfter C ℓ₀ (before ++ after) k) =
        heldAdapter (ledgerAfter C ℓ₀ (before ++ after') k) := by
    intro after after' hcount
    rw [hrun after, hrun after', Adapter.toggle_iterate_congr hstatus hcount]
  refine ⟨hrun, hparity, ?_⟩
  intro after after' hperm
  exact hparity after after' (congrArg (· % 2) (hperm.countP_eq _))

/-- Toggled twice by its authority, the Drift adapter is as it was registered. -/
theorem record_follows_requests_toggleDrift :
    heldAdapter (ledgerAfter sampleCrypto genesis
      ([openRegistry, registerDrift 0] ++ [toggleDrift, toggleDrift]) driftAddress) =
        some (driftRecord 0) := by
  have hheld : heldAdapter (ledgerAfter sampleCrypto genesis [openRegistry, registerDrift 0]
      driftAddress) = some (driftRecord 0) := by
    decide +kernel
  obtain ⟨-, hparity, -⟩ := record_follows_requests (C := sampleCrypto) noData_genesis _ hheld
  have hnone := hparity [toggleDrift, toggleDrift] [] (by decide +kernel)
  rw [List.append_nil] at hnone
  exact hnone.trans hheld

end Dispatcher
