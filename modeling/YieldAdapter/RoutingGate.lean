/-
# The routing gate

When a routed call leaves the dispatcher: only for the program of a genuine
record, registered by `INITIALIZER`, that is `Active` at that moment.  Whatever
account a caller passes as the adapter, the record it holds is one that the
dispatcher has written, and every record was registered in the run.
-/
import YieldAdapter.StatusHistory

open Solana

namespace Dispatcher

variable {C : Crypto} {ℓ₀ : Ledger}

/-- The record at `k`, for the program `program_id`, was registered in the run by an
`adapter_init` that `INITIALIZER` signed. -/
def RegisteredByInitializer (C : Crypto) (ℓ₀ : Ledger) (actions : List Action)
    (k program_id : Pubkey) : Prop :=
  ∃ before w initializer adapter rest args after,
    actions = before ++ .call w (initializer :: adapter :: rest) (.adapter_init args) :: after ∧
    (execute C w (initializer :: adapter :: rest) (.adapter_init args)
      (ledgerAfter C ℓ₀ before)).result = .ok () ∧
    initializer.pubkey = INITIALIZER ∧ initializer.is_signer = true ∧
    adapter.pubkey = k ∧ args.program_id = program_id

/-- **Every record is the initializer's.** -/
theorem registeredByInitializer (h₀ : NoData ℓ₀) {actions : List Action} {k : Pubkey}
    {a : Adapter} (h : heldAdapter (ledgerAfter C ℓ₀ actions k) = some a) :
    RegisteredByInitializer C ℓ₀ actions k a.program_id := by
  obtain ⟨before, action, after, a₀, rfl, hregisters, -, hprogram, -, -, -⟩ :=
    exists_registers h₀ h
  obtain ⟨w, initializer, adapter, rest, args, rfl, hok, hsigner, ⟨k₀, r, hregistry, hkey⟩, hk, -,
    -, hrecord⟩ := hregisters
  obtain ⟨hinitializer, -⟩ := (valid_ledgerAfter (C := C) h₀ before).registry k₀ r hregistry
  refine ⟨before, w, initializer, adapter, rest, args, after, rfl, hok, ?_, hsigner, hk, ?_⟩
  · rw [← hkey, hinitializer]
  · rw [hprogram, hrecord]
    rfl

/-- What a routed call does that is not let through. -/
def Refused (out : Outcome YieldError Event) (ℓ : Ledger) : Prop :=
  out.calls = [] ∧ out.ledger = ℓ ∧ out.events = [] ∧ ∃ e, out.result = .error e

/-- A routed call that is let through names an active record; any other is refused. -/
theorem routed_or_refused {w : World} {accounts : List AccountMeta} {call : Call} {r : Route}
    (h : call.route = some r) (ℓ : Ledger) :
    (∃ signer adapter remaining a ix cs,
      accounts = signer :: adapter :: remaining ∧
      heldAdapter (ℓ adapter.pubkey) = some a ∧ a.status = AdapterStatus.Active.as_u8 ∧
      (∀ data, call.extra_data = some data → data.length ≤ EXTRA_DATA_MAX_LEN) ∧
      ix.program_id = a.program_id ∧
      (execute C w accounts call ℓ).calls = (ID, ix) :: cs ∧ ∀ c ∈ cs, c.1 ≠ ID) ∨
    Refused (execute C w accounts call ℓ) ℓ := by
  rcases hplan : r.planAt C accounts ℓ with e | ⟨ix, ctx⟩
  · rw [execute_route_of_error h hplan]
    exact .inr ⟨rfl, rfl, rfl, e, rfl⟩
  · obtain ⟨cs, hcalls, hothers⟩ := calls_execute_route (w := w) h hplan
    obtain ⟨signer, adapter, remaining, rfl, -, -, hheld, -, hvalidate, -, hix⟩ :=
      Route.planAt_eq_ok.mp hplan
    exact .inl ⟨signer, adapter, remaining, ctx.adapter, ix, cs, rfl, hheld,
      Call.active_of_validate h hvalidate, fun _ => Call.extra_data_of_validate h hvalidate,
      congrArg Instruction.program_id hix, hcalls, hothers⟩

/-- A record that has just been toggled to `Paused` stays so until it is toggled. -/
theorem paused_until_toggled {before between : List Action} {t : Action} {k : Pubkey}
    {a : Adapter} (h : heldAdapter (ledgerAfter C ℓ₀ (before ++ [t]) k) = some a)
    (hnone : countToggles C k (ledgerAfter C ℓ₀ (before ++ [t])) between = 0) :
    heldAdapter (ledgerAfter C ℓ₀ (before ++ t :: between) k) = some a := by
  have hend := adapter_run (C := C) h between
  rw [hnone, ledgerAfter, ledgerAfter, ← Runs.run_append, List.append_assoc] at hend
  exact hend

/-- **The routing gate.**  In every reachable ledger, a routed call, by whoever and
with whatever accounts and arguments, either

* makes exactly one call, to the program of the record it names, which is `Active`
  in that ledger and was registered by `INITIALIZER`, with `extra_data` within its
  bound; or
* fails, calls nothing and changes nothing.

From a toggle that pauses a record up to the next one, every routed call that names
the record is of the second kind. -/
theorem routing_gate (h₀ : NoData ℓ₀) :
    (∀ actions w accounts call r, Call.route call = some r →
      let ℓ := ledgerAfter C ℓ₀ actions
      (∃ signer adapter remaining a ix cs,
        accounts = signer :: adapter :: remaining ∧
        heldAdapter (ℓ adapter.pubkey) = some a ∧ a.status = AdapterStatus.Active.as_u8 ∧
        RegisteredByInitializer C ℓ₀ actions adapter.pubkey a.program_id ∧
        (∀ data, call.extra_data = some data → data.length ≤ EXTRA_DATA_MAX_LEN) ∧
        ix.program_id = a.program_id ∧
        (execute C w accounts call ℓ).calls = (ID, ix) :: cs ∧ ∀ c ∈ cs, c.1 ≠ ID) ∨
      Refused (execute C w accounts call ℓ) ℓ) ∧
    (∀ before t between k a, Toggles C k (ledgerAfter C ℓ₀ before) t = true →
      heldAdapter (ledgerAfter C ℓ₀ (before ++ [t]) k) = some a →
      a.status = AdapterStatus.Paused.as_u8 →
      countToggles C k (ledgerAfter C ℓ₀ (before ++ [t])) between = 0 →
      ∀ w signer adapter remaining call r, Call.route call = some r → adapter.pubkey = k →
        let ℓ := ledgerAfter C ℓ₀ (before ++ t :: between)
        Refused (execute C w (signer :: adapter :: remaining) call ℓ) ℓ) := by
  constructor
  · intro actions w accounts call r hroute ℓ
    rcases routed_or_refused (C := C) (w := w) hroute ℓ with
      ⟨signer, adapter, remaining, a, ix, cs, haccounts, hheld, hrest⟩ | hrefused
    · exact .inl ⟨signer, adapter, remaining, a, ix, cs, haccounts, hheld, hrest.1,
        registeredByInitializer h₀ hheld, hrest.2⟩
    · exact .inr hrefused
  · -- if it were let through, the record would be `Active`, and it is still `Paused`
    rintro before t between k a - hheld hpaused hnone w signer adapter remaining call r hroute rfl ℓ
    have hstill : heldAdapter (ℓ adapter.pubkey) = some a := paused_until_toggled hheld hnone
    rcases routed_or_refused (C := C) (w := w) hroute ℓ with
      ⟨_, _, _, a', -, -, haccounts, hheld', hactive, -⟩ | hrefused
    · obtain ⟨-, haccounts⟩ := List.cons.inj haccounts
      obtain ⟨rfl, -⟩ := List.cons.inj haccounts
      obtain rfl := Option.some.inj (hheld'.symm.trans hstill)
      exact absurd (hactive.symm.trans hpaused) (by decide)
    · exact hrefused

/-- A deposit of 5 through the Drift adapter, by `INITIALIZER`. -/
def depositDrift (ℓ : Ledger) : Outcome YieldError Event :=
  execute sampleCrypto quietWorld (driftAccounts driftPrograms) (.deposit ⟨5, []⟩) ℓ

/-- The deposit is let through while the Drift adapter is `Active`, for a record that
`INITIALIZER` registered, and refused once it is `Paused`. -/
theorem routing_gate_depositDrift :
    RegisteredByInitializer sampleCrypto genesis [openRegistry, registerDrift 0] driftAddress
        DriftAdapter.ID ∧
      Refused (depositDrift (ledgerAfter sampleCrypto genesis
          [openRegistry, registerDrift 0, toggleDrift]))
        (ledgerAfter sampleCrypto genesis [openRegistry, registerDrift 0, toggleDrift]) := by
  obtain ⟨hgate, hpaused⟩ := routing_gate (C := sampleCrypto) noData_genesis
  constructor
  · have hheld : heldAdapter (ledgerAfter sampleCrypto genesis [openRegistry, registerDrift 0]
        driftAddress) = some (driftRecord 0) := by decide +kernel
    have hcalls : (depositDrift (ledgerAfter sampleCrypto genesis
        [openRegistry, registerDrift 0])).calls ≠ [] := by decide +kernel
    rcases hgate [openRegistry, registerDrift 0] quietWorld (driftAccounts driftPrograms)
        (.deposit ⟨5, []⟩) _ rfl with
      ⟨signer, adapter, remaining, a, ix, cs, haccounts, hheld', -, hregistered, -⟩ | hrefused
    · obtain ⟨-, haccounts⟩ := List.cons.inj haccounts
      obtain ⟨rfl, -⟩ := List.cons.inj haccounts
      obtain rfl := Option.some.inj (hheld'.symm.trans hheld)
      exact hregistered
    · exact absurd hrefused.1 hcalls
  · exact hpaused [openRegistry, registerDrift 0] toggleDrift [] driftAddress (driftRecord 1)
      (by decide +kernel) (by decide +kernel) rfl rfl quietWorld _ _ _ (.deposit ⟨5, []⟩) _ rfl rfl

end Dispatcher
