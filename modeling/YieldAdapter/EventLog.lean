/-
# The event log of the dispatcher

What the dispatcher reports, instruction by instruction and over whole runs.  The
events it commits are exactly those of its successful toggles, deposits and
withdrawals, whatever the adapters below it do or emit.  Over a run they add up to a
log from which the status of every record can be read off.
-/
import YieldAdapter.EventAgreement
import YieldAdapter.ToggleRequests

open Solana

namespace Dispatcher

/-! ## The events of one instruction -/

/-- The event of a routed call that succeeds. -/
def Call.report (signer : Pubkey) (a : Adapter) : Call → List Event
  | .deposit args => [.DepositEvent signer a.program_id args.amount]
  | .withdraw args => [.WithdrawEvent signer a.program_id args.amount]
  | _ => []

section Events

variable {C : Crypto} {w : World} {accounts : List AccountMeta} {ℓ : Ledger} {call : Call}
  {r : Route}

/-- Finishing a routed call emits its event and no other. -/
theorem Call.events_after (h : call.route = some r) (ctx : Routed) (e : Env YieldError Event)
    (m : Machine Event) :
    (r.after ctx e m).2.events =
      m.events ++ (call.report ctx.signer.key ctx.adapter).map (Prod.mk e.program_id) := by
  obtain ⟨args, rfl, rfl⟩ | ⟨args, rfl, rfl⟩ | ⟨rfl, rfl⟩ := Call.route_cases h
  · rfl
  · rfl
  · show ((read_return_u64 >>= set_return_u64) e m).2.events = _
    rw [Exec.bind_apply, read_return_u64_apply]
    rcases parse_return_u64 (if m.return_data.2 = [] then none else some m.return_data) with
      error | value
    · exact (List.append_nil _).symm
    · exact (List.append_nil _).symm

theorem eventsOf_append (p : Pubkey) (es es' : List (Pubkey × Event)) :
    eventsOf p (es ++ es') = eventsOf p es ++ eventsOf p es' := by
  rw [eventsOf, List.filter_append, List.map_append, eventsOf, eventsOf]

/-- Events that all come from one program. -/
theorem eventsOf_map_mk (p : Pubkey) (es : List Event) :
    eventsOf p (es.map (Prod.mk p)) = es := by
  induction es with
  | nil => rfl
  | cons e es ih =>
      rw [eventsOf, List.map_cons, List.filter_cons_of_pos (by simp), List.map_cons, ← eventsOf, ih]

/-- **What a routed call commits**: what the call to the adapter has left, and the event
of the dispatcher. -/
theorem committed_of_plan (h : call.route = some r) {ix : Instruction} {ctx : Routed}
    (hplan : r.planAt C accounts ℓ = .ok (ix, ctx))
    (hok : (execute C w accounts call ℓ).result = .ok ()) :
    ∃ m, (env C w accounts).call ix ((Machine.start ID ℓ).called ID ix) = (.ok (), m) ∧
      (execute C w accounts call ℓ).events =
        m.events ++ (call.report ctx.signer.key ctx.adapter).map (Prod.mk ID) ∧
      (execute C w accounts call ℓ).calls = m.calls ∧
      (execute C w accounts call ℓ).ledger = m.ledger := by
  rw [execute_of_route h] at hok ⊢
  rcases hcall : (env C w accounts).call ix ((Machine.start ID ℓ).called ID ix) with ⟨e | ⟨⟩, m⟩
  · rw [transact_relay_of_call_error hplan hcall] at hok
    exact absurd hok (by simp)
  · refine ⟨m, rfl, ?_⟩
    have hevents := Call.events_after h ctx (env C w accounts) m
    have hframe := Call.after_frame h ctx (env C w accounts) m
    rcases hrun : r.after ctx (env C w accounts) m with ⟨e | ⟨⟩, m'⟩
    · rw [transact_relay_of_after_error hplan hcall hrun] at hok
      exact absurd hok (by simp)
    · rw [hrun] at hevents hframe
      rw [transact_relay_of_call_ok hplan hcall hrun]
      exact ⟨hevents, hframe.1, hframe.2⟩

/-- **The events of a routed call** that succeeds. -/
theorem eventsOf_execute_route (h : call.route = some r)
    (hok : (execute C w accounts call ℓ).result = .ok ()) :
    ∃ signer adapter remaining a, accounts = signer :: adapter :: remaining ∧
      signer.is_signer = true ∧ heldAdapter (ℓ adapter.pubkey) = some a ∧
      a.status = AdapterStatus.Active.as_u8 ∧
      eventsOf ID (execute C w accounts call ℓ).events = call.report signer.pubkey a := by
  rcases hplan : r.planAt C accounts ℓ with e | ⟨ix, ctx⟩
  · rw [execute_route_of_error h hplan] at hok
    exact absurd hok (by simp)
  · obtain ⟨m, hcall, hevents, -⟩ := committed_of_plan h hplan hok
    obtain ⟨signer, adapter, remaining, rfl, hsigner, -, hheld, -, hvalidate, hctx, -⟩ :=
      Route.planAt_eq_ok.mp hplan
    refine ⟨signer, adapter, remaining, ctx.adapter, rfl, hsigner, hheld,
      Call.active_of_validate h hvalidate, ?_⟩
    -- what is emitted below is not the dispatcher's
    have hforeign := foreign_of_planAt (w := w) h hplan ((Machine.start ID ℓ).called ID ix)
    rw [hcall] at hforeign
    have hkey : ctx.signer.key = signer.pubkey := by rw [hctx]; rfl
    rw [hevents, eventsOf_append, eventsOf_of_foreign hforeign, ← hkey]
    exact eventsOf_map_mk ID _

/-- Setting up emits nothing. -/
theorem events_of_setup (h : call = .registry_init ∨ ∃ args, call = .adapter_init args)
    (hok : (execute C w accounts call ℓ).result = .ok ()) :
    (execute C w accounts call ℓ).events = [] := by
  obtain ⟨m, hrun, hout⟩ := transact_result_ok hok
  rcases h with rfl | ⟨args, rfl⟩
  · obtain ⟨_, _, _, _, _, -, -, -, -, -, -, -, -, rfl⟩ := registry_init_eq_ok.mp hrun
    exact congrArg Outcome.events hout
  · obtain ⟨_, _, _, _, _, _, _, -, -, -, -, -, -, -, -, -, -, -, rfl⟩ :=
      adapter_init_eq_ok.mp hrun
    exact congrArg Outcome.events hout

/-- **What the dispatcher reports.**  In any ledger, whatever the programs below do and
emit, a call commits

1. when it fails: no event;
2. when it is a `registry_init` or an `adapter_init`: no event of the dispatcher;
3. when it is a `toggle_adapter` that succeeds: one event, with the status that the record
   has afterwards;
4. when it is a routed call that succeeds: the event of a deposit or withdrawal, with the
   signer, the program of the record, which is `Active`, and the amount asked for; none
   for `current_value`. -/
theorem dispatcher_events (C : Crypto) (w : World) (accounts : List AccountMeta) (call : Call)
    (ℓ : Ledger) :
    let out := execute C w accounts call ℓ
    (out.result ≠ .ok () → out.events = []) ∧
    (out.result = .ok () → (call = .registry_init ∨ ∃ args, call = .adapter_init args) →
      out.events = []) ∧
    (out.result = .ok () → call = .toggle_adapter →
      ∃ authority adapter rest a a', accounts = authority :: adapter :: rest ∧
        authority.is_signer = true ∧ authority.pubkey = a.authority ∧
        heldAdapter (ℓ adapter.pubkey) = some a ∧
        heldAdapter (out.ledger adapter.pubkey) = some a' ∧
        out.events = [(ID, .ToggleEvent a.authority adapter.pubkey a.program_id a'.status)]) ∧
    (out.result = .ok () → ∀ r, call.route = some r →
      ∃ signer adapter remaining a, accounts = signer :: adapter :: remaining ∧
        signer.is_signer = true ∧ heldAdapter (ℓ adapter.pubkey) = some a ∧
        a.status = AdapterStatus.Active.as_u8 ∧
        eventsOf ID out.events = call.report signer.pubkey a) := by
  intro out
  refine ⟨fun h => (execute_of_not_ok h).2, fun hok h => events_of_setup h hok, ?_, ?_⟩
  · rintro hok rfl
    obtain ⟨authority, adapter, rest, a, a', haccounts, hheld, hsigner, hkey, hheld', hevents⟩ :=
      toggle_of_ok hok
    exact ⟨authority, adapter, rest, a, a', haccounts, hsigner, hkey, hheld, hheld', hevents⟩
  · intro hok r h
    exact eventsOf_execute_route h hok

end Events

/-! ## The log of a run -/

/-- The events of the dispatcher that a step commits. -/
def emitted (C : Crypto) (ℓ : Ledger) : Action → List Event
  | .call w accounts call => eventsOf ID (execute C w accounts call ℓ).events
  | .other _ => []

/-- The status that an event reports of the record at `k`. -/
def Event.statusOf (k : Pubkey) : Event → Option UInt8
  | .ToggleEvent _ adapter _ status => if adapter = k then some status else none
  | _ => none

/-- The statuses of the record at `k` that a step reports. -/
def statuses (C : Crypto) (k : Pubkey) (ℓ : Ledger) (action : Action) : List UInt8 :=
  (emitted C ℓ action).filterMap (Event.statusOf k)

/-- The statuses of the record at `k` that a run reports, in order. -/
def statusLog (C : Crypto) (k : Pubkey) (ℓ : Ledger) (actions : List Action) : List UInt8 :=
  Runs.log (step C) (statuses C k) ℓ actions

section Log

variable {C : Crypto} {ℓ ℓ₀ : Ledger} {k : Pubkey} {a : Adapter}

/-- A successful toggle reports the status that it leaves behind. -/
theorem statuses_of_toggles {action : Action} (h : Toggles C k ℓ action = true) :
    ∃ a, heldAdapter (ℓ k) = some a ∧ statuses C k ℓ action = [a.toggle.status] := by
  rcases action with ⟨w, _ | ⟨authority, _ | ⟨adapter, rest⟩⟩, call⟩ | programs
  · exact absurd h (by simp [Toggles])
  · exact absurd h (by simp [Toggles])
  · cases call with
    | toggle_adapter =>
        obtain ⟨hk, hok⟩ := Bool.and_eq_true_iff.mp h
        obtain ⟨_, _, _, a, s, _, haccounts, -, hheld, -, hstatus, -, hevents, -⟩ :=
          execute_toggle_adapter (isOk_iff.mp hok)
        obtain ⟨rfl, htail⟩ := List.cons.inj haccounts
        obtain ⟨rfl, -⟩ := List.cons.inj htail
        obtain rfl := of_decide_eq_true hk
        refine ⟨a, hheld, ?_⟩
        rw [statuses, emitted, hevents, Adapter.toggle_of_status hstatus]
        simp [eventsOf, Event.statusOf, Adapter.withStatus]
    | _ => exact absurd h (by simp [Toggles])
  · exact absurd h (by simp [Toggles])

/-- Nothing else reports a status. -/
theorem statuses_of_not_toggles {action : Action} (h : Toggles C k ℓ action = false) :
    statuses C k ℓ action = [] := by
  cases action with
  | other programs => rfl
  | call w accounts call =>
      by_cases hok : (execute C w accounts call ℓ).result = .ok ()
      · cases call with
        | toggle_adapter =>
            -- the record that was toggled is another one
            obtain ⟨authority, adapter, rest, a, s, _, rfl, -, -, -, -, -, hevents, -⟩ :=
              execute_toggle_adapter hok
            have hne : adapter.pubkey ≠ k := by
              rintro rfl
              rw [Toggles, isOk_iff.mpr hok] at h
              exact absurd h (by simp)
            rw [statuses, emitted, hevents]
            simp [eventsOf, Event.statusOf, hne]
        | registry_init =>
            rw [statuses, emitted, events_of_setup (.inl rfl) hok]
            rfl
        | adapter_init args =>
            rw [statuses, emitted, events_of_setup (.inr ⟨args, rfl⟩) hok]
            rfl
        | deposit args =>
            obtain ⟨_, _, _, _, -, -, -, -, hevents⟩ := eventsOf_execute_route rfl hok
            rw [statuses, emitted, hevents]
            rfl
        | withdraw args =>
            obtain ⟨_, _, _, _, -, -, -, -, hevents⟩ := eventsOf_execute_route rfl hok
            rw [statuses, emitted, hevents]
            rfl
        | current_value =>
            obtain ⟨_, _, _, _, -, -, -, -, hevents⟩ := eventsOf_execute_route rfl hok
            rw [statuses, emitted, hevents]
            rfl
      · rw [statuses, emitted, (execute_of_not_ok hok).2]
        rfl

/-- The number of reports is the number of successful toggles. -/
theorem length_statusLog (ℓ : Ledger) (k : Pubkey) (actions : List Action) :
    (statusLog C k ℓ actions).length = countToggles C k ℓ actions := by
  refine Runs.length_log (I := fun _ => True) (fun _ _ _ => trivial) ?_ trivial actions
  intro ℓ action _
  cases h : Toggles C k ℓ action with
  | true =>
      obtain ⟨a, -, hstatuses⟩ := statuses_of_toggles h
      rw [hstatuses]
      rfl
  | false =>
      rw [statuses_of_not_toggles h]
      rfl

/-- **The log of a record** is the sequence of its statuses, one for each toggle. -/
theorem statusLog_of_held (h : heldAdapter (ℓ k) = some a) (actions : List Action) :
    statusLog C k ℓ actions =
      (List.range (countToggles C k ℓ actions)).map fun i => (Adapter.toggle^[i + 1] a).status := by
  induction actions generalizing ℓ a with
  | nil => rfl
  | cons action actions ih =>
      obtain ⟨htoggled, hkept⟩ := adapter_step (C := C) h action
      rw [statusLog, Runs.log, ← statusLog, countToggles, Runs.countMarked, ← countToggles]
      cases hmark : Toggles C k ℓ action with
      | true =>
          obtain ⟨b, hb, hstatuses⟩ := statuses_of_toggles hmark
          obtain rfl := Option.some.inj (h.symm.trans hb)
          rw [hstatuses, ih (htoggled hmark).2, if_pos rfl, Nat.add_comm, List.range_succ_eq_map,
            List.map_cons, List.map_map]
          rfl
      | false =>
          rw [statuses_of_not_toggles hmark, List.nil_append, ih (hkept hmark),
            if_neg Bool.false_ne_true, Nat.zero_add]

/-- Nothing is reported of a record that is not there in the end. -/
theorem statusLog_of_none {actions : List Action}
    (h : heldAdapter (ledgerAfter C ℓ actions k) = none) : statusLog C k ℓ actions = [] := by
  induction actions generalizing ℓ with
  | nil => rfl
  | cons action actions ih =>
      rw [statusLog, Runs.log, ← statusLog, ih h, List.append_nil]
      cases hmark : Toggles C k ℓ action with
      | true =>
          -- what is toggled is there, and stays
          obtain ⟨a, ha, -⟩ := statuses_of_toggles hmark
          obtain ⟨a', ha', -⟩ := persists_ledgerAfter (C := C) ℓ (action :: actions) k a ha
          exact absurd (h.symm.trans ha') (by simp)
      | false => exact statuses_of_not_toggles hmark

/-- The last report is the status that the record has. -/
theorem getLastD_statusLog (h : heldAdapter (ℓ k) = some a) {actions : List Action} {a' : Adapter}
    (h' : heldAdapter (ledgerAfter C ℓ actions k) = some a') :
    a'.status = (statusLog C k ℓ actions).getLastD a.status := by
  have hend := (adapter_run (C := C) h actions).symm.trans h'
  rw [statusLog_of_held h, ← Option.some.inj hend]
  cases countToggles C k ℓ actions with
  | zero => rfl
  | succ n => rw [List.range_succ, List.map_append, List.map_singleton, List.getLastD_concat]

/-- Up to its registration nothing is reported of a record. -/
theorem statusLog_of_registers {before : List Action} {action : Action}
    (h : Registers C k a (ledgerAfter C ℓ before) action) (after : List Action) :
    statusLog C k ℓ (before ++ action :: after) =
      statusLog C k (step C (ledgerAfter C ℓ before) action) after := by
  obtain ⟨w, initializer, adapter, rest, args, rfl, -, -, -, -, hnone, -⟩ := h
  have hfirst : statuses C k (ledgerAfter C ℓ before)
      (.call w (initializer :: adapter :: rest) (.adapter_init args)) = [] :=
    statuses_of_not_toggles (toggles_of_ne (by simp) k)
  rw [statusLog, Runs.log_append, ← statusLog, statusLog_of_none hnone, List.nil_append, Runs.log,
    hfirst]
  rfl

/-- **The event log tells the status.**  In every run from a ledger without data of the
dispatcher, and for every address `k`,

1. if there is a record at `k` in the end, its status is the last one that a `ToggleEvent`
   of the log reports for `k`, or, where there is none, the one it was registered with;
2. between its registration and the end, the log reports the statuses that the record
   went through, each of them once and in order;
3. there are as many reports as successful toggles, and none while there is no record. -/
theorem event_log (h₀ : NoData ℓ₀) (actions : List Action) (k : Pubkey) :
    (∀ a, heldAdapter (ledgerAfter C ℓ₀ actions k) = some a →
      ∃ before action after a₀, actions = before ++ action :: after ∧
        Registers C k a₀ (ledgerAfter C ℓ₀ before) action ∧
        statusLog C k ℓ₀ actions =
          (List.range (countToggles C k ℓ₀ actions)).map
            (fun i => (Adapter.toggle^[i + 1] a₀).status) ∧
        a.status = (statusLog C k ℓ₀ actions).getLastD a₀.status) ∧
    (statusLog C k ℓ₀ actions).length = countToggles C k ℓ₀ actions ∧
    (heldAdapter (ledgerAfter C ℓ₀ actions k) = none → statusLog C k ℓ₀ actions = []) := by
  refine ⟨?_, length_statusLog ℓ₀ k actions, statusLog_of_none⟩
  intro a h
  obtain ⟨before, action, after, a₀, rfl, hregisters, -⟩ := exists_registers h₀ h
  refine ⟨before, action, after, a₀, rfl, hregisters, ?_⟩
  obtain ⟨-, -, -, -, -, -, -, -, -, -, -, hheld, -⟩ := id hregisters
  have hlog := statusLog_of_registers hregisters after
  have hcount : countToggles C k ℓ₀ (before ++ action :: after) =
      countToggles C k (step C (ledgerAfter C ℓ₀ before) action) after := by
    rw [← length_statusLog, hlog, length_statusLog]
  have hend := h
  rw [ledgerAfter, Runs.run_append, Runs.run_cons] at hend
  rw [hcount, hlog]
  exact ⟨statusLog_of_held hheld after, getLastD_statusLog hheld hend⟩

/-- Registered `Active` and toggled once, the Drift adapter is what the log says last. -/
theorem event_log_toggleDrift :
    ∃ a, heldAdapter (ledgerAfter sampleCrypto genesis
        [openRegistry, registerDrift 0, toggleDrift] driftAddress) = some a ∧
      statusLog sampleCrypto driftAddress genesis [openRegistry, registerDrift 0, toggleDrift] =
        [a.status] := by
  obtain ⟨hlog, -, -⟩ := event_log (C := sampleCrypto) noData_genesis
    [openRegistry, registerDrift 0, toggleDrift] driftAddress
  have hheld : heldAdapter (ledgerAfter sampleCrypto genesis
      [openRegistry, registerDrift 0, toggleDrift] driftAddress) = some (driftRecord 1) := by
    decide +kernel
  have hone : statusLog sampleCrypto driftAddress genesis
      [openRegistry, registerDrift 0, toggleDrift] = [1] := by
    decide +kernel
  obtain ⟨-, -, -, a₀, -, -, -, hlast⟩ := hlog _ hheld
  rw [hone] at hlast ⊢
  exact ⟨_, hheld, by rw [hlast]; rfl⟩

end Log

end Dispatcher
