/-
# Two events for one movement of funds

When a routed deposit or withdrawal succeeds, the dispatcher and the adapter have each
emitted one event.  The two agree on who moved the funds.  They agree on the amount
too, but for the two functions of Drift that move no amount: there the adapter reports
zero, whatever amount the dispatcher was given.
-/
import YieldAdapter.SelectorTables

open Solana

namespace Dispatcher

/-! ## Events by program -/

/-- The events that a program has emitted. -/
def eventsOf (p : Pubkey) (es : List (Pubkey × Event)) : List Event :=
  (es.filter fun e => e.1 = p).map Prod.snd

/-- Nothing is emitted in the name of a program that is not involved. -/
theorem eventsOf_of_foreign {p : Pubkey} {m m' : Machine Event} (h : Foreign p m m') :
    eventsOf p m'.events = eventsOf p m.events := by
  obtain ⟨es, hes, hforeign⟩ := h.events
  have hnone : es.filter (fun e => e.1 = p) = [] := by
    rw [List.filter_eq_nil_iff]
    intro e he
    rw [decide_eq_true_eq]
    exact hforeign e he
  rw [eventsOf, hes, List.filter_append, hnone, List.append_nil, eventsOf]

/-- One event each, of two programs. -/
theorem eventsOf_append_pair {p q : Pubkey} (hne : p ≠ q) (es : List (Pubkey × Event))
    (ev ev' : Event) :
    eventsOf p (es ++ [(p, ev), (q, ev')]) = eventsOf p es ++ [ev] ∧
      eventsOf q (es ++ [(p, ev), (q, ev')]) = eventsOf q es ++ [ev'] := by
  simp [eventsOf, List.filter_append, hne, hne.symm]

/-! ## Amounts -/

/-- The amount that an adapter reports: none, for the functions of Drift that move
none. -/
def reportedAmount (A : Reference) (selector : UInt8) (amount : UInt64) : UInt64 :=
  if A = .drift ∧ selector = 2 then 0 else amount

/-- Every function but those two reports the amount it is given. -/
theorem amount_dispatch {X : ThirdParty} {A : Reference} {d : Direction} {selector : UInt8}
    {amount : UInt64} {tail : List UInt8} {payload : Payload}
    (h : (d.flow (A.program X)).dispatch selector amount (selector :: tail) = .ok payload) :
    payload.amount = reportedAmount A selector amount := by
  by_cases hA : A = .drift
  · subst hA
    cases d with
    | deposit =>
        obtain ⟨rfl, -, rfl⟩ | ⟨rfl, rfl⟩ | ⟨rfl, rfl⟩ :=
          DriftAdapter.AdapterDeposit_dispatch_eq_ok.mp h <;> rfl
    | withdraw =>
        obtain ⟨rfl, -, rfl⟩ | ⟨rfl, -, rfl⟩ | ⟨rfl, -, rfl⟩ :=
          DriftAdapter.AdapterWithdraw_dispatch_eq_ok.mp h <;> rfl
  · obtain ⟨entry, -, -, rfl⟩ := (dispatch_eq_ok_iff hA).mp h
    rw [reportedAmount, if_neg fun hdrift => hA hdrift.1]

/-! ## Agreement -/

/-- The plan of a call names the caller and the record that is given. -/
theorem plan_of_held {C : Crypto} {r : Route} {signer adapter : AccountMeta}
    {remaining : List AccountMeta} {ℓ : Ledger} {a : Adapter} {ix : Instruction} {ctx : Routed}
    (hheld : heldAdapter (ℓ adapter.pubkey) = some a)
    (hplan : r.planAt C (signer :: adapter :: remaining) ℓ = .ok (ix, ctx)) :
    ctx.signer.key = signer.pubkey ∧ ctx.adapter = a ∧ ix.program_id = a.program_id := by
  obtain ⟨signer', adapter', remaining', haccounts, -, -, hheld', -, -, hctx, hix⟩ :=
    Route.planAt_eq_ok.mp hplan
  obtain ⟨hsigner, htail⟩ := List.cons.inj haccounts
  obtain ⟨rfl, -⟩ := List.cons.inj htail
  have hrecord : ctx.adapter = a := Option.some.inj (hheld'.symm.trans hheld)
  refine ⟨?_, hrecord, ?_⟩
  · rw [hctx, hsigner]
    rfl
  · rw [hix, hrecord]

/-- The events of a call that succeeds, in terms of the dispatcher's plan. -/
theorem events_of_plan {X : ThirdParty} {A : Reference} {C : Crypto} {t : Int64}
    {below : Below (A.program X)} {d : Direction} {amount : UInt64} {extra_data : List UInt8}
    {accounts : List AccountMeta} {ℓ : Ledger} {ix : Instruction} {ctx : Routed}
    (hplan : (d.route amount extra_data).planAt C accounts ℓ = .ok (ix, ctx))
    (hadapter : ix.program_id = (A.program X).ID)
    (hsuccess : (execute C (deployed t (separate_reference X A) below) accounts
      (d.call amount extra_data) ℓ).result = .ok ()) :
    let out := execute C (deployed t (separate_reference X A) below) accounts
      (d.call amount extra_data) ℓ
    ∃ selector tail, extra_data = selector :: tail ∧
      eventsOf ID out.events = [d.event ctx.signer.key ctx.adapter.program_id amount] ∧
      eventsOf (A.program X).ID out.events =
        [d.adapterEvent ctx.signer.key (A.program X).PROGRAM_ID
          (reportedAmount A selector amount)] := by
  intro out
  have hA := separate_reference X A
  -- success leaves one case: the adapter was found, had a plan and the protocol returned
  have hlisted : (A.program X).ID ∈ accounts.map AccountMeta.pubkey :=
    hadapter ▸ passed_of_execute_route d.route_call hplan hsuccess
  rcases hbelow : d.planBelow (A.program X) amount extra_data ix ℓ with e | ⟨ix', report⟩
  · rw [execute_deployed_of_error hplan hlisted hadapter hbelow] at hsuccess
    exact absurd hsuccess (by simp)
  · obtain ⟨_, selector, tail, payload, -, htail, hdispatch, hix', hreport⟩ :=
      planBelow_eq_ok hplan hbelow
    have hprotocol : ix'.program_id = (A.program X).PROGRAM_ID := by rw [hix']
    have hbelow_foreign :=
      foreign_callFrom below ix hprotocol hA (atProtocol (A.program X) ix ix' ℓ)
    rcases hrun : below.callFrom ix ix' (atProtocol (A.program X) ix ix' ℓ) with ⟨e | ⟨⟩, m⟩
    · rw [execute_deployed_of_protocol_error hplan hlisted hadapter hbelow hrun] at hsuccess
      exact absurd hsuccess (by simp)
    · have hout : out = ⟨.ok (), m.ledger, m.events ++
          [((A.program X).ID, d.adapterEvent report.authority (A.program X).PROGRAM_ID
            report.amount), (ID, d.event ctx.signer.key ctx.adapter.program_id amount)],
          m.return_data, m.calls⟩ :=
        execute_deployed_of_protocol_ok hplan hlisted hadapter hbelow hrun
      rw [hrun] at hbelow_foreign
      obtain ⟨hadapter_event, hdispatcher_event⟩ := eventsOf_append_pair hA.ID_ne m.events
        (d.adapterEvent report.authority (A.program X).PROGRAM_ID report.amount)
        (d.event ctx.signer.key ctx.adapter.program_id amount)
      refine ⟨selector, tail, htail, ?_, ?_⟩
      · rw [hout, hdispatcher_event, eventsOf_of_foreign hbelow_foreign.1]
        rfl
      · rw [hout, hadapter_event, eventsOf_of_foreign hbelow_foreign.2, hreport,
          amount_dispatch (htail ▸ hdispatch)]
        rfl

/-- **Event agreement.**  A call that is routed to an adapter and succeeds emits one
event of the dispatcher and one of the adapter, with the same authority, and with the
same amount but where the adapter reports none; a call that fails commits no event. -/
theorem event_agreement {X : ThirdParty} {A : Reference} {C : Crypto} {t : Int64}
    {below : Below (A.program X)} {d : Direction} {amount : UInt64} {extra_data : List UInt8}
    {signer adapter : AccountMeta} {remaining : List AccountMeta} {ℓ : Ledger} {a : Adapter}
    (hheld : heldAdapter (ℓ adapter.pubkey) = some a) (ha : a.program_id = (A.program X).ID) :
    let out := execute C (deployed t (separate_reference X A) below)
      (signer :: adapter :: remaining) (d.call amount extra_data) ℓ
    (out.result = .ok () → ∃ selector tail, extra_data = selector :: tail ∧
      eventsOf ID out.events = [d.event signer.pubkey (A.program X).ID amount] ∧
      eventsOf (A.program X).ID out.events =
        [d.adapterEvent signer.pubkey (A.program X).PROGRAM_ID
          (reportedAmount A selector amount)]) ∧
    (out.result ≠ .ok () → out.events = []) := by
  intro out
  refine ⟨fun hsuccess => ?_, fun hfailure => (transact_of_not_ok hfailure).2⟩
  rcases hplan : (d.route amount extra_data).planAt C (signer :: adapter :: remaining) ℓ with
    e | ⟨ix, ctx⟩
  · have hout : out = ⟨.error e, ℓ, [], (ID, []), []⟩ := execute_route_of_error d.route_call hplan
    rw [hout] at hsuccess
    exact absurd hsuccess (by simp)
  · obtain ⟨hsigner, hrecord, hprogram⟩ := plan_of_held hheld hplan
    obtain ⟨selector, tail, htail, hdispatcher, hadapter⟩ :=
      events_of_plan hplan (hprogram.trans ha) hsuccess
    rw [hsigner, hrecord, ha] at hdispatcher
    rw [hsigner] at hadapter
    exact ⟨selector, tail, htail, hdispatcher, hadapter⟩

/-! ## An amount that is not moved -/

/-- Both programs report the same amount of the same authority. -/
def EventsAgree (A : AdapterProgram) (d : Direction) (es : List (Pubkey × Event)) : Prop :=
  ∃ authority amount, eventsOf ID es = [d.event authority A.ID amount] ∧
    eventsOf A.ID es = [d.adapterEvent authority A.PROGRAM_ID amount]

/-- Initializing an insurance fund stake with the amount 5: the dispatcher reports a
deposit of 5, the adapter one of 0. -/
theorem events_not_agree :
    let out := execute sampleCrypto
      (deployed 1700000000 (separate_reference sampleThirdParty .drift) (quietBelow _))
      (driftAccounts (⟨INITIALIZER, true, true⟩ :: driftPrograms))
      (Direction.deposit.call 5 [2]) sampleLedger
    out.result = .ok () ∧ ¬ EventsAgree DriftAdapter.program .deposit out.events := by
  intro out
  have hevents : out.events =
      [(DriftAdapter.ID, .AdapterDepositEvent INITIALIZER DriftAdapter.PROGRAM_ID 0),
        (ID, .DepositEvent INITIALIZER DriftAdapter.ID 5)] := by
    decide +kernel
  refine ⟨by decide +kernel, ?_⟩
  rw [hevents]
  rintro ⟨authority, amount, hdispatcher, hadapter⟩
  have hfive : 5 = amount := by
    injection (List.cons.inj hdispatcher).1
  have hzero : 0 = amount := by
    injection (List.cons.inj hadapter).1
  exact absurd (hfive.trans hzero.symm) (by decide)

/-- Depositing 5 into a spot market: both events say 5. -/
theorem event_agreement_drift :
    let out := execute sampleCrypto
      (deployed 1700000000 (separate_reference sampleThirdParty .drift) (quietBelow _))
      (driftAccounts (⟨INITIALIZER, true, true⟩ :: driftPrograms))
      (Direction.deposit.call 5 [0, 1, 0]) sampleLedger
    eventsOf ID out.events = [.DepositEvent INITIALIZER DriftAdapter.ID 5] ∧
      eventsOf DriftAdapter.ID out.events =
        [.AdapterDepositEvent INITIALIZER DriftAdapter.PROGRAM_ID 5] := by
  intro out
  have hheld : heldAdapter (sampleLedger (⟨driftAddress, false, false⟩ : AccountMeta).pubkey) =
      some (driftRecord 0) := by
    decide +kernel
  have hsuccess : out.result = .ok () := by
    decide +kernel
  obtain ⟨selector, tail, htail, hdispatcher, hadapter⟩ :=
    (event_agreement (X := sampleThirdParty) (A := .drift) hheld rfl).1 hsuccess
  obtain rfl := (List.cons.inj htail).1
  exact ⟨hdispatcher, hadapter⟩

end Dispatcher
