/-
# An adapter behind the dispatcher

A world in which one adapter is deployed, with any programs below it.  A routed
deposit or withdrawal then takes two hops, each of them a relay: the dispatcher
plans the instruction for the adapter, and the adapter plans the one for its
protocol.  At each hop the runtime looks for the account of the callee among those
that the caller has got.  Everything a routed call does is told in terms of the two
plans and of what the protocol does.
-/
import YieldAdapter.AbiRoundTrip

open Solana

namespace Dispatcher

/-! ## The two directions -/

/-- The direction in which a routed call moves funds. -/
inductive Direction where
  | deposit
  | withdraw
  deriving DecidableEq, Repr

namespace Direction

/-- The instruction of the dispatcher. -/
def call (amount : UInt64) (extra_data : List UInt8) : Direction → Call
  | .deposit => .deposit ⟨amount, extra_data⟩
  | .withdraw => .withdraw ⟨amount, extra_data⟩

/-- Its route. -/
def route (amount : UInt64) (extra_data : List UInt8) : Direction → Route
  | .deposit => Deposit.route ⟨amount, extra_data⟩
  | .withdraw => Withdraw.route ⟨amount, extra_data⟩

/-- The event of the dispatcher. -/
def event (authority program_id : Pubkey) (amount : UInt64) : Direction → Event
  | .deposit => .DepositEvent authority program_id amount
  | .withdraw => .WithdrawEvent authority program_id amount

/-- The flow of an adapter. -/
def flow (A : AdapterProgram) : Direction → AdapterFlow
  | .deposit => A.deposit
  | .withdraw => A.withdraw

/-- The event of an adapter. -/
def adapterEvent (authority program_id : Pubkey) (amount : UInt64) : Direction → Event
  | .deposit => .AdapterDepositEvent authority program_id amount
  | .withdraw => .AdapterWithdrawEvent authority program_id amount

variable {amount : UInt64} {extra_data : List UInt8}

theorem route_call (d : Direction) :
    (d.call amount extra_data).route = some (d.route amount extra_data) := by
  cases d <;> rfl

theorem after_route (d : Direction) (ctx : Routed) :
    (d.route amount extra_data).after ctx =
      Exec.emit (d.event ctx.signer.key ctx.adapter.program_id amount) := by
  cases d <;> rfl

theorem validate_route_eq_ok {d : Direction} {adapter : Adapter} :
    (d.route amount extra_data).validate adapter = .ok () ↔
      adapter.status = AdapterStatus.Active.as_u8 ∧
        extra_data.length ≤ EXTRA_DATA_MAX_LEN := by
  cases d with
  | deposit => exact Deposit.validate_eq_ok
  | withdraw => exact Withdraw.validate_eq_ok

end Direction

/-! ## The world of a deployed adapter -/

/-- The adapter, its protocol and the dispatcher are different programs. -/
structure Separate (A : AdapterProgram) : Prop where
  ID_ne : A.ID ≠ ID
  PROGRAM_ID_ne : A.PROGRAM_ID ≠ ID
  PROGRAM_ID_ne_self : A.PROGRAM_ID ≠ A.ID

theorem separate_reference (X : ThirdParty) (A : Reference) : Separate (A.program X) := by
  cases A with
  | kamino =>
      exact ⟨(by decide : KaminoAdapter.ID ≠ ID), (by decide : KaminoAdapter.PROGRAM_ID ≠ ID),
        (by decide : KaminoAdapter.PROGRAM_ID ≠ KaminoAdapter.ID)⟩
  | marginfi =>
      exact ⟨(by decide : MarginfiAdapter.ID ≠ ID), (by decide : MarginfiAdapter.PROGRAM_ID ≠ ID),
        (by decide : MarginfiAdapter.PROGRAM_ID ≠ MarginfiAdapter.ID)⟩
  | jupiter =>
      exact ⟨(by decide : JupiterAdapter.ID ≠ ID), (by decide : JupiterAdapter.PROGRAM_ID ≠ ID),
        (by decide : JupiterAdapter.PROGRAM_ID ≠ JupiterAdapter.ID)⟩
  | maple =>
      exact ⟨(by decide : MapleAdapter.ID ≠ ID), (by decide : MapleAdapter.PROGRAM_ID ≠ ID),
        (by decide : MapleAdapter.PROGRAM_ID ≠ MapleAdapter.ID)⟩
  | drift =>
      exact ⟨(by decide : DriftAdapter.ID ≠ ID), (by decide : DriftAdapter.PROGRAM_ID ≠ ID),
        (by decide : DriftAdapter.PROGRAM_ID ≠ DriftAdapter.ID)⟩

/-- The programs other than the dispatcher and the adapter.  They do not re-enter
these two. -/
structure Below (A : AdapterProgram) where
  call : Instruction → Machine Event → Except Error Unit × Machine Event
  foreign : ∀ ix m, ix.program_id ≠ ID → ix.program_id ≠ A.ID →
    Foreign ID m (call ix m).2 ∧ Foreign A.ID m (call ix m).2

/-- Programs that return at once. -/
def quietBelow (A : AdapterProgram) : Below A :=
  ⟨fun _ m => (.ok (), m), fun _ m _ _ => ⟨Foreign.refl m, Foreign.refl m⟩⟩

section World

variable {A : AdapterProgram}

/-- The entry points of an adapter do not involve `p`, if its protocol does not. -/
theorem foreign_entry {e : Env YieldError Event} {p : Pubkey} (hself : e.program_id ≠ p)
    (hcall : ∀ ix m, ix.program_id = A.PROGRAM_ID → Foreign p m (e.call ix m).2)
    (accounts : List AccountInfo) (data : List UInt8) :
    Exec.Within e (Foreign p) (A.entry accounts data) := by
  have hlift : ∀ {α : Type} (r : Except Error α),
      Exec.Within e (Foreign p) (Exec.lift r : Prog α) := fun r => Exec.Within.lift Foreign.refl r
  have hbind : ∀ {α β : Type} {x : Prog α} {f : α → Prog β}, Exec.Within e (Foreign p) x →
      (∀ a, Exec.Within e (Foreign p) (f a)) → Exec.Within e (Foreign p) (x >>= f) :=
    Exec.Within.bind (R := Foreign p) fun _ _ _ h h' => h.trans h'
  have hplanned : ∀ (f : AdapterFlow) amount extra_data ix report m,
      f.plan A.PROGRAM_ID accounts amount extra_data = .ok (ix, report) →
        Foreign p m (e.call ix m).2 := by
    intro f amount extra_data ix report m hplan
    obtain ⟨ctx, -, -, payload, -, -, -, -, rfl, -⟩ := AdapterFlow.plan_eq_ok.mp hplan
    exact hcall _ m rfl
  refine hbind (hlift _) fun call => ?_
  rcases call with ⟨args | args | _, rest⟩
  · exact Foreign.relay hself (hplanned A.deposit _ _) fun _ => Foreign.emit hself _
  · exact Foreign.relay hself (hplanned A.withdraw _ _) fun _ => Foreign.emit hself _
  · refine hbind (hlift _) fun ctx => hbind (hlift _) fun value => ?_
    exact hbind (Foreign.set_return_data _) fun _ => Foreign.emit hself _

/-- The world in which the adapter is deployed. -/
def deployed (unix_timestamp : Int64) (hA : Separate A) (below : Below A) : World where
  unix_timestamp := unix_timestamp
  programs :=
    { call := fun ix m =>
        if ix.program_id = A.ID then enter A.entry unix_timestamp below.call ix m
        else below.call ix m
      foreign := by
        intro ix m hother
        by_cases hadapter : ix.program_id = A.ID
        · rw [if_pos hadapter]
          have hreset : Foreign ID m { m with return_data := (ix.program_id, []) } :=
            ⟨.refl _ _, ⟨[], by simp⟩, ⟨[], by simp⟩⟩
          refine hreset.trans (foreign_entry hother ?_ _ _ _)
          intro ix' m' hprotocol
          exact findCallee_related (Foreign.refl m')
            (below.foreign ix' m' (by rw [hprotocol]; exact hA.PROGRAM_ID_ne)
              (by rw [hprotocol]; exact hA.PROGRAM_ID_ne_self)).1
        · rw [if_neg hadapter]
          exact (below.foreign ix m hother hadapter).1 }

theorem call_deployed {t : Int64} {hA : Separate A} {below : Below A} {ix : Instruction}
    {m : Machine Event} (h : ix.program_id = A.ID) :
    (deployed t hA below).programs.call ix m = enter A.entry t below.call ix m := if_pos h

theorem call_deployed_of_ne {t : Int64} {hA : Separate A} {below : Below A} {ix : Instruction}
    {m : Machine Event} (h : ix.program_id ≠ A.ID) :
    (deployed t hA below).programs.call ix m = below.call ix m := if_neg h

/-- **Entering the adapter with a routed call** is running the relay of its flow. -/
theorem enter_flow {d : Direction} {amount : UInt64} {extra_data : List UInt8}
    {t : Int64} {call : Instruction → Machine Event → Except Error Unit × Machine Event}
    {ix : Instruction} {m : Machine Event} (hdata : ix.data = (d.route amount extra_data).data)
    (hfits : extra_data.length ≤ EXTRA_DATA_MAX_LEN) :
    enter A.entry t call ix m =
      relay ((d.flow A).plan A.PROGRAM_ID (cpiAccounts m.ledger ix.accounts) amount extra_data)
        (fun report => Exec.emit (d.adapterEvent report.authority A.PROGRAM_ID report.amount))
        ⟨ix.program_id, t, findCallee (ix.accounts.map AccountMeta.pubkey) call⟩
        { m with return_data := (ix.program_id, []) } := by
  rw [enter, hdata, AdapterProgram.entry]
  cases d with
  | deposit =>
      have hdecode : AdapterCall.decode (Deposit.data ⟨amount, extra_data⟩) = _ :=
        decode_deposit_data hfits
      exact congrFun₂ (adapterEntry_of_decode hdecode _) _ _
  | withdraw =>
      have hdecode : AdapterCall.decode (Withdraw.data ⟨amount, extra_data⟩) = _ :=
        decode_withdraw_data hfits
      exact congrFun₂ (adapterEntry_of_decode hdecode _) _ _

end World

/-! ## The two hops -/

section Hops

variable {C : Crypto} {t : Int64} {A : AdapterProgram} {hA : Separate A} {below : Below A}
  {d : Direction} {amount : UInt64} {extra_data : List UInt8} {accounts : List AccountMeta}
  {ℓ : Ledger} {ix : Instruction} {ctx : Routed}

/-- The plan of the adapter, when the dispatcher calls it with `ix`. -/
def Direction.planBelow (d : Direction) (A : AdapterProgram) (amount : UInt64)
    (extra_data : List UInt8) (ix : Instruction) (ℓ : Ledger) :
    Except Error (Instruction × Report) :=
  (d.flow A).plan A.PROGRAM_ID (cpiAccounts ℓ ix.accounts) amount extra_data

/-- The machine on which the protocol is called. -/
def atProtocol (A : AdapterProgram) (ix ix' : Instruction) (ℓ : Ledger) : Machine Event :=
  ⟨ℓ, (A.ID, []), [], [(ID, ix), (A.ID, ix')]⟩

/-- How the adapter's call is carried out, when it was called with `ix`. -/
def Below.callFrom (below : Below A) (ix : Instruction) :
    Instruction → Machine Event → Except Error Unit × Machine Event :=
  findCallee (ix.accounts.map AccountMeta.pubkey) below.call

/-- **The second hop**: what the dispatcher's call to the adapter amounts to. -/
theorem env_call_deployed
    (hplan : (d.route amount extra_data).planAt C accounts ℓ = .ok (ix, ctx))
    (hlisted : A.ID ∈ accounts.map AccountMeta.pubkey) (hadapter : ix.program_id = A.ID) :
    (env C (deployed t hA below) accounts).call ix ((Machine.start ID ℓ).called ID ix) =
      relay (d.planBelow A amount extra_data ix ℓ)
        (fun report => Exec.emit (d.adapterEvent report.authority A.PROGRAM_ID report.amount))
        ⟨A.ID, t, below.callFrom ix⟩ ⟨ℓ, (A.ID, []), [], [(ID, ix)]⟩ := by
  obtain ⟨_, _, _, -, -, -, -, -, hvalidate, -, hix⟩ := Route.planAt_eq_ok.mp hplan
  have hfits := (Direction.validate_route_eq_ok.mp hvalidate).2
  have hdata : ix.data = (d.route amount extra_data).data := by rw [hix]
  rw [env_call_other (by rw [hadapter]; exact hlisted) (by rw [hadapter]; exact hA.ID_ne),
    call_deployed hadapter, enter_flow hdata hfits, hadapter]
  rfl

/-- **When the adapter has no plan**, the call fails there, and the dispatcher's call
is the only one. -/
theorem execute_deployed_of_error {e : Error}
    (hplan : (d.route amount extra_data).planAt C accounts ℓ = .ok (ix, ctx))
    (hlisted : A.ID ∈ accounts.map AccountMeta.pubkey) (hadapter : ix.program_id = A.ID)
    (hbelow : d.planBelow A amount extra_data ix ℓ = .error e) :
    execute C (deployed t hA below) accounts (d.call amount extra_data) ℓ =
      ⟨.error e, ℓ, [], (ID, []), [(ID, ix)]⟩ := by
  rw [execute_of_route d.route_call]
  refine transact_relay_of_call_error (m := ⟨ℓ, (A.ID, []), [], [(ID, ix)]⟩) hplan ?_
  exact (env_call_deployed hplan hlisted hadapter).trans (relay_of_error hbelow)

/-- **When the adapter has a plan** and its call fails, so does the dispatcher's. -/
theorem execute_deployed_of_protocol_error {ix' : Instruction} {report : Report} {e : Error}
    {m : Machine Event}
    (hplan : (d.route amount extra_data).planAt C accounts ℓ = .ok (ix, ctx))
    (hlisted : A.ID ∈ accounts.map AccountMeta.pubkey) (hadapter : ix.program_id = A.ID)
    (hbelow : d.planBelow A amount extra_data ix ℓ = .ok (ix', report))
    (hprotocol : below.callFrom ix ix' (atProtocol A ix ix' ℓ) = (.error e, m)) :
    execute C (deployed t hA below) accounts (d.call amount extra_data) ℓ =
      ⟨.error e, ℓ, [], (ID, []), m.calls⟩ := by
  rw [execute_of_route d.route_call]
  refine transact_relay_of_call_error (m := m) hplan ?_
  refine (env_call_deployed hplan hlisted hadapter).trans ?_
  have hcall : (⟨A.ID, t, below.callFrom ix⟩ : Env YieldError Event).call ix'
      (Machine.called ⟨ℓ, (A.ID, []), [], [(ID, ix)]⟩ A.ID ix') = (.error e, m) := hprotocol
  rw [relay_of_ok hbelow, hcall]

/-- **When the adapter has a plan** and the protocol returns, both programs emit their
events. -/
theorem execute_deployed_of_protocol_ok {ix' : Instruction} {report : Report}
    {m : Machine Event}
    (hplan : (d.route amount extra_data).planAt C accounts ℓ = .ok (ix, ctx))
    (hlisted : A.ID ∈ accounts.map AccountMeta.pubkey) (hadapter : ix.program_id = A.ID)
    (hbelow : d.planBelow A amount extra_data ix ℓ = .ok (ix', report))
    (hprotocol : below.callFrom ix ix' (atProtocol A ix ix' ℓ) = (.ok (), m)) :
    execute C (deployed t hA below) accounts (d.call amount extra_data) ℓ =
      ⟨.ok (), m.ledger, m.events ++
        [(A.ID, d.adapterEvent report.authority A.PROGRAM_ID report.amount),
          (ID, d.event ctx.signer.key ctx.adapter.program_id amount)],
        m.return_data, m.calls⟩ := by
  rw [execute_of_route d.route_call]
  have hcall : (⟨A.ID, t, below.callFrom ix⟩ : Env YieldError Event).call ix'
      (Machine.called ⟨ℓ, (A.ID, []), [], [(ID, ix)]⟩ A.ID ix') = (.ok (), m) := hprotocol
  have hreturns : (env C (deployed t hA below) accounts).call ix
      ((Machine.start ID ℓ).called ID ix) =
      (.ok (), m.emit A.ID (d.adapterEvent report.authority A.PROGRAM_ID report.amount)) := by
    rw [env_call_deployed hplan hlisted hadapter, relay_of_ok hbelow, hcall]
    rfl
  -- the dispatcher's event comes last, since it is emitted when the adapter has returned
  have hafter : (d.route amount extra_data).after ctx (env C (deployed t hA below) accounts)
      (m.emit A.ID (d.adapterEvent report.authority A.PROGRAM_ID report.amount)) =
      (.ok (), (m.emit A.ID (d.adapterEvent report.authority A.PROGRAM_ID report.amount)).emit ID
        (d.event ctx.signer.key ctx.adapter.program_id amount)) := by
    rw [d.after_route]
    rfl
  rw [transact_relay_of_call_ok hplan hreturns hafter]
  simp [Machine.emit]

/-- **What the adapter plans**, in terms of what the dispatcher was given: the protocol
gets the accounts behind the caller, with the flags that they have inside the call. -/
theorem planBelow_eq_ok {ix' : Instruction} {report : Report}
    (hplan : (d.route amount extra_data).planAt C accounts ℓ = .ok (ix, ctx))
    (hbelow : d.planBelow A amount extra_data ix ℓ = .ok (ix', report)) :
    ∃ context selector tail payload,
      (d.flow A).validate context extra_data = .ok () ∧ extra_data = selector :: tail ∧
      (d.flow A).dispatch selector amount extra_data = .ok payload ∧
      ix' = ⟨A.PROGRAM_ID, (mergeFlags ix.accounts).drop 1, payload.data⟩ ∧
      report = ⟨ctx.signer.key, payload.amount⟩ := by
  -- the adapter's accounts struct takes the caller that the dispatcher put in front
  obtain ⟨signer, _, _, -, -, -, -, -, -, hctx, hix⟩ := Route.planAt_eq_ok.mp hplan
  obtain ⟨context, selector, tail, payload, hcontext, hvalidate, htail, hdispatch, hix', hreport⟩ :=
    AdapterFlow.plan_eq_ok.mp hbelow
  obtain ⟨haccounts, -, -⟩ := Context.try_accounts_eq_ok.mp hcontext
  have hremaining : context.remaining_accounts = (cpiAccounts ℓ ix.accounts).drop 1 := by
    rw [haccounts]
    rfl
  have hauthority : context.authority.key = ctx.signer.key := by
    rw [hix, cpiAccounts_new_readonly] at haccounts
    rw [← (List.cons.inj haccounts).1, hctx]
    rfl
  refine ⟨context, selector, tail, payload, hvalidate, htail, hdispatch, ?_, ?_⟩
  · rw [hix', hremaining, cpiAccounts, ← List.map_drop, map_toMeta_load]
  · rw [hreport, hauthority]

/-- A call for another adapter does not involve this one. -/
theorem foreign_env_of_ne (hdata : ForAdapter ix.data) (hother : ix.program_id ≠ A.ID)
    (m : Machine Event) :
    Foreign A.ID m ((env C (deployed t hA below) accounts).call ix m).2 := by
  by_cases hlisted : ix.program_id ∈ accounts.map AccountMeta.pubkey
  · by_cases hself : ix.program_id = ID
    · have hrefused := cpi_self (C := C) (w := deployed t hA below) (m := m) hself hdata 3
      rw [show (env C (deployed t hA below) accounts).call ix m = _ from
        (findCallee_of_mem hlisted).trans hrefused]
      exact ⟨.refl _ _, ⟨[], by simp⟩, ⟨[], by simp⟩⟩
    · rw [env_call_other hlisted hself, call_deployed_of_ne hother]
      exact (below.foreign ix m hself hother).2
  · rw [env_call_unlisted hlisted]
    exact Foreign.refl m

variable (below ix) in
/-- What the protocol does does not involve the dispatcher or the adapter. -/
theorem foreign_callFrom {ix' : Instruction} (hprotocol : ix'.program_id = A.PROGRAM_ID)
    (hA : Separate A) (m : Machine Event) :
    Foreign ID m (below.callFrom ix ix' m).2 ∧ Foreign A.ID m (below.callFrom ix ix' m).2 := by
  have hforeign := below.foreign ix' m (by rw [hprotocol]; exact hA.PROGRAM_ID_ne)
    (by rw [hprotocol]; exact hA.PROGRAM_ID_ne_self)
  exact ⟨findCallee_related (Foreign.refl m) hforeign.1,
    findCallee_related (Foreign.refl m) hforeign.2⟩

/-- **The adapter's calls** are the ones it plans; nothing else is called in its name. -/
theorem calls_deployed {c : Pubkey × Instruction}
    (hc : c ∈ (execute C (deployed t hA below) accounts (d.call amount extra_data) ℓ).calls)
    (hcaller : c.1 = A.ID) :
    ∃ ix ctx report, (d.route amount extra_data).planAt C accounts ℓ = .ok (ix, ctx) ∧
      A.ID ∈ accounts.map AccountMeta.pubkey ∧ ix.program_id = A.ID ∧
      d.planBelow A amount extra_data ix ℓ = .ok (c.2, report) := by
  have hdispatcher : ∀ ix, c ≠ (ID, ix) := by
    rintro ix rfl
    exact hA.ID_ne hcaller.symm
  rcases hplan : (d.route amount extra_data).planAt C accounts ℓ with e | ⟨ix, ctx⟩
  · rw [execute_route_of_error d.route_call hplan] at hc
    exact absurd hc (by simp)
  by_cases hadapter : ix.program_id = A.ID
  · by_cases hlisted : A.ID ∈ accounts.map AccountMeta.pubkey
    · -- the adapter calls what it plans, and the programs below call in their own names
      rcases hbelow : d.planBelow A amount extra_data ix ℓ with e | ⟨ix', report⟩
      · rw [execute_deployed_of_error hplan hlisted hadapter hbelow] at hc
        exact absurd (List.mem_singleton.mp hc) (hdispatcher ix)
      · refine ⟨ix, ctx, report, rfl, hlisted, hadapter, ?_⟩
        obtain ⟨_, _, _, _, -, -, -, hix', -⟩ := planBelow_eq_ok hplan hbelow
        have hprotocol : ix'.program_id = A.PROGRAM_ID := by rw [hix']
        obtain ⟨cs, hcs, hforeign⟩ :=
          (foreign_callFrom below ix hprotocol hA (atProtocol A ix ix' ℓ)).2.calls
        have hmem : c ∈ (below.callFrom ix ix' (atProtocol A ix ix' ℓ)).2.calls := by
          rcases hrun : below.callFrom ix ix' (atProtocol A ix ix' ℓ) with ⟨e | ⟨⟩, m⟩
          · rw [execute_deployed_of_protocol_error hplan hlisted hadapter hbelow hrun] at hc
            exact hc
          · rw [execute_deployed_of_protocol_ok hplan hlisted hadapter hbelow hrun] at hc
            exact hc
        rw [hcs] at hmem
        rcases List.mem_append.mp hmem with hmem | hmem
        · rcases List.mem_pair.mp hmem with rfl | rfl
          · exact absurd rfl (hdispatcher ix)
          · exact hbelow
        · exact absurd hcaller (hforeign c hmem)
    · rw [execute_route_unlisted d.route_call hplan (by rw [hadapter]; exact hlisted)] at hc
      exact absurd (List.mem_singleton.mp hc) (hdispatcher ix)
  · -- the record names another program, and what that one calls is not the adapter's
    have hdata : ForAdapter ix.data := by
      obtain ⟨_, _, _, -, -, -, -, -, -, -, hix⟩ := Route.planAt_eq_ok.mp hplan
      rw [hix]
      exact Call.forAdapter_of_route d.route_call
    have hcalls : ∃ cs, (execute C (deployed t hA below) accounts (d.call amount extra_data)
        ℓ).calls = [(ID, ix)] ++ cs ∧ ∀ c ∈ cs, c.1 ≠ A.ID := by
      rw [execute_of_route d.route_call, calls_transact_relay_of_ok
        (fun ctx' m => (Call.after_frame d.route_call ctx' _ m).1) hplan]
      exact (foreign_env_of_ne hdata hadapter _).calls
    obtain ⟨cs, hcs, hforeign⟩ := hcalls
    rw [hcs] at hc
    rcases List.mem_append.mp hc with hmem | hmem
    · exact absurd (List.mem_singleton.mp hmem) (hdispatcher ix)
    · exact absurd hcaller (hforeign c hmem)

end Hops

end Dispatcher
