/-
# The adapters side by side

All the adapters of the repository deployed at once, the mock adapter of its tests among
them, with any programs from outside around them.  A routed call is carried out by the
adapter that its record names, if its account is passed: a reference adapter does what it
would do if it were deployed alone, and what the mock adapter does is told in full.
-/
import YieldAdapter.Environments
import YieldAdapter.EventAgreement
import YieldAdapter.GenuinePositions
import YieldAdapter.RefusalTable

open Solana

namespace Dispatcher

/-! ## Addresses -/

namespace RepositoryAdapter

/-- `declare_id!`. -/
def ID : RepositoryAdapter → Pubkey
  | .mock => MockAdapter.ID
  | .reference .kamino => KaminoAdapter.ID
  | .reference .marginfi => MarginfiAdapter.ID
  | .reference .jupiter => JupiterAdapter.ID
  | .reference .maple => MapleAdapter.ID
  | .reference .drift => DriftAdapter.ID

theorem ID_reference (X : ThirdParty) (A : Reference) : (A.program X).ID = (reference A).ID := by
  cases A <;> rfl

/-- The adapters. -/
def all : List RepositoryAdapter :=
  [.mock, .reference .kamino, .reference .marginfi, .reference .jupiter, .reference .maple,
    .reference .drift]

theorem mem_all (A : RepositoryAdapter) : A ∈ all := by
  rcases A with _ | (_ | _ | _ | _ | _) <;> simp [all]

theorem ID_injective {A B : RepositoryAdapter} (h : A.ID = B.ID) : A = B := by
  have hdistinct : (all.map ID).Nodup := by decide
  exact List.inj_on_of_nodup_map hdistinct (mem_all A) (mem_all B) h

/-- No adapter is the dispatcher. -/
theorem ID_ne (A : RepositoryAdapter) : A.ID ≠ Dispatcher.ID := by
  have hother : ∀ p ∈ all.map ID, p ≠ Dispatcher.ID := by decide
  exact hother _ (List.mem_map_of_mem (mem_all A))

/-- No adapter is the protocol of another, or its own. -/
theorem PROGRAM_ID_ne (X : ThirdParty) (A : Reference) (B : RepositoryAdapter) :
    (A.program X).PROGRAM_ID ≠ B.ID := by
  have hother : ∀ p ∈ all.map ID, p ≠ KaminoAdapter.PROGRAM_ID ∧
      p ≠ MarginfiAdapter.PROGRAM_ID ∧ p ≠ JupiterAdapter.PROGRAM_ID ∧
      p ≠ MapleAdapter.PROGRAM_ID ∧ p ≠ DriftAdapter.PROGRAM_ID := by decide
  obtain ⟨hkamino, hmarginfi, hjupiter, hmaple, hdrift⟩ :=
    hother _ (List.mem_map_of_mem (mem_all B))
  cases A with
  | kamino => exact hkamino.symm
  | marginfi => exact hmarginfi.symm
  | jupiter => exact hjupiter.symm
  | maple => exact hmaple.symm
  | drift => exact hdrift.symm

/-- The adapter at an address, if there is one. -/
def atAddress (p : Pubkey) : Option RepositoryAdapter := all.find? fun A => A.ID = p

theorem atAddress_eq_some {p : Pubkey} {A : RepositoryAdapter} :
    atAddress p = some A ↔ A.ID = p := by
  constructor
  · intro h
    simpa using List.find?_some h
  · rintro rfl
    obtain ⟨B, hB⟩ : ∃ B, atAddress A.ID = some B := by
      rw [← Option.isSome_iff_exists, atAddress, List.find?_isSome]
      exact ⟨A, mem_all A, by simp⟩
    have hID : B.ID = A.ID := by simpa using List.find?_some hB
    rw [hB, ID_injective hID]

end RepositoryAdapter

/-! ## The world of all the adapters -/

/-- The programs from outside the repository, by the programs that are running when one of
them is called.  No program that is running is entered again. -/
structure Outside where
  call : List Pubkey → Instruction → Machine Event → Except Error Unit × Machine Event
  foreign : ∀ running ix m, ∀ p ∈ running, ix.program_id ≠ p →
    Foreign p m (call running ix m).2

/-- Programs that return at once. -/
def quietOutside : Outside := ⟨fun _ _ m => (.ok (), m), fun _ _ m _ _ _ => Foreign.refl m⟩

/-- The programs from outside, as a reference adapter finds them. -/
def Outside.below (outside : Outside) (X : ThirdParty) (A : Reference) : Below (A.program X) where
  call := outside.call [(RepositoryAdapter.reference A).ID, ID]
  foreign := by
    intro ix m hdispatcher hadapter
    rw [RepositoryAdapter.ID_reference] at hadapter ⊢
    exact ⟨outside.foreign _ ix m ID (by simp) hdispatcher,
      outside.foreign _ ix m _ (by simp) hadapter⟩

/-- The mock adapter calls nothing, and emits events in its own name. -/
theorem foreign_mock {e : Env YieldError Event} {p : Pubkey} (hself : e.program_id ≠ p)
    (accounts : List AccountInfo) (data : List UInt8) :
    Exec.Within e (Foreign p) (adapterEntry MockAdapter.run accounts data) := by
  have hlift : ∀ {α : Type} (r : Except Error α),
      Exec.Within e (Foreign p) (Exec.lift r : Prog α) := fun r => Exec.Within.lift Foreign.refl r
  have hbind : ∀ {α β : Type} {x : Prog α} {f : α → Prog β}, Exec.Within e (Foreign p) x →
      (∀ a, Exec.Within e (Foreign p) (f a)) → Exec.Within e (Foreign p) (x >>= f) :=
    Exec.Within.bind (R := Foreign p) fun _ _ _ h h' => h.trans h'
  refine hbind (hlift _) fun call => ?_
  rcases call with ⟨args | args | _, rest⟩
  · exact hbind (hlift _) fun ctx => Foreign.emit hself _
  · exact hbind (hlift _) fun ctx => Foreign.emit hself _
  · exact hbind (hlift _) fun ctx =>
      hbind (Foreign.emit hself _) fun _ => Foreign.set_return_data _

section World

variable {X : ThirdParty} {t : Int64} {outside : Outside}

/-- An adapter of the fleet does not involve `p`, if what its protocol does does not. -/
theorem foreign_run {A : RepositoryAdapter} {e : Env YieldError Event} {p : Pubkey}
    (hself : e.program_id ≠ p)
    (hcall : ∀ B ix m, A = .reference B → ix.program_id = (B.program X).PROGRAM_ID →
      Foreign p m (e.call ix m).2) (accounts : List AccountInfo) (data : List UInt8) :
    Exec.Within e (Foreign p) (adapterEntry (A.run X) accounts data) := by
  cases A with
  | mock => exact foreign_mock hself accounts data
  | reference B => exact foreign_entry hself (fun ix m => hcall B ix m rfl) accounts data

/-- The world in which every adapter is deployed. -/
def fleet (X : ThirdParty) (unix_timestamp : Int64) (outside : Outside) : World where
  unix_timestamp := unix_timestamp
  programs :=
    { call := fun ix m =>
        match RepositoryAdapter.atAddress ix.program_id with
        | some A => enter (adapterEntry (A.run X)) unix_timestamp (outside.call [A.ID, ID]) ix m
        | none => outside.call [ID] ix m
      foreign := by
        intro ix m hother
        split
        · have hreset : Foreign ID m { m with return_data := (ix.program_id, []) } :=
            ⟨.refl _ _, ⟨[], by simp⟩, ⟨[], by simp⟩⟩
          refine hreset.trans (foreign_run hother ?_ _ _ _)
          intro B ix' m' _ hprotocol
          exact findCallee_related (Foreign.refl m') (outside.foreign _ ix' m' ID
            (List.mem_cons_of_mem _ List.mem_cons_self)
            (by rw [hprotocol]; exact (separate_reference X B).PROGRAM_ID_ne))
        · exact outside.foreign _ ix m ID (by simp) hother }

/-- A call to an adapter enters it. -/
theorem call_fleet {A : RepositoryAdapter} {ix : Instruction} {m : Machine Event}
    (h : ix.program_id = A.ID) :
    (fleet X t outside).programs.call ix m =
      enter (adapterEntry (A.run X)) t (outside.call [A.ID, ID]) ix m := by
  have hat := RepositoryAdapter.atAddress_eq_some.mpr h.symm
  simp only [fleet, hat]

end World

/-! ## Routed calls -/

section Routed

variable {C : Crypto} {X : ThirdParty} {t : Int64} {outside : Outside} {call : Call} {r : Route}
  {accounts : List AccountMeta} {ℓ : Ledger} {ix : Instruction} {ctx : Routed}

/-- What follows a routed call depends on who runs, and not on what can be called. -/
theorem Call.sameIn_after (h : call.route = some r) (ctx : Routed) {e e' : Env YieldError Event}
    (hself : e.program_id = e'.program_id) : Exec.SameIn e e' (r.after ctx) := by
  obtain ⟨args, rfl, rfl⟩ | ⟨args, rfl, rfl⟩ | ⟨rfl, rfl⟩ := Call.route_cases h
  · exact .emit hself _
  · exact .emit hself _
  · have hread : Exec.SameIn e e' read_return_u64 := .bind .get_return_data fun _ => .lift _
    exact .bind hread fun _ => .set_return_data hself _

/-- **The other adapters make no difference**: a call for a reference adapter does what it
does when that adapter is deployed alone. -/
theorem execute_fleet_eq_deployed {A : Reference} (h : call.route = some r)
    (hplan : r.planAt C accounts ℓ = .ok (ix, ctx))
    (hadapter : ix.program_id = (A.program X).ID) :
    execute C (fleet X t outside) accounts call ℓ =
      execute C (deployed t (separate_reference X A) (outside.below X A)) accounts call ℓ := by
  have hother : ix.program_id ≠ ID := by
    rw [hadapter]
    exact (separate_reference X A).ID_ne
  by_cases hlisted : ix.program_id ∈ accounts.map AccountMeta.pubkey
  · have hcall : ∀ m, (env C (fleet X t outside) accounts).call ix m =
        (env C (deployed t (separate_reference X A) (outside.below X A)) accounts).call ix m := by
      intro m
      rw [env_call_other hlisted hother, env_call_other hlisted hother, call_deployed hadapter,
        call_fleet (hadapter.trans (RepositoryAdapter.ID_reference X A))]
      rfl
    have hsame : Exec.SameIn (env C (fleet X t outside) accounts)
        (env C (deployed t (separate_reference X A) (outside.below X A)) accounts)
        (relay (r.planAt C accounts ℓ) r.after) := by
      apply Exec.SameIn.relay
      · rfl
      · intro ix' ctx' hplan'
        obtain ⟨rfl, -⟩ := Prod.mk.inj (Except.ok.inj (hplan.symm.trans hplan'))
        exact hcall
      · exact fun ctx' => Call.sameIn_after h ctx' rfl
    rw [execute_of_route h, execute_of_route h]
    exact hsame.transact_eq rfl ℓ
  · rw [execute_route_unlisted h hplan hlisted, execute_route_unlisted h hplan hlisted]

/-- The instruction of a plan: the caller in front of the accounts behind the record. -/
theorem instruction_of_held {signer adapter : AccountMeta} {remaining : List AccountMeta}
    {a : Adapter} (hheld : heldAdapter (ℓ adapter.pubkey) = some a)
    (hplan : r.planAt C (signer :: adapter :: remaining) ℓ = .ok (ix, ctx)) :
    ix = ⟨a.program_id, AccountMeta.new_readonly signer.pubkey true :: remaining, r.data⟩ := by
  obtain ⟨-, hrecord, -⟩ := plan_of_held hheld hplan
  obtain ⟨_, _, _, haccounts, -, -, -, -, -, -, hix⟩ := Route.planAt_eq_ok.mp hplan
  obtain ⟨hfirst, hrest⟩ := List.cons.inj haccounts
  obtain ⟨-, hremaining⟩ := List.cons.inj hrest
  rw [hix, hrecord, ← hfirst, ← hremaining]

/-- **A routed call for a record that is held**: the table of refusals has an error, or the
dispatcher calls the program of the record, if the runtime finds it. -/
theorem execute_of_held {w : World} (hvalid : (view ℓ).Valid C) (hstored : Accounted ℓ)
    {call : Call} (h : call.route = some r) (signer : AccountMeta) {adapter : AccountMeta}
    (remaining : List AccountMeta) {a : Adapter} {p : Pubkey}
    (hheld : heldAdapter (ℓ adapter.pubkey) = some a) (hprogram : a.program_id = p) :
    match call.refusal ℓ (signer :: adapter :: remaining) with
    | some e =>
        execute C w (signer :: adapter :: remaining) call ℓ = ⟨.error e, ℓ, [], (ID, []), []⟩
    | none => ∃ ix ctx,
        r.planAt C (signer :: adapter :: remaining) ℓ = .ok (ix, ctx) ∧
        ix = ⟨p, AccountMeta.new_readonly signer.pubkey true :: remaining, r.data⟩ ∧
        ctx.signer.key = signer.pubkey ∧ ctx.adapter = a ∧
        (p ∉ (signer :: adapter :: remaining).map AccountMeta.pubkey →
          execute C w (signer :: adapter :: remaining) call ℓ =
            ⟨.error .missingAccount, ℓ, [], (ID, []), [(ID, ix)]⟩) := by
  have htable := planAt_of_refusal hvalid hstored h (signer :: adapter :: remaining)
  rcases hrefusal : call.refusal ℓ (signer :: adapter :: remaining) with _ | e
  · rw [hrefusal] at htable
    obtain ⟨ix, ctx, hplan⟩ := htable
    obtain ⟨hsigner, hrecord, hcallee⟩ := plan_of_held hheld hplan
    refine ⟨ix, ctx, hplan, ?_, hsigner, hrecord, fun hunlisted => ?_⟩
    · rw [instruction_of_held hheld hplan, hprogram]
    · exact execute_route_unlisted h hplan (by rw [hcallee, hprogram]; exact hunlisted)
  · rw [hrefusal] at htable
    exact execute_route_of_error h htable

/-- The event of the mock adapter. -/
def Direction.mockEvent (authority : Pubkey) (amount : UInt64) (extra_data : List UInt8) :
    Direction → Event
  | .deposit => .MockDepositCalled authority amount extra_data
  | .withdraw => .MockWithdrawCalled authority amount extra_data

/-- The mock adapter takes any accounts that the dispatcher passes. -/
theorem try_accounts_of_planAt (hplan : r.planAt C accounts ℓ = .ok (ix, ctx)) :
    ∃ context, Context.try_accounts false (cpiAccounts ℓ ix.accounts) = .ok context ∧
      context.authority.key = ctx.signer.key := by
  obtain ⟨signer, _, _, -, -, -, -, -, -, hctx, hix⟩ := Route.planAt_eq_ok.mp hplan
  rw [hix, cpiAccounts_new_readonly]
  refine ⟨⟨_, _⟩, Context.try_accounts_eq_ok.mpr ⟨rfl, rfl, fun h => absurd h (by simp)⟩, ?_⟩
  rw [hctx]
  rfl

/-- The call to the mock adapter is a run of one of its entry points. -/
theorem env_call_mock (hplan : r.planAt C accounts ℓ = .ok (ix, ctx))
    (hlisted : MockAdapter.ID ∈ accounts.map AccountMeta.pubkey)
    (hmock : ix.program_id = MockAdapter.ID) {received : AdapterCall}
    (hdecode : AdapterCall.decode r.data = .ok (received, [])) :
    (env C (fleet X t outside) accounts).call ix ((Machine.start ID ℓ).called ID ix) =
      MockAdapter.run (cpiAccounts ℓ ix.accounts) received
        ⟨MockAdapter.ID, t, findCallee (ix.accounts.map AccountMeta.pubkey)
          (outside.call [MockAdapter.ID, ID])⟩
        ⟨ℓ, (MockAdapter.ID, []), [], [(ID, ix)]⟩ := by
  obtain ⟨_, _, _, -, -, -, -, -, -, -, hix⟩ := Route.planAt_eq_ok.mp hplan
  have hdata : ix.data = r.data := by rw [hix]
  have hother : ix.program_id ≠ ID := by
    rw [hmock]
    decide
  rw [env_call_other (by rw [hmock]; exact hlisted) hother, call_fleet (A := .mock) hmock, enter,
    hdata, adapterEntry_of_decode hdecode, hmock]
  rfl

/-- **A deposit or withdrawal through the mock adapter** succeeds when the dispatcher lets
it pass and the adapter's account is there, and leaves the two events. -/
theorem execute_fleet_mock {d : Direction} {amount : UInt64} {extra_data : List UInt8}
    (hplan : (d.route amount extra_data).planAt C accounts ℓ = .ok (ix, ctx))
    (hlisted : MockAdapter.ID ∈ accounts.map AccountMeta.pubkey)
    (hmock : ix.program_id = MockAdapter.ID) :
    execute C (fleet X t outside) accounts (d.call amount extra_data) ℓ =
      ⟨.ok (), ℓ, [(MockAdapter.ID, d.mockEvent ctx.signer.key amount extra_data),
        (ID, d.event ctx.signer.key ctx.adapter.program_id amount)], (MockAdapter.ID, []),
        [(ID, ix)]⟩ := by
  obtain ⟨_, _, _, -, -, -, -, -, hvalidate, -, -⟩ := Route.planAt_eq_ok.mp hplan
  have hfits := (Direction.validate_route_eq_ok.mp hvalidate).2
  obtain ⟨context, hcontext, hauthority⟩ := try_accounts_of_planAt hplan
  have hreturns : (env C (fleet X t outside) accounts).call ix
      ((Machine.start ID ℓ).called ID ix) = (.ok (), ⟨ℓ, (MockAdapter.ID, []),
        [(MockAdapter.ID, d.mockEvent ctx.signer.key amount extra_data)], [(ID, ix)]⟩) := by
    rw [← hauthority]
    cases d with
    | deposit =>
        rw [env_call_mock hplan hlisted hmock (decode_deposit_data hfits)]
        simp only [MockAdapter.run, MockAdapter.adapter_deposit, hcontext]
        rfl
    | withdraw =>
        rw [env_call_mock hplan hlisted hmock (decode_withdraw_data hfits)]
        simp only [MockAdapter.run, MockAdapter.adapter_withdraw, hcontext]
        rfl
  have hafter : (d.route amount extra_data).after ctx (env C (fleet X t outside) accounts)
      ⟨ℓ, (MockAdapter.ID, []), [(MockAdapter.ID, d.mockEvent ctx.signer.key amount extra_data)],
        [(ID, ix)]⟩ =
      (.ok (), ⟨ℓ, (MockAdapter.ID, []),
        [(MockAdapter.ID, d.mockEvent ctx.signer.key amount extra_data),
          (ID, d.event ctx.signer.key ctx.adapter.program_id amount)], [(ID, ix)]⟩) := by
    rw [d.after_route]
    rfl
  rw [execute_of_route d.route_call]
  exact transact_relay_of_call_ok hplan hreturns hafter

/-- **The value of the mock adapter** is its constant. -/
theorem execute_fleet_mock_current_value
    (hplan : CurrentValue.route.planAt C accounts ℓ = .ok (ix, ctx))
    (hlisted : MockAdapter.ID ∈ accounts.map AccountMeta.pubkey)
    (hmock : ix.program_id = MockAdapter.ID) :
    execute C (fleet X t outside) accounts .current_value ℓ =
      ⟨.ok (), ℓ, [(MockAdapter.ID,
        .MockCurrentValueCalled ctx.signer.key MockAdapter.MOCK_CURRENT_VALUE)],
        (ID, Codec.u64.encode MockAdapter.MOCK_CURRENT_VALUE), [(ID, ix)]⟩ := by
  obtain ⟨context, hcontext, hauthority⟩ := try_accounts_of_planAt hplan
  have hreturns : (env C (fleet X t outside) accounts).call ix
      ((Machine.start ID ℓ).called ID ix) =
      (.ok (), ⟨ℓ, (MockAdapter.ID, Codec.u64.encode MockAdapter.MOCK_CURRENT_VALUE),
        [(MockAdapter.ID,
          .MockCurrentValueCalled ctx.signer.key MockAdapter.MOCK_CURRENT_VALUE)],
        [(ID, ix)]⟩) := by
    rw [env_call_mock hplan hlisted hmock decode_current_value_data, ← hauthority]
    simp only [MockAdapter.run, MockAdapter.adapter_current_value, hcontext]
    rfl
  -- the dispatcher writes back the eight bytes that it reads
  obtain ⟨-, -, hafter⟩ := CurrentValue.after_apply ctx (env C (fleet X t outside) accounts)
    ⟨ℓ, (MockAdapter.ID, Codec.u64.encode MockAdapter.MOCK_CURRENT_VALUE),
      [(MockAdapter.ID, .MockCurrentValueCalled ctx.signer.key MockAdapter.MOCK_CURRENT_VALUE)],
      [(ID, ix)]⟩
  have hlength : 8 ≤ (Codec.u64.encode MockAdapter.MOCK_CURRENT_VALUE).length := by decide
  rw [execute_of_route Call.route_current_value]
  exact transact_relay_of_call_ok hplan hreturns (hafter hlength)

end Routed

/-! ## The mock adapter, end to end -/

/-- **What a call through the mock adapter does**, in every reachable ledger and whatever
its arguments: what the table of refusals says; otherwise it fails in the runtime when the
mock adapter's account is not among those passed; and otherwise

1. a deposit or withdrawal succeeds, calls nothing but the mock adapter, changes no
   account, and leaves two events, which repeat the caller, the amount and the
   `extra_data`;
2. `current_value` returns the constant. -/
theorem mock_adapter_exact {C : Crypto} {X : ThirdParty} {t : Int64} {outside : Outside}
    {ℓ₀ : Ledger} (h₀ : NoData ℓ₀) (actions : List Action) {signer adapter : AccountMeta}
    {remaining : List AccountMeta} {a : Adapter}
    (hheld : heldAdapter (ledgerAfter C ℓ₀ actions adapter.pubkey) = some a)
    (hmock : a.program_id = MockAdapter.ID) :
    let ℓ := ledgerAfter C ℓ₀ actions
    let accounts := signer :: adapter :: remaining
    let forwarded := AccountMeta.new_readonly signer.pubkey true :: remaining
    (∀ (d : Direction) (amount : UInt64) (extra_data : List UInt8),
      let ix : Instruction := ⟨MockAdapter.ID, forwarded, (d.route amount extra_data).data⟩
      execute C (fleet X t outside) accounts (d.call amount extra_data) ℓ =
        match (d.call amount extra_data).refusal ℓ accounts with
        | some e => ⟨.error e, ℓ, [], (ID, []), []⟩
        | none =>
            if MockAdapter.ID ∈ accounts.map AccountMeta.pubkey then
              ⟨.ok (), ℓ, [(MockAdapter.ID, d.mockEvent signer.pubkey amount extra_data),
                (ID, d.event signer.pubkey MockAdapter.ID amount)], (MockAdapter.ID, []),
                [(ID, ix)]⟩
            else ⟨.error .missingAccount, ℓ, [], (ID, []), [(ID, ix)]⟩) ∧
    let ix : Instruction := ⟨MockAdapter.ID, forwarded, ADAPTER_CURRENT_VALUE_DISCRIMINATOR⟩
    execute C (fleet X t outside) accounts .current_value ℓ =
      match Call.refusal .current_value ℓ accounts with
      | some e => ⟨.error e, ℓ, [], (ID, []), []⟩
      | none =>
          if MockAdapter.ID ∈ accounts.map AccountMeta.pubkey then
            ⟨.ok (), ℓ, [(MockAdapter.ID,
              .MockCurrentValueCalled signer.pubkey MockAdapter.MOCK_CURRENT_VALUE)],
              (ID, Codec.u64.encode MockAdapter.MOCK_CURRENT_VALUE), [(ID, ix)]⟩
          else ⟨.error .missingAccount, ℓ, [], (ID, []), [(ID, ix)]⟩ := by
  intro ℓ accounts forwarded
  have hvalid := valid_ledgerAfter (C := C) h₀ actions
  have hstored := accounted_ledgerAfter (C := C) h₀ actions
  constructor
  · intro d amount extra_data ix'
    have hcall := execute_of_held (w := fleet X t outside) hvalid hstored
      (@Direction.route_call amount extra_data d) signer remaining hheld hmock
    rcases hrefusal : (d.call amount extra_data).refusal ℓ accounts with _ | e
    · rw [hrefusal] at hcall
      obtain ⟨ix, ctx, hplan, rfl, hsigner, hrecord, hunlisted⟩ := hcall
      show _ = ite _ _ _
      split_ifs with hlisted
      · rw [execute_fleet_mock hplan hlisted rfl, hsigner, hrecord, hmock]
      · exact hunlisted hlisted
    · rw [hrefusal] at hcall
      exact hcall
  · intro ix'
    have hcall := execute_of_held (w := fleet X t outside) hvalid hstored
      Call.route_current_value signer remaining hheld hmock
    rcases hrefusal : Call.refusal .current_value ℓ accounts with _ | e
    · rw [hrefusal] at hcall
      obtain ⟨ix, ctx, hplan, rfl, hsigner, -, hunlisted⟩ := hcall
      show _ = ite _ _ _
      split_ifs with hlisted
      · rw [execute_fleet_mock_current_value hplan hlisted rfl, hsigner]
        rfl
      · exact hunlisted hlisted
    · rw [hrefusal] at hcall
      exact hcall

/-- The address of the mock adapter's record. -/
def mockAddress : Pubkey := ⟨List.replicate 32 11, rfl⟩

/-- A hash for the mock adapter's record as well. -/
def mockCrypto : Crypto where
  sha256 := fun bs =>
    if bs = (Adapter.seeds MockAdapter.ID INITIALIZER).flatten ++ [255] ++ ID.bytes ++ PDA_MARKER
    then mockAddress
    else sampleCrypto.sha256 bs
  bytes_are_curve_point := sampleCrypto.bytes_are_curve_point

/-- `INITIALIZER` registers the mock adapter under itself. -/
def registerMock : Action :=
  .call quietWorld [⟨INITIALIZER, true, true⟩, ⟨mockAddress, false, true⟩,
    ⟨registryAddress, false, false⟩, ⟨System.ID, false, false⟩]
    (.adapter_init ⟨INITIALIZER, MockAdapter.ID, USDC, 0⟩)

/-- A deposit through the mock adapter, with its account alone behind the record. -/
theorem mock_adapter_exact_deposit :
    (execute mockCrypto (fleet sampleThirdParty 1700000000 quietOutside)
      [⟨INITIALIZER, true, true⟩, ⟨mockAddress, false, false⟩, ⟨MockAdapter.ID, false, false⟩]
      (.deposit ⟨5, [9]⟩)
      (ledgerAfter mockCrypto genesis [openRegistry, registerMock])).events =
        [(MockAdapter.ID, .MockDepositCalled INITIALIZER 5 [9]),
          (ID, .DepositEvent INITIALIZER MockAdapter.ID 5)] := by
  have hheld : heldAdapter (ledgerAfter mockCrypto genesis [openRegistry, registerMock]
      (⟨mockAddress, false, false⟩ : AccountMeta).pubkey) =
      some ((⟨INITIALIZER, MockAdapter.ID, USDC, 0⟩ : AdapterInitArgs).record 1700000000 255) := by
    decide +kernel
  have hpasses : Call.refusal (.deposit ⟨5, [9]⟩)
      (ledgerAfter mockCrypto genesis [openRegistry, registerMock])
      [⟨INITIALIZER, true, true⟩, ⟨mockAddress, false, false⟩, ⟨MockAdapter.ID, false, false⟩] =
        none := by
    decide +kernel
  have hout := (@mock_adapter_exact mockCrypto sampleThirdParty 1700000000 quietOutside genesis
    noData_genesis [openRegistry, registerMock] ⟨INITIALIZER, true, true⟩
    ⟨mockAddress, false, false⟩ [⟨MockAdapter.ID, false, false⟩] _ hheld rfl).1 .deposit 5 [9]
  have hlisted : MockAdapter.ID ∈ [(⟨INITIALIZER, true, true⟩ : AccountMeta),
      ⟨mockAddress, false, false⟩, ⟨MockAdapter.ID, false, false⟩].map AccountMeta.pubkey := by
    decide
  simp only [Direction.call, hpasses, if_pos hlisted] at hout
  exact congrArg Outcome.events hout

end Dispatcher
