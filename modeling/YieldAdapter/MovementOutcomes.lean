/-
# Movements, end to end

What a deposit or withdrawal through a reference adapter comes to: the refusals of the
dispatcher, then those of the adapter, in the order in which they are made, and then
whatever the protocol answers to the instruction that it is sent.  At each of the two hops
the runtime refuses a call whose callee is not among the accounts.
-/
import YieldAdapter.SlicePanics
import YieldAdapter.Fleet
import YieldAdapter.Transparency

open Solana

/-! ## The table of the adapters -/

/-- Why an adapter refuses the caller, the accounts or the arguments, if it does.  Maple
looks at its arguments first; the others at the caller. -/
def Reference.refusal (signer : Pubkey) (remaining : List AccountMeta)
    (extra_data : List UInt8) : Reference → Option AdapterError
  | .kamino | .marginfi | .drift =>
      if signer = Pubkey.default then some .InvalidAccount
      else if extra_data = [] then some .InvalidArgs
      else none
  | .jupiter =>
      if signer = Pubkey.default then some .InvalidAccount
      else if remaining.length ≠ 14 then some .InvalidAccount
      else if extra_data = [] then some .InvalidArgs
      else none
  | .maple =>
      if extra_data = [] then some .InvalidArgs
      else if remaining.length < 18 then some .InvalidAccount
      else if remaining[3]?.map AccountMeta.pubkey ≠ some signer then some .Unauthorized
      else none

namespace Dispatcher

instance (signer : AccountMeta) (remaining : List AccountMeta) :
    Decidable (ListedAgain signer remaining) :=
  inferInstanceAs
    (Decidable (∃ b ∈ remaining, b.pubkey = signer.pubkey ∧ b.is_writable = true))

/-- The selectors that stand for a function. -/
def Direction.selectors (d : Direction) : Reference → List UInt8
  | .drift => [0, 1, 2]
  | A => (d.table A).map SelectorEntry.selector

/-- Why no function takes the arguments, if none does. -/
def Direction.selectionRefusal (d : Direction) (A : Reference) : List UInt8 → Option Error
  | [] => none
  | selector :: tail =>
      if selector ∉ d.selectors A then some (adapterError .UnknownFunction)
      else if A = .drift ∧ selector ∈ d.slicing ∧ tail.length < 2 then some .panic
      else none

/-- Why an adapter refuses a movement that the dispatcher lets pass, if it does. -/
def Direction.refusal (d : Direction) (A : Reference) (signer : AccountMeta)
    (remaining : List AccountMeta) (extra_data : List UInt8) : Option Error :=
  if ListedAgain signer remaining then
    match A.refusal signer.pubkey remaining extra_data with
    | some e => some (adapterError e)
    | none => d.selectionRefusal A extra_data
  else some (.anchor .ConstraintMut)

/-! ## The checks -/

section Checks

variable {X : ThirdParty} {A : Reference} {d : Direction} {amount : UInt64} {selector : UInt8}
  {tail extra_data : List UInt8}

/-- A selector that is not in the table stands for nothing. -/
theorem dispatch_of_unknown (hA : A ≠ .drift)
    (hunknown : selector ∉ (d.table A).map SelectorEntry.selector) :
    (d.flow (A.program X)).dispatch selector amount (selector :: tail) =
      .error (adapterError .UnknownFunction) := by
  cases A with
  | kamino =>
      cases d with
      | deposit =>
          have hne : selector ≠ 0 ∧ selector ≠ 1 ∧ selector ≠ 2 ∧ selector ≠ 3 := by
            simpa [Direction.table] using hunknown
          show KaminoAdapter.AdapterDeposit.dispatch selector amount (selector :: tail) = _
          simp [KaminoAdapter.AdapterDeposit, hne]
      | withdraw =>
          have hne : selector ≠ 0 ∧ selector ≠ 1 ∧ selector ≠ 2 := by
            simpa [Direction.table] using hunknown
          show KaminoAdapter.AdapterWithdraw.dispatch selector amount (selector :: tail) = _
          simp [KaminoAdapter.AdapterWithdraw, hne]
  | marginfi =>
      have hne : selector ≠ 0 := by
        cases d <;> simpa [Direction.table] using hunknown
      cases d with
      | deposit => exact if_neg hne
      | withdraw => exact if_neg hne
  | jupiter =>
      have hne : selector ≠ 0 ∧ selector ≠ 1 := by
        cases d <;> simpa [Direction.table] using hunknown
      cases d with
      | deposit => exact (if_neg hne.1).trans (if_neg hne.2)
      | withdraw => exact (if_neg hne.1).trans (if_neg hne.2)
  | maple =>
      have hne : selector ≠ 0 := by
        cases d <;> simpa [Direction.table] using hunknown
      cases d with
      | deposit => exact if_neg hne
      | withdraw => exact if_neg hne
  | drift => exact absurd rfl hA

/-- A selector of the table finds its function, and no other does. -/
theorem dispatch_of_selectionRefusal :
    match d.selectionRefusal A (selector :: tail) with
    | some e => (d.flow (A.program X)).dispatch selector amount (selector :: tail) = .error e
    | none => ∃ payload,
        (d.flow (A.program X)).dispatch selector amount (selector :: tail) = .ok payload := by
  unfold Direction.selectionRefusal
  by_cases hA : A = .drift
  · subst hA
    -- the function is missing, or the market index is, or nothing is
    by_cases hknown : selector ∈ ([0, 1, 2] : List UInt8)
    · by_cases hmissing : selector ∈ d.slicing ∧ tail.length < 2
      · simp only [Direction.selectors, hknown, hmissing, not_true_eq_false, if_false, and_self,
          if_true]
        exact drift_dispatch_eq_error.mpr (.inl ⟨hmissing.1, hmissing.2, rfl⟩)
      · simp only [Direction.selectors, hknown, hmissing, not_true_eq_false, if_false, and_false]
        rcases hdispatch : (d.flow (Reference.drift.program X)).dispatch selector amount
          (selector :: tail) with err | payload
        · rcases drift_dispatch_eq_error.mp hdispatch with ⟨hslicing, hshort, -⟩ | ⟨hunknown, -⟩
          · exact absurd ⟨hslicing, hshort⟩ hmissing
          · exact absurd hknown hunknown
        · exact ⟨payload, rfl⟩
    · simp only [Direction.selectors, hknown, not_false_eq_true, if_true]
      exact drift_dispatch_eq_error.mpr (.inr ⟨hknown, rfl⟩)
  · have hselectors : d.selectors A = (d.table A).map SelectorEntry.selector := by
      cases A with
      | drift => exact absurd rfl hA
      | kamino | marginfi | jupiter | maple => rfl
    by_cases hknown : selector ∈ (d.table A).map SelectorEntry.selector
    · simp only [hselectors, hknown, not_true_eq_false, if_false, hA, false_and]
      obtain ⟨entry, hentry, rfl⟩ := List.mem_map.mp hknown
      exact ⟨_, (dispatch_eq_ok_iff hA).mpr ⟨entry, hentry, rfl, rfl⟩⟩
    · simp only [hselectors, hknown, not_false_eq_true, if_true]
      exact dispatch_of_unknown hA hknown

/-- The check of Kamino, MarginFi and Drift, as a table. -/
theorem validateAuthority_eq {ctx : Context} :
    validateAuthority ctx extra_data =
      if ctx.authority.key = Pubkey.default then .error (adapterError .InvalidAccount)
      else if extra_data = [] then .error (adapterError .InvalidArgs)
      else .ok () := by
  unfold validateAuthority
  by_cases hkey : ctx.authority.key = Pubkey.default
  · simp [hkey, except_error_bind]
  · cases extra_data with
    | nil => simp [hkey, except_ok_bind]
    | cons selector tail => simp [hkey, except_ok_bind]

/-- That of Jupiter. -/
theorem jupiter_validate_eq {ctx : Context} :
    JupiterAdapter.validate ctx extra_data =
      if ctx.authority.key = Pubkey.default then .error (adapterError .InvalidAccount)
      else if ctx.remaining_accounts.length ≠ 14 then .error (adapterError .InvalidAccount)
      else if extra_data = [] then .error (adapterError .InvalidArgs)
      else .ok () := by
  unfold JupiterAdapter.validate
  by_cases hkey : ctx.authority.key = Pubkey.default
  · simp [hkey, except_error_bind]
  · by_cases hlength : ctx.remaining_accounts.length = 14
    · cases extra_data with
      | nil => simp [hkey, hlength, except_ok_bind]
      | cons selector tail => simp [hkey, hlength, except_ok_bind]
    · simp [hkey, hlength, except_ok_bind, except_error_bind]

/-- That of Maple.  Behind the dispatcher the fourth account signs if it is the caller. -/
theorem maple_validate_eq {ctx : Context}
    (hsigns : ∀ i ∈ ctx.remaining_accounts, i.key = ctx.authority.key → i.is_signer = true) :
    MapleAdapter.validate ctx extra_data =
      if extra_data = [] then .error (adapterError .InvalidArgs)
      else if ctx.remaining_accounts.length < 18 then .error (adapterError .InvalidAccount)
      else if ctx.remaining_accounts[3]?.map AccountInfo.key ≠ some ctx.authority.key then
        .error (adapterError .Unauthorized)
      else .ok () := by
  unfold MapleAdapter.validate
  cases extra_data with
  | nil => simp [except_error_bind]
  | cons selector tail =>
      by_cases hlength : ctx.remaining_accounts.length < 18
      · have hfew : ¬ 18 ≤ ctx.remaining_accounts.length := by omega
        simp [hlength, hfew, except_ok_bind, except_error_bind]
      · have hmany : 18 ≤ ctx.remaining_accounts.length := by omega
        have hfourth : 3 < ctx.remaining_accounts.length := by omega
        have hindex : (indexAt ctx.remaining_accounts 3 : Except Error AccountInfo) =
            .ok ctx.remaining_accounts[3] :=
          indexAt_eq_ok.mpr (List.getElem?_eq_getElem hfourth)
        by_cases hkey : ctx.remaining_accounts[3].key = ctx.authority.key
        · have hsigner := hsigns _ (List.getElem_mem hfourth) hkey
          simp [hlength, hmany, hindex, hfourth, hkey, hsigner, except_ok_bind]
        · simp [hlength, hmany, hindex, hfourth, hkey, except_ok_bind, except_error_bind]

/-- **The table is what the checks amount to** behind the dispatcher. -/
theorem validate_of_refusal {ctx : Context} {remaining : List AccountMeta}
    (hkeys : ctx.remaining_accounts.map AccountInfo.key = remaining.map AccountMeta.pubkey)
    (hsigns : ∀ i ∈ ctx.remaining_accounts, i.key = ctx.authority.key → i.is_signer = true) :
    (d.flow (A.program X)).validate ctx extra_data =
      match A.refusal ctx.authority.key remaining extra_data with
      | some e => .error (adapterError e)
      | none => .ok () := by
  have hlength : ctx.remaining_accounts.length = remaining.length := by
    simpa only [List.length_map] using congrArg List.length hkeys
  have hfourth : ctx.remaining_accounts[3]?.map AccountInfo.key =
      remaining[3]?.map AccountMeta.pubkey := by
    rw [← List.getElem?_map, hkeys, List.getElem?_map]
  have hauthority : validateAuthority ctx extra_data =
      match Reference.kamino.refusal ctx.authority.key remaining extra_data with
      | some e => .error (adapterError e)
      | none => .ok () := by
    rw [validateAuthority_eq, Reference.refusal]
    split_ifs <;> rfl
  have hjupiter : JupiterAdapter.validate ctx extra_data =
      match Reference.jupiter.refusal ctx.authority.key remaining extra_data with
      | some e => .error (adapterError e)
      | none => .ok () := by
    rw [jupiter_validate_eq, Reference.refusal, hlength]
    split_ifs <;> rfl
  have hmaple : MapleAdapter.validate ctx extra_data =
      match Reference.maple.refusal ctx.authority.key remaining extra_data with
      | some e => .error (adapterError e)
      | none => .ok () := by
    rw [maple_validate_eq hsigns, Reference.refusal, hlength, hfourth]
    split_ifs <;> rfl
  cases A with
  | kamino => cases d <;> exact hauthority
  | marginfi => cases d <;> exact hauthority
  | jupiter => cases d <;> exact hjupiter
  | maple => cases d <;> exact hmaple
  | drift => cases d <;> exact hauthority

end Checks

/-! ## The plan below a routed movement -/

section Plan

variable {C : Crypto} {X : ThirdParty} {A : Reference} {d : Direction} {amount : UInt64}
  {extra_data : List UInt8} {signer adapter : AccountMeta} {remaining : List AccountMeta}
  {ℓ : Ledger} {ix : Instruction} {ctx : Routed}

/-- What the adapter finds behind a caller that is put in front of the accounts. -/
def forwardedInfos (ℓ : Ledger) (signer : Pubkey) (remaining : List AccountMeta) :
    List AccountInfo :=
  ((mergeFlags (AccountMeta.new_readonly signer true :: remaining)).drop 1).map (AccountInfo.load ℓ)

theorem keys_forwardedInfos (ℓ : Ledger) (k : Pubkey) (as : List AccountMeta) :
    (forwardedInfos ℓ k as).map AccountInfo.key = as.map AccountMeta.pubkey := by
  unfold forwardedInfos mergeFlags
  rw [List.map_cons, List.drop_one, List.tail_cons, List.map_map, List.map_map]
  rfl

/-- The caller signs wherever it is listed. -/
theorem signs_forwardedInfos {ℓ : Ledger} {k : Pubkey} {as : List AccountMeta} {i : AccountInfo}
    (hi : i ∈ forwardedInfos ℓ k as) (hkey : i.key = k) : i.is_signer = true := by
  unfold forwardedInfos mergeFlags at hi
  rw [List.map_cons, List.drop_one, List.tail_cons, List.map_map] at hi
  obtain ⟨a, -, rfl⟩ := List.mem_map.mp hi
  obtain rfl : a.pubkey = k := hkey
  show (List.any _ _) = true
  simp [AccountMeta.new_readonly]

/-- **The plan of the adapter**, by its table. -/
theorem planBelow_of_refusal
    (hplan : (d.route amount extra_data).planAt C (signer :: adapter :: remaining) ℓ =
      .ok (ix, ctx)) :
    match d.refusal A signer remaining extra_data with
    | some e => d.planBelow (A.program X) amount extra_data ix ℓ = .error e
    | none => ∃ selector tail payload, extra_data = selector :: tail ∧
        (d.flow (A.program X)).dispatch selector amount extra_data = .ok payload ∧
        d.planBelow (A.program X) amount extra_data ix ℓ =
          .ok (⟨(A.program X).PROGRAM_ID, (mergeFlags ix.accounts).drop 1, payload.data⟩,
            ⟨signer.pubkey, payload.amount⟩) := by
  unfold Direction.refusal
  by_cases hlisted : ListedAgain signer remaining
  · obtain ⟨_, _, _, haccounts, -, -, -, -, -, -, hix⟩ := Route.planAt_eq_ok.mp hplan
    obtain ⟨rfl, hrest⟩ := List.cons.inj haccounts
    obtain ⟨rfl, rfl⟩ := List.cons.inj hrest
    have hany := any_writable_iff.mpr hlisted
    -- the adapter finds the caller as a writable signer, and the others behind it
    let context : Context :=
      ⟨AccountInfo.load ℓ ⟨signer.pubkey, true, true⟩, forwardedInfos ℓ signer.pubkey remaining⟩
    have hinfos : cpiAccounts ℓ ix.accounts = context.authority :: context.remaining_accounts := by
      rw [hix, cpiAccounts_new_readonly, hany]
      rfl
    have hcontext : Context.try_accounts (d.flow (A.program X)).authority_mut
        (cpiAccounts ℓ ix.accounts) = .ok context :=
      Context.try_accounts_eq_ok.mpr ⟨hinfos, rfl, fun _ => rfl⟩
    have hmetas : context.remaining_accounts.map AccountInfo.toMeta =
        (mergeFlags ix.accounts).drop 1 := by
      rw [hix]
      exact map_toMeta_load _ _
    have hvalidate : (d.flow (A.program X)).validate context extra_data =
        match A.refusal signer.pubkey remaining extra_data with
        | some e => .error (adapterError e)
        | none => .ok () := by
      apply validate_of_refusal (keys_forwardedInfos ℓ signer.pubkey remaining)
      intro i hi hkey
      exact signs_forwardedInfos hi hkey
    have hbelow : d.planBelow (A.program X) amount extra_data ix ℓ = _ :=
      plan_of_try_accounts hcontext
    simp only [hlisted, if_true]
    rcases hrefusal : A.refusal signer.pubkey remaining extra_data with _ | e
    · rw [hrefusal] at hvalidate
      have hpasses : (d.flow (A.program X)).validate context extra_data = .ok () := hvalidate
      -- the check has seen to it that there is a selector
      obtain ⟨selector, tail, rfl⟩ :=
        List.exists_cons_of_ne_nil (validate_eq_ok_iff.mp hpasses).1
      have hselect := @dispatch_of_selectionRefusal X A d amount selector tail
      have hindex : (indexAt (selector :: tail) 0 : Except Error UInt8) = .ok selector := rfl
      simp only [hpasses, hindex, except_ok_bind, hmetas] at hbelow
      rcases hselection : d.selectionRefusal A (selector :: tail) with _ | e
      · rw [hselection] at hselect
        obtain ⟨payload, hpayload⟩ := hselect
        rw [hpayload] at hbelow
        exact ⟨selector, tail, payload, rfl, hpayload, hbelow⟩
      · rw [hselection] at hselect
        rw [hselect] at hbelow
        exact hbelow
    · rw [hrefusal] at hvalidate
      rw [hbelow, hvalidate]
      rfl
  · simp only [hlisted, if_false]
    exact planBelow_of_not_listed (authority_mut_reference X A d) hplan hlisted

end Plan

/-- **What a movement through a reference adapter does**, in every reachable ledger, with all
the adapters deployed and whatever its accounts and arguments:

1. where the dispatcher's table has a refusal, the call fails with it and reaches nobody;
2. otherwise, where the adapter's account is not passed, the runtime does not find it;
3. where the adapter is passed and its table has a refusal, the call fails with it and
   reaches the adapter alone;
4. otherwise the adapter sends one instruction, to its own protocol.  If the protocol's
   account is not passed on, the runtime does not find it.  If the protocol fails the call
   fails with it and nothing is left; if it returns, all that it did is left, and behind it
   the events of the adapter and of the dispatcher, in this order. -/
theorem movement_exact {C : Crypto} {X : ThirdParty} {t : Int64} {outside : Outside}
    {ℓ₀ : Ledger} (h₀ : NoData ℓ₀) (actions : List Action) {signer adapter : AccountMeta}
    {remaining : List AccountMeta} {a : Adapter} {A : Reference}
    (hheld : heldAdapter (ledgerAfter C ℓ₀ actions adapter.pubkey) = some a)
    (hprogram : a.program_id = (A.program X).ID) (d : Direction) (amount : UInt64)
    (extra_data : List UInt8) :
    let ℓ := ledgerAfter C ℓ₀ actions
    let accounts := signer :: adapter :: remaining
    let forwarded := AccountMeta.new_readonly signer.pubkey true :: remaining
    let ix : Instruction := ⟨(A.program X).ID, forwarded, (d.route amount extra_data).data⟩
    let out := execute C (fleet X t outside) accounts (d.call amount extra_data) ℓ
    (∀ e, (d.call amount extra_data).refusal ℓ accounts = some e →
      out = ⟨.error e, ℓ, [], (ID, []), []⟩) ∧
    ((d.call amount extra_data).refusal ℓ accounts = none →
      ((A.program X).ID ∉ accounts.map AccountMeta.pubkey →
        out = ⟨.error .missingAccount, ℓ, [], (ID, []), [(ID, ix)]⟩) ∧
      ((A.program X).ID ∈ accounts.map AccountMeta.pubkey →
        (∀ e, d.refusal A signer remaining extra_data = some e →
          out = ⟨.error e, ℓ, [], (ID, []), [(ID, ix)]⟩) ∧
        (d.refusal A signer remaining extra_data = none →
          ∃ selector tail payload, extra_data = selector :: tail ∧
            (d.flow (A.program X)).dispatch selector amount extra_data = .ok payload ∧
            let ix' : Instruction :=
              ⟨(A.program X).PROGRAM_ID, (mergeFlags forwarded).drop 1, payload.data⟩
            let protocol :=
              outside.call [(A.program X).ID, ID] ix' (atProtocol (A.program X) ix ix' ℓ)
            ((A.program X).PROGRAM_ID ∉ forwarded.map AccountMeta.pubkey →
              out = ⟨.error .missingAccount, ℓ, [], (ID, []),
                [(ID, ix), ((A.program X).ID, ix')]⟩) ∧
            ((A.program X).PROGRAM_ID ∈ forwarded.map AccountMeta.pubkey →
              (∀ e m, protocol = (.error e, m) → out = ⟨.error e, ℓ, [], (ID, []), m.calls⟩) ∧
              ∀ m, protocol = (.ok (), m) →
                out = ⟨.ok (), m.ledger, m.events ++
                  [((A.program X).ID,
                      d.adapterEvent signer.pubkey (A.program X).PROGRAM_ID payload.amount),
                    (ID, d.event signer.pubkey (A.program X).ID amount)],
                  m.return_data, m.calls⟩)))) := by
  intro ℓ accounts forwarded ix out
  have hcall := execute_of_held (w := fleet X t outside) (valid_ledgerAfter h₀ actions)
    (accounted_ledgerAfter h₀ actions) (@Direction.route_call amount extra_data d) signer
    remaining hheld hprogram
  constructor
  · intro e he
    rw [he] at hcall
    exact hcall
  · intro hpasses
    rw [hpasses] at hcall
    obtain ⟨_, ctx, hplan, rfl, hsigner, hrecord, hunlisted⟩ := hcall
    have hentered : ix.program_id = (A.program X).ID := rfl
    have hout : out = execute C (deployed t (separate_reference X A) (outside.below X A)) accounts
        (d.call amount extra_data) ℓ := execute_fleet_eq_deployed d.route_call hplan hentered
    have hbelow := planBelow_of_refusal (X := X) (A := A) hplan
    refine ⟨hunlisted, fun hpassed => ?_⟩
    constructor
    · intro e he
      rw [he] at hbelow
      exact hout.trans (execute_deployed_of_error hplan hpassed hentered hbelow)
    · intro haccepted
      rw [haccepted] at hbelow
      obtain ⟨selector, tail, payload, htail, hdispatch, hsent⟩ := hbelow
      refine ⟨selector, tail, payload, htail, hdispatch, ?_⟩
      intro ix' protocol
      have hprotocol : protocol =
          (outside.below X A).call ix' (atProtocol (A.program X) ix ix' ℓ) :=
        congrArg (fun p => outside.call [p, ID] ix' (atProtocol (A.program X) ix ix' ℓ))
          (RepositoryAdapter.ID_reference X A)
      constructor
      · intro hunlisted
        have hmissing : (outside.below X A).callFrom ix ix' (atProtocol (A.program X) ix ix' ℓ) =
            (.error .missingAccount, atProtocol (A.program X) ix ix' ℓ) :=
          findCallee_of_not_mem hunlisted
        exact hout.trans
          (execute_deployed_of_protocol_error hplan hpassed hentered hsent hmissing)
      · intro hlisted
        have hfound : (outside.below X A).callFrom ix ix' (atProtocol (A.program X) ix ix' ℓ) =
            (outside.below X A).call ix' (atProtocol (A.program X) ix ix' ℓ) :=
          findCallee_of_mem hlisted
        rw [← hprotocol] at hfound
        constructor
        · intro e m hm
          exact hout.trans
            (execute_deployed_of_protocol_error hplan hpassed hentered hsent (hfound.trans hm))
        · intro m hm
          rw [hout, execute_deployed_of_protocol_ok hplan hpassed hentered hsent
            (hfound.trans hm), hsigner, hrecord, hprogram]

/-- Drift refuses a deposit of nothing but a selector, which the dispatcher lets pass, and
takes one with a market index. -/
theorem movement_exact_drift :
    let world := fleet sampleThirdParty 1700000000 quietOutside
    let accounts := driftAccounts (⟨INITIALIZER, true, true⟩ :: driftPrograms)
    (execute sampleCrypto world accounts (.deposit ⟨5, [0]⟩) sampleLedger).result =
        .error .panic ∧
      (execute sampleCrypto world accounts (.deposit ⟨5, [0, 1, 0]⟩) sampleLedger).events =
        [(DriftAdapter.ID, .AdapterDepositEvent INITIALIZER DriftAdapter.PROGRAM_ID 5),
          (ID, .DepositEvent INITIALIZER DriftAdapter.ID 5)] := by
  intro world accounts
  have hexact := @movement_exact sampleCrypto sampleThirdParty 1700000000 quietOutside
    genesis noData_genesis [openRegistry, registerDrift 0] ⟨INITIALIZER, true, true⟩
    ⟨driftAddress, false, false⟩ (⟨INITIALIZER, true, true⟩ :: driftPrograms) (driftRecord 0)
    .drift heldAdapter_sampleLedger rfl .deposit 5
  have hpassed : DriftAdapter.ID ∈ accounts.map AccountMeta.pubkey := by decide
  have hlisted : DriftAdapter.PROGRAM_ID ∈ (AccountMeta.new_readonly INITIALIZER true ::
      ⟨INITIALIZER, true, true⟩ :: driftPrograms).map AccountMeta.pubkey := by decide
  constructor
  · obtain ⟨hrefused, -⟩ := ((hexact [0]).2 (by decide +kernel)).2 hpassed
    exact congrArg Outcome.result (hrefused .panic (by decide +kernel))
  · obtain ⟨-, haccepted⟩ := ((hexact [0, 1, 0]).2 (by decide +kernel)).2 hpassed
    obtain ⟨_, _, payload, hdata, hdispatch, -, hfound⟩ := haccepted (by decide +kernel)
    obtain ⟨rfl, rfl⟩ := List.cons.inj hdata
    obtain rfl := Except.ok.inj hdispatch
    exact congrArg Outcome.events ((hfound hlisted).2 _ rfl)

end Dispatcher
