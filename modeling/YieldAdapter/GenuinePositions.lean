/-
# Whose positions are reported

`current_value` makes no call to the protocol, so the checks of the adapter are all
that stands between the caller's accounts and the value that is reported.  Kamino,
MarginFi, Jupiter and Drift do not ask which program owns the account they read, and
Maple does not ask whose token account it is, or of which mint.
-/
import YieldAdapter.Deployment
import YieldAdapter.ReportedValue
import YieldAdapter.ReturnDataAuthenticity

open Solana Windows

namespace Dispatcher

/-! ## `current_value` behind the dispatcher -/

section Deployed

variable {C : Crypto} {t : Int64} {A : AdapterProgram} {hA : Separate A} {below : Below A}
  {accounts : List AccountMeta} {ℓ : Ledger} {ix : Instruction} {ctx : Routed}

variable (t hA below) in
/-- The call to the adapter is a run of its `adapter_current_value`. -/
theorem env_call_current_value
    (hplan : CurrentValue.route.planAt C accounts ℓ = .ok (ix, ctx))
    (hlisted : A.ID ∈ accounts.map AccountMeta.pubkey) (hadapter : ix.program_id = A.ID) :
    (env C (deployed t hA below) accounts).call ix ((Machine.start ID ℓ).called ID ix) =
      A.adapter_current_value (cpiAccounts ℓ ix.accounts) ⟨A.ID, t, below.callFrom ix⟩
        ⟨ℓ, (A.ID, []), [], [(ID, ix)]⟩ := by
  obtain ⟨_, _, _, -, -, -, -, -, -, -, hix⟩ := Route.planAt_eq_ok.mp hplan
  have hdata : ix.data = ADAPTER_CURRENT_VALUE_DISCRIMINATOR := by
    rw [hix]
    rfl
  rw [env_call_other (by rw [hadapter]; exact hlisted) (by rw [hadapter]; exact hA.ID_ne),
    call_deployed hadapter, enter, hdata, AdapterProgram.entry,
    adapterEntry_of_decode decode_current_value_data, hadapter]
  rfl

/-- Where it has a value to report, the adapter sets it as its return data and calls nobody. -/
theorem behaves_of_reports {v : UInt64}
    (hplan : CurrentValue.route.planAt C accounts ℓ = .ok (ix, ctx))
    (hlisted : A.ID ∈ accounts.map AccountMeta.pubkey) (hadapter : ix.program_id = A.ID)
    (h : A.Reports (cpiAccounts ℓ ix.accounts) v) :
    Behaves C (deployed t hA below) accounts ℓ ix (.set (Codec.u64.encode v) .done) := by
  obtain ⟨context, hctx, hvalue⟩ := h
  have hcall := env_call_current_value t hA below hplan hlisted hadapter
  rw [AdapterProgram.adapter_current_value_of_ok hctx hvalue] at hcall
  refine ⟨_, hcall, ?_⟩
  rw [hadapter]
  rfl

/-- **The dispatcher returns the value that the adapter reports.** -/
theorem execute_current_value_of_reports {v : UInt64}
    (hplan : CurrentValue.route.planAt C accounts ℓ = .ok (ix, ctx))
    (hlisted : A.ID ∈ accounts.map AccountMeta.pubkey) (hadapter : ix.program_id = A.ID)
    (h : A.Reports (cpiAccounts ℓ ix.accounts) v) :
    (execute C (deployed t hA below) accounts .current_value ℓ).result = .ok () ∧
      (execute C (deployed t hA below) accounts .current_value ℓ).return_data =
        (ID, Codec.u64.encode v) := by
  have hlength := Codec.length_encode_u64 v
  have hbehaves : Behaves C (deployed t hA below) accounts ℓ ix _ :=
    behaves_of_reports hplan hlisted hadapter h
  obtain ⟨-, -, hok⟩ := execute_current_value hplan hbehaves
  obtain ⟨hresult, hreturn⟩ := hok hlength.ge
  refine ⟨hresult, hreturn.trans ?_⟩
  show (ID, (Codec.u64.encode v).take 8) = _
  rw [List.take_of_length_le hlength.le]

/-- The dispatcher's `current_value` succeeds when the adapter is passed and has a value to
report. -/
theorem execute_current_value_succeeds_iff
    (hplan : CurrentValue.route.planAt C accounts ℓ = .ok (ix, ctx))
    (hadapter : ix.program_id = A.ID) :
    (execute C (deployed t hA below) accounts .current_value ℓ).result = .ok () ↔
      A.ID ∈ accounts.map AccountMeta.pubkey ∧ ∃ v, A.Reports (cpiAccounts ℓ ix.accounts) v := by
  constructor
  · intro hok
    have hlisted : A.ID ∈ accounts.map AccountMeta.pubkey :=
      hadapter ▸ passed_of_execute_route Call.route_current_value hplan hok
    refine ⟨hlisted, ?_⟩
    have hcall := env_call_current_value t hA below hplan hlisted hadapter
    rcases hrun : A.adapter_current_value (cpiAccounts ℓ ix.accounts)
      ⟨A.ID, t, below.callFrom ix⟩ ⟨ℓ, (A.ID, []), [], [(ID, ix)]⟩ with ⟨err | ⟨⟩, m⟩
    · rw [hrun] at hcall
      rw [execute_of_route Call.route_current_value,
        transact_relay_of_call_error hplan hcall] at hok
      exact absurd hok (by simp)
    · exact AdapterProgram.adapter_current_value_succeeds_iff.mp (congrArg Prod.fst hrun)
  · rintro ⟨hlisted, v, h⟩
    exact (execute_current_value_of_reports hplan hlisted hadapter h).1

end Deployed

end Dispatcher

/-! ## Genuine positions -/

namespace Reference

variable (X : ThirdParty) (syrupUSDC : Pubkey)

/-- A position of `authority` that the protocol has written. -/
def Genuine (authority : Pubkey) (info : AccountInfo) : Reference → Prop
  | .maple => info.owner = X.spl.ID ∧ ∃ account, X.spl.unpack info.data = .ok account ∧
      account.owner = authority ∧ account.mint = syrupUSDC
  | .kamino => info.owner = KaminoAdapter.PROGRAM_ID
  | .marginfi => info.owner = MarginfiAdapter.PROGRAM_ID
  | .jupiter => info.owner = JupiterAdapter.PROGRAM_ID
  | .drift => info.owner = DriftAdapter.PROGRAM_ID

/-- The accounts are those of a caller and a position of theirs. -/
def GenuineFirst (A : Reference) (accounts : List AccountInfo) : Prop :=
  ∃ authority info more, accounts = authority :: info :: more ∧
    A.Genuine X syrupUSDC authority.key info

/-- The accounts are those of a caller that the adapter takes and of anything that it
can read. -/
def ReadableFirst (A : Reference) (accounts : List AccountInfo) : Prop :=
  ∃ authority info more, accounts = authority :: info :: more ∧ authority.is_signer = true ∧
    ((A.program X).current_value_mut = true → authority.is_writable = true) ∧ Readable X A info

variable {X syrupUSDC} {A : Reference} {accounts : List AccountInfo}

theorem readableFirst_iff :
    ReadableFirst X A accounts ↔ ∃ v, (A.program X).Reports accounts v := by
  constructor
  · rintro ⟨authority, info, more, haccounts, hsigner, hmut, hreadable⟩
    exact ⟨_, reports_iff.mpr ⟨authority, info, more, haccounts, hsigner, hmut, hreadable, rfl⟩⟩
  · rintro ⟨v, hreports⟩
    obtain ⟨authority, info, more, haccounts, hsigner, hmut, hreadable, -⟩ :=
      reports_iff.mp hreports
    exact ⟨authority, info, more, haccounts, hsigner, hmut, hreadable⟩

/-- **When only genuine positions are reported**: whatever the adapter can read has to be
one, since that it can be read is all that the adapter asks.  So it is when the adapter
is run, and so it is when the dispatcher runs it, which it does when the adapter's account
is among those passed. -/
theorem current_value_genuine_iff :
    (∀ accounts e m,
      (((A.program X).adapter_current_value accounts e m).1 = .ok () →
        GenuineFirst X syrupUSDC A accounts) ↔
      (ReadableFirst X A accounts → GenuineFirst X syrupUSDC A accounts)) ∧
    ∀ C t below accounts ℓ ix ctx,
      Dispatcher.CurrentValue.route.planAt C accounts ℓ = .ok (ix, ctx) →
      ix.program_id = (A.program X).ID →
      (((Dispatcher.execute C (Dispatcher.deployed t (Dispatcher.separate_reference X A) below)
          accounts .current_value ℓ).result = .ok () →
        GenuineFirst X syrupUSDC A (cpiAccounts ℓ ix.accounts)) ↔
      ((A.program X).ID ∈ accounts.map AccountMeta.pubkey →
        ReadableFirst X A (cpiAccounts ℓ ix.accounts) →
        GenuineFirst X syrupUSDC A (cpiAccounts ℓ ix.accounts))) := by
  constructor
  · intro accounts e m
    rw [AdapterProgram.adapter_current_value_succeeds_iff, readableFirst_iff]
  · intro C t below accounts ℓ ix ctx hplan hadapter
    rw [Dispatcher.execute_current_value_succeeds_iff hplan hadapter, readableFirst_iff, and_imp]

/-! ## Forged positions -/

/-- **Any value can be forged** for MarginFi, Jupiter and Drift: there are bytes that are
read as it in whatever account they are. -/
theorem exists_forged (hA : A = .marginfi ∨ A = .jupiter ∨ A = .drift) (v : UInt64) :
    ∃ data, ∀ info : AccountInfo, info.data = data → Readable X A info ∧ v = valueOf X A info := by
  -- zeros up to the offset that is read, and the value there
  rcases hA with rfl | rfl | rfl
  · refine ⟨u128Format.placed 0 MarginfiAdapter.ASSET_SHARES.toNat
      (BitVec.ofNat 128 v.toNat), ?_⟩
    rintro info hdata
    constructor
    · show _ ≤ info.data.length
      rw [hdata, FixedFormat.length_placed]
    · show v = UInt64.ofNat (u128Format.valueAt info.data _).toNat
      have hsmall : v.toNat % 2 ^ 128 = v.toNat := by
        have := v.toNat_lt
        omega
      rw [hdata, FixedFormat.valueAt_placed _ _ _ trivial, BitVec.toNat_ofNat, hsmall,
        UInt64.ofNat_toNat]
  · refine ⟨u64Format.placed 0 JupiterAdapter.LOCKED_COLLATERAL.toNat v, ?_⟩
    rintro info hdata
    constructor
    · show _ ≤ info.data.length
      rw [hdata, FixedFormat.length_placed]
    · show v = u64Format.valueAt info.data _
      rw [hdata, FixedFormat.valueAt_placed _ _ _ trivial]
  · refine ⟨u64Format.placed 0 DriftAdapter.SPOT_0_SCALED_BALANCE.toNat v, ?_⟩
    rintro info hdata
    constructor
    · show _ ≤ info.data.length
      rw [hdata, FixedFormat.length_placed]
    · show v = u64Format.valueAt info.data _
      rw [hdata, FixedFormat.valueAt_placed _ _ _ trivial]

end Reference

namespace Dispatcher

open Reference

/-- The address of a forged account. -/
def forgedAddress : Pubkey := ⟨List.replicate 32 8, rfl⟩

/-- The program of the caller, which has written it. -/
def forgedOwner : Pubkey := ⟨List.replicate 32 9, rfl⟩

/-- The ledger in which the account looks like a Drift user. -/
def forgedLedger (v : UInt64) : Ledger :=
  Function.update sampleLedger forgedAddress
    ⟨0, forgedOwner, u64Format.placed 0 DriftAdapter.SPOT_0_SCALED_BALANCE.toNat v⟩

/-- The forged account, the caller where it is writable, and the adapter. -/
def forgedRemaining : List AccountMeta :=
  [⟨forgedAddress, false, false⟩, ⟨INITIALIZER, true, true⟩, ⟨DriftAdapter.ID, false, false⟩]

/-- What the adapter sees of them. -/
def forgedSeen (v : UInt64) : List AccountInfo :=
  cpiAccounts (forgedLedger v) (AccountMeta.new_readonly INITIALIZER true :: forgedRemaining)

/-- The caller asks for the value of the forged account. -/
def askForged (X : ThirdParty) (v : UInt64) : Outcome YieldError Event :=
  execute sampleCrypto (deployed 1700000000 (separate_reference X .drift) (quietBelow _))
    (driftAccounts forgedRemaining) .current_value (forgedLedger v)

theorem forgedSeen_eq (v : UInt64) :
    forgedSeen v = (⟨INITIALIZER, true, true⟩ :: forgedRemaining).map
      (AccountInfo.load (forgedLedger v)) := by
  have hmerge : mergeFlags (AccountMeta.new_readonly INITIALIZER true :: forgedRemaining) =
      ⟨INITIALIZER, true, true⟩ :: forgedRemaining := by decide
  rw [forgedSeen, cpiAccounts, hmerge]

theorem forgedLedger_forged (v : UInt64) : forgedLedger v forgedAddress =
    ⟨0, forgedOwner, u64Format.placed 0 DriftAdapter.SPOT_0_SCALED_BALANCE.toNat v⟩ := by
  unfold forgedLedger
  rw [Function.update_self]

theorem planAt_forgedLedger (v : UInt64) : ∃ ix ctx,
    CurrentValue.route.planAt sampleCrypto (driftAccounts forgedRemaining) (forgedLedger v) =
      .ok (ix, ctx) ∧ ix.program_id = DriftAdapter.ID ∧
      cpiAccounts (forgedLedger v) ix.accounts = forgedSeen v := by
  have hheld : heldAdapter (forgedLedger v driftAddress) = some (driftRecord 0) := by
    unfold forgedLedger
    rw [Function.update_of_ne (by decide)]
    exact heldAdapter_sampleLedger
  exact ⟨_, _, planAt_of_driftRecord forgedRemaining hheld (by decide), rfl, rfl⟩

/-- The caller can have any value returned. -/
theorem askForged_returns (X : ThirdParty) (v : UInt64) :
    (askForged X v).result = .ok () ∧ (askForged X v).return_data = (ID, Codec.u64.encode v) := by
  obtain ⟨ix, ctx, hplan, hadapter, hseen⟩ := planAt_forgedLedger v
  have hreports : (program X .drift).Reports (cpiAccounts (forgedLedger v) ix.accounts) v := by
    rw [hseen, forgedSeen_eq]
    refine reports_iff.mpr ⟨_, _, _, rfl, rfl, fun _ => rfl, ?_, ?_⟩
    · show _ ≤ (forgedLedger v forgedAddress).data.length
      rw [forgedLedger_forged, FixedFormat.length_placed]
    · show v = u64Format.valueAt (forgedLedger v forgedAddress).data _
      rw [forgedLedger_forged, FixedFormat.valueAt_placed _ _ _ trivial]
  have hlisted : DriftAdapter.ID ∈ (driftAccounts forgedRemaining).map AccountMeta.pubkey := by
    decide
  exact execute_current_value_of_reports hplan hlisted hadapter hreports

/-- The caller has 7 returned for an account that no protocol has written. -/
theorem current_value_not_genuine :
    (∃ ix ctx, CurrentValue.route.planAt sampleCrypto (driftAccounts forgedRemaining)
      (forgedLedger 7) = .ok (ix, ctx) ∧ ix.program_id = DriftAdapter.ID ∧
      cpiAccounts (forgedLedger 7) ix.accounts = forgedSeen 7) ∧
    (askForged sampleThirdParty 7).return_data = (ID, Codec.u64.encode 7) ∧
    ¬ ((askForged sampleThirdParty 7).result = .ok () →
      GenuineFirst sampleThirdParty USDC .drift (forgedSeen 7)) := by
  obtain ⟨hok, hreturn⟩ := askForged_returns sampleThirdParty 7
  -- were it genuine, the account behind the caller would be Drift's
  refine ⟨planAt_forgedLedger 7, hreturn, fun hgenuine => ?_⟩
  obtain ⟨authority, info, more, haccounts, howner⟩ := hgenuine hok
  rw [forgedSeen_eq] at haccounts
  obtain ⟨-, hrest⟩ := List.cons.inj haccounts
  obtain ⟨rfl, -⟩ := List.cons.inj hrest
  change (forgedLedger 7 forgedAddress).owner = _ at howner
  rw [forgedLedger_forged] at howner
  exact absurd howner (by decide)

end Dispatcher
