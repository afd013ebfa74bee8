/-
# Slices that panic

What each adapter checks of its input covers every slice that its functions take, with
one exception: Drift's `deposit` and its three withdrawal functions slice the market
index out of `extra_data`, of which only the first byte is known to be there.
-/
import YieldAdapter.AdapterRuns
import YieldAdapter.FlowSeparation

open Solana

namespace Dispatcher

/-! ## Functions -/

/-- The selectors whose functions slice the market index on Drift. -/
def Direction.slicing : Direction → List UInt8
  | .deposit => [0]
  | .withdraw => [0, 1, 2]

theorem known_of_slicing {d : Direction} {selector : UInt8} (h : selector ∈ d.slicing) :
    selector ∈ [0, 1, 2] := by
  cases d with
  | deposit => exact List.mem_cons.mpr (.inl (List.mem_singleton.mp h))
  | withdraw => exact h

section Functions

variable {X : ThirdParty} {A : Reference} {d : Direction} {selector : UInt8} {amount : UInt64}
  {tail : List UInt8} {err : Error}

theorem failsProperly_sendAmountAndTail {discriminator : List UInt8} :
    FailsProperly (sendAmountAndTail discriminator amount (selector :: tail)) := by
  rw [sendAmountAndTail_cons]
  exact .ok _

theorem failsProperly_ccip_send :
    FailsProperly (MapleAdapter.ccip_send amount (selector :: tail)) := by
  rw [MapleAdapter.ccip_send, sliceFrom_one_cons]
  exact .ok _

/-- Off Drift, all that can go wrong is that the selector stands for nothing. -/
theorem failsProperly_dispatch (hA : A ≠ .drift) :
    FailsProperly ((d.flow (A.program X)).dispatch selector amount (selector :: tail)) := by
  have htail := @failsProperly_sendAmountAndTail selector amount tail
  cases A with
  | kamino =>
      cases d with
      | deposit => exact .ite (.ok _) (.ite (.ok _) (.ite (.ok _) (.ite htail (.error _))))
      | withdraw => exact .ite (.ok _) (.ite htail (.ite htail (.error _)))
  | marginfi => cases d <;> exact .ite htail (.error _)
  | jupiter => cases d <;> exact .ite (.ok _) (.ite htail (.error _))
  | maple => cases d <;> exact .ite failsProperly_ccip_send (.error _)
  | drift => exact absurd rfl hA

theorem slice_one_three_cons_eq_error {x : UInt8} {xs : List UInt8} :
    (slice (x :: xs) 1 3 : Except Error (List UInt8)) = .error err ↔
      xs.length < 2 ∧ err = .panic := by
  rw [slice_eq_error, List.length_cons]
  refine and_congr_left fun _ => ?_
  omega

theorem sendMarketAmountTail_eq_error {discriminator : List UInt8} :
    DriftAdapter.sendMarketAmountTail discriminator amount (selector :: tail) = .error err ↔
      tail.length < 2 ∧ err = .panic := by
  unfold DriftAdapter.sendMarketAmountTail
  rw [except_bind_eq_error, slice_one_three_cons_eq_error]
  constructor
  -- with a market index there, the slice behind it starts inside the data
  · rintro (h | ⟨market, hmarket, hrest⟩)
    · exact h
    · obtain ⟨hlength, -⟩ := slice_one_three_cons_eq_ok.mp hmarket
      rcases except_bind_eq_error.mp hrest with htail | ⟨_, -, hpure⟩
      · obtain ⟨hshort, -⟩ := sliceFrom_eq_error.mp htail
        rw [List.length_cons] at hshort
        omega
      · exact absurd hpure (by simp [pure, Except.pure])
  · exact .inl

/-- A function that slices the market index and nothing else. -/
theorem slice_market_eq_error {f : List UInt8 → Payload} :
    (do let market ← slice (selector :: tail) 1 3
        return f market : Except Error Payload) = .error err ↔
      tail.length < 2 ∧ err = .panic := by
  rw [except_bind_eq_error, slice_one_three_cons_eq_error]
  constructor
  · rintro (h | ⟨_, -, hpure⟩)
    · exact h
    · exact absurd hpure (by simp [pure, Except.pure])
  · exact .inl

/-- How the selection of a Drift function fails: for want of the market index, or of the
function. -/
def Direction.FailsWith (d : Direction) (selector : UInt8) (tail : List UInt8) (err : Error) :
    Prop :=
  selector ∈ d.slicing ∧ tail.length < 2 ∧ err = .panic ∨
    selector ∉ [0, 1, 2] ∧ err = adapterError .UnknownFunction

theorem failsWith_of_slicing (hslicing : selector ∈ d.slicing) :
    d.FailsWith selector tail err ↔ tail.length < 2 ∧ err = .panic := by
  unfold Direction.FailsWith
  constructor
  · rintro (⟨-, h⟩ | ⟨hunknown, -⟩)
    · exact h
    · exact absurd (known_of_slicing hslicing) hunknown
  · exact fun h => .inl ⟨hslicing, h⟩

theorem not_failsWith (hslicing : selector ∉ d.slicing) (hknown : selector ∈ [0, 1, 2]) :
    ¬ d.FailsWith selector tail err := by
  rintro (⟨h, -⟩ | ⟨hunknown, -⟩)
  · exact hslicing h
  · exact hunknown hknown

theorem failsWith_of_unknown (hunknown : selector ∉ [0, 1, 2]) :
    d.FailsWith selector tail err ↔ adapterError .UnknownFunction = err := by
  unfold Direction.FailsWith
  constructor
  · rintro (⟨h, -⟩ | ⟨-, rfl⟩)
    · exact absurd (known_of_slicing h) hunknown
    · rfl
  · rintro rfl
    exact .inr ⟨hunknown, rfl⟩

/-- **How Drift's functions fail**: those that slice the market index panic when it is not
there. -/
theorem drift_dispatch_eq_error :
    (d.flow DriftAdapter.program).dispatch selector amount (selector :: tail) = .error err ↔
      d.FailsWith selector tail err := by
  have hsent : ∀ payload, (Except.ok payload : Except Error Payload) ≠ .error err := by simp
  cases d with
  | deposit =>
      show DriftAdapter.AdapterDeposit.dispatch selector amount (selector :: tail) = _ ↔ _
      unfold DriftAdapter.AdapterDeposit
      dsimp only
      -- the two insurance functions take what there is, and so never fail
      split_ifs with h0 h1 h2
      · subst h0
        exact sendMarketAmountTail_eq_error.trans
          (failsWith_of_slicing (by decide)).symm
      · subst h1
        exact iff_of_false (hsent _) (not_failsWith (by decide) (by decide))
      · subst h2
        exact iff_of_false (hsent _) (not_failsWith (by decide) (by decide))
      · rw [failsWith_of_unknown (by simp [h0, h1, h2])]
        exact ⟨Except.error.inj, congrArg _⟩
  | withdraw =>
      show DriftAdapter.AdapterWithdraw.dispatch selector amount (selector :: tail) = _ ↔ _
      unfold DriftAdapter.AdapterWithdraw
      dsimp only
      split_ifs with h0 h1 h2
      · subst h0
        exact sendMarketAmountTail_eq_error.trans
          (failsWith_of_slicing (by decide)).symm
      · subst h1
        exact slice_market_eq_error.trans (failsWith_of_slicing (by decide)).symm
      · subst h2
        exact slice_market_eq_error.trans (failsWith_of_slicing (by decide)).symm
      · rw [failsWith_of_unknown (by simp [h0, h1, h2])]
        exact ⟨Except.error.inj, congrArg _⟩

end Functions

/-! ## Runs -/

section Run

variable {X : ThirdParty} {A : Reference} {d : Direction} {t : Int64} {below : Below (A.program X)}
  {accounts : List AccountInfo} {amount : UInt64} {extra_data : List UInt8} {m : Machine Event}
  {ctx : Context}

/-- The market index that a Drift function slices is not there. -/
def MarketMissing (A : Reference) (d : Direction) (authority : Pubkey) (extra_data : List UInt8) :
    Prop :=
  A = .drift ∧ authority ≠ Pubkey.default ∧
    ∃ selector tail, extra_data = selector :: tail ∧ selector ∈ d.slicing ∧ tail.length < 2

/-- Where the market index is missing, the plan panics. -/
theorem plan_of_marketMissing
    (hctx : Context.try_accounts (d.flow (A.program X)).authority_mut accounts = .ok ctx)
    (h : MarketMissing A d ctx.authority.key extra_data) :
    d.plan (A.program X) accounts amount extra_data = .error .panic := by
  obtain ⟨rfl, hauthority, selector, tail, rfl, hslicing, hshort⟩ := h
  have hvalidate : (d.flow ((Reference.drift).program X)).validate ctx (selector :: tail) =
      .ok () := validate_eq_ok_iff.mpr ⟨by simp, hauthority⟩
  refine (plan_eq_error hctx).mpr (.inr ⟨hvalidate, .inr ⟨selector, tail, rfl, ?_⟩⟩)
  exact drift_dispatch_eq_error.mpr (.inl ⟨hslicing, hshort, rfl⟩)

/-- Elsewhere a plan that fails, fails with an error of the adapter. -/
theorem plan_error_of_not_marketMissing
    (hctx : Context.try_accounts (d.flow (A.program X)).authority_mut accounts = .ok ctx)
    (hmarket : ¬ MarketMissing A d ctx.authority.key extra_data) {err : Error}
    (h : d.plan (A.program X) accounts amount extra_data = .error err) :
    ∃ e, err = adapterError e := by
  rcases (plan_eq_error hctx).mp h with hvalidate | ⟨hvalidate, hselect⟩
  · exact failsProperly_validate err hvalidate
  · rcases hselect with ⟨hnil, -⟩ | ⟨selector, tail, rfl, hdispatch⟩
    · exact absurd hnil (validate_eq_ok_iff.mp hvalidate).1
    · by_cases hA : A = .drift
      · subst hA
        rcases drift_dispatch_eq_error.mp hdispatch with ⟨hslicing, hshort, -⟩ | ⟨-, rfl⟩
        · have hauthority : ctx.authority.key ≠ Pubkey.default := by
            cases d <;> exact (validateAuthority_eq_ok.mp hvalidate).1
          exact absurd ⟨rfl, hauthority, selector, tail, rfl, hslicing, hshort⟩ hmarket
        · exact ⟨_, rfl⟩
      · exact failsProperly_dispatch hA err hdispatch

/-- **When no slice panics.**  Behind the accounts struct, a run ends with an error of the
adapter before it has done anything, or it performs the protocol instruction, unless a
Drift function misses its market index; and then it panics. -/
theorem run_panic_free_iff
    (hctx : Context.try_accounts (d.flow (A.program X)).authority_mut accounts = .ok ctx) :
    (((∃ e, d.run (A.program X) accounts amount extra_data (below.env t) m =
        (.error (adapterError e), m)) ∨
      ∃ ix, performed (d.run (A.program X) accounts amount extra_data) (below.env t) m = [ix]) ↔
      ¬ MarketMissing A d ctx.authority.key extra_data) ∧
    (MarketMissing A d ctx.authority.key extra_data →
      d.run (A.program X) accounts amount extra_data (below.env t) m = (.error .panic, m)) := by
  have hpanic : MarketMissing A d ctx.authority.key extra_data →
      d.run (A.program X) accounts amount extra_data (below.env t) m = (.error .panic, m) :=
    fun hmarket => run_of_plan_error (plan_of_marketMissing hctx hmarket)
  refine ⟨⟨?_, fun hmarket => ?_⟩, hpanic⟩
  · rintro hproper hmarket
    rw [performed_run (separate_reference X A), hpanic hmarket,
      plan_of_marketMissing hctx hmarket] at hproper
    rcases hproper with ⟨e, he⟩ | ⟨ix, hix⟩
    · exact absurd he (by simp)
    · exact absurd hix (by simp [planned])
  · rcases hplan : d.plan (A.program X) accounts amount extra_data with err | ⟨ix, report⟩
    · obtain ⟨e, rfl⟩ := plan_error_of_not_marketMissing hctx hmarket hplan
      exact .inl ⟨e, run_of_plan_error hplan⟩
    · refine .inr ⟨ix, ?_⟩
      rw [performed_run (separate_reference X A), hplan]
      rfl

/-- Drift's deposit of nothing but a selector panics, and calls nothing. -/
theorem deposit_panics :
    let x := Direction.deposit.run DriftAdapter.program (authorityAnd DriftAdapter.PROGRAM_ID) 5 [0]
    let e := (quietBelow DriftAdapter.program).env 1700000000
    let m := Machine.start DriftAdapter.ID genesis
    x e m = (.error .panic, m) ∧
      ¬ ((∃ err, x e m = (.error (adapterError err), m)) ∨ ∃ ix, performed x e m = [ix]) := by
  intro x e m
  have hrun : x e m = (.error .panic, m) := rfl
  refine ⟨hrun, ?_⟩
  rintro (⟨err, herr⟩ | ⟨ix, hix⟩)
  · rw [hrun] at herr
    exact absurd herr (by simp)
  · exact absurd hix (by simp [performed, hrun])

/-- With a market index, the removal of an insurance stake is requested. -/
theorem run_panic_free_request :
    let x := Direction.withdraw.run DriftAdapter.program (authorityAnd DriftAdapter.PROGRAM_ID) 5
      [1, 0, 0]
    let e := (quietBelow DriftAdapter.program).env 1700000000
    let m := Machine.start DriftAdapter.ID genesis
    (∃ err, x e m = (.error (adapterError err), m)) ∨ ∃ ix, performed x e m = [ix] := by
  intro x e m
  have hctx : Context.try_accounts (Direction.withdraw.flow
      (Reference.program sampleThirdParty .drift)).authority_mut
        (authorityAnd DriftAdapter.PROGRAM_ID) = .ok _ := rfl
  refine (run_panic_free_iff hctx).1.mpr ?_
  rintro ⟨-, -, selector, tail, hdata, -, hshort⟩
  obtain ⟨-, rfl⟩ := List.cons.inj hdata
  exact absurd hshort (by decide)

end Run

end Dispatcher
