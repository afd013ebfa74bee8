/-
# What the protocols are sent

A request for a row of a table of selectors that passes the adapter's checks becomes one
protocol instruction, whose data is a function of the row, the amount and the bytes
behind the selector; and no other request becomes any.
-/
import YieldAdapter.AdapterRuns
import YieldAdapter.FlowSeparation

open Solana

namespace Dispatcher

/-! ## Requests -/

/-- A request for a row of the table, with the bytes behind its selector. -/
structure Requests (d : Direction) (A : Reference) (ctx : Context) (extra_data : List UInt8)
    (entry : SelectorEntry) (tail : List UInt8) : Prop where
  mem_table : entry ∈ d.table A
  extra_data_eq : extra_data = entry.selector :: tail
  accountsOk : AccountsOk ctx A

section Run

variable {X : ThirdParty} {A : Reference} {d : Direction} {t : Int64} {below : Below (A.program X)}
  {accounts : List AccountInfo} {amount : UInt64} {extra_data tail : List UInt8}
  {entry : SelectorEntry} {m : Machine Event} {ctx : Context}

/-- **What is planned**: the row's instruction over the remaining accounts. -/
theorem plan_eq_ok_iff (amount : UInt64) (hA : A ≠ .drift)
    (hctx : Context.try_accounts (d.flow (A.program X)).authority_mut accounts = .ok ctx)
    {ix : Instruction} :
    (∃ report, d.plan (A.program X) accounts amount extra_data = .ok (ix, report)) ↔
      ∃ entry tail, Requests d A ctx extra_data entry tail ∧
        ix = ⟨(A.program X).PROGRAM_ID, ctx.remaining_accounts.map AccountInfo.toMeta,
          entry.data A amount tail⟩ := by
  constructor
  · rintro ⟨report, hplan⟩
    obtain ⟨ctx', selector, tail, payload, hctx', hvalidate, rfl, hdispatch, rfl, -⟩ :=
      AdapterFlow.plan_eq_ok.mp hplan
    obtain rfl := Except.ok.inj (hctx.symm.trans hctx')
    obtain ⟨entry, hentry, rfl, rfl⟩ := (dispatch_eq_ok_iff hA).mp hdispatch
    exact ⟨entry, tail, ⟨hentry, rfl, (validate_eq_ok_iff.mp hvalidate).2⟩, rfl⟩
  · rintro ⟨entry, tail, ⟨hentry, rfl, haccounts⟩, rfl⟩
    have hdispatch : (d.flow (A.program X)).dispatch entry.selector amount
        (entry.selector :: tail) = .ok ⟨entry.data A amount tail, amount⟩ :=
      (dispatch_eq_ok_iff hA).mpr ⟨entry, hentry, rfl, rfl⟩
    exact ⟨_, AdapterFlow.plan_eq_ok.mpr ⟨ctx, entry.selector, tail, _, hctx,
      validate_eq_ok_iff.mpr ⟨by simp, haccounts⟩, rfl, hdispatch, rfl, rfl⟩⟩

/-- **Protocol encoding.**  Behind the accounts struct, a request for a row of the table
makes the adapter perform one instruction, its row's, and anything else makes it perform
none.  Within one entry point the data of the instruction tells the request, except that
Maple's does not tell the amount. -/
theorem protocol_encoding (hA : A ≠ .drift)
    (hctx : Context.try_accounts (d.flow (A.program X)).authority_mut accounts = .ok ctx) :
    (∀ entry tail, Requests d A ctx extra_data entry tail →
      performed (d.run (A.program X) accounts amount extra_data) (below.env t) m =
        [⟨(A.program X).PROGRAM_ID, ctx.remaining_accounts.map AccountInfo.toMeta,
          entry.data A amount tail⟩]) ∧
    ((¬ ∃ entry tail, Requests d A ctx extra_data entry tail) →
      performed (d.run (A.program X) accounts amount extra_data) (below.env t) m = []) ∧
    ∀ entry ∈ d.table A, ∀ entry' ∈ d.table A, ∀ amount amount' tail tail',
      entry.data A amount tail = entry'.data A amount' tail' →
        entry.selector = entry'.selector ∧ entry.forwarded tail = entry'.forwarded tail' ∧
          (A ≠ .maple → amount = amount') := by
  rw [performed_run (separate_reference X A)]
  refine ⟨?_, ?_, ?_⟩
  · intro entry tail hrequests
    obtain ⟨report, hplan⟩ := (plan_eq_ok_iff amount hA hctx).mpr
      ⟨entry, tail, hrequests, rfl⟩
    rw [hplan]
    rfl
  · intro hnone
    refine planned_eq_nil_iff.mpr ?_
    rcases hplan : d.plan (A.program X) accounts amount extra_data with err | ⟨ix, report⟩
    · exact ⟨err, rfl⟩
    · obtain ⟨entry, tail, hrequests, -⟩ := (plan_eq_ok_iff amount hA hctx).mp ⟨report, hplan⟩
      exact absurd ⟨entry, tail, hrequests⟩ hnone
  · intro entry hentry entry' hentry' amount amount' tail tail' hdata
    obtain ⟨rfl, hforwarded, hamount⟩ := data_inj hentry hentry' hdata
    exact ⟨rfl, hforwarded, hamount⟩

/-- A deposit of 5 into Kamino by `deposit_and_withdraw`, with one more byte. -/
theorem protocol_encoding_kamino :
    let A := KaminoAdapter.program sampleThirdParty.klend
    performed (Direction.deposit.run A (authorityAnd A.PROGRAM_ID) 5 [3, 9])
      ((quietBelow A).env 1700000000) (Machine.start A.ID genesis) =
        [⟨KaminoAdapter.PROGRAM_ID, [⟨KaminoAdapter.PROGRAM_ID, false, false⟩],
          KaminoAdapter.DEPOSIT_AND_WITHDRAW ++ Codec.u64.encode 5 ++ [9]⟩] := by
  intro A
  have hctx : Context.try_accounts (Direction.deposit.flow
      (Reference.program sampleThirdParty .kamino)).authority_mut
        (authorityAnd KaminoAdapter.PROGRAM_ID) = .ok _ := rfl
  exact (protocol_encoding (A := .kamino) (by decide) hctx).1
    ⟨3, KaminoAdapter.DEPOSIT_AND_WITHDRAW, true⟩ [9]
    ⟨by decide, rfl, show INITIALIZER ≠ Pubkey.default by decide⟩

/-- An authority, which is every account of a Maple message as well but for the last, the
program that is to be called. -/
def mapleAccounts : List AccountInfo :=
  List.replicate 19 ⟨INITIALIZER, true, true, 0, System.ID, []⟩ ++
    [⟨MapleAdapter.PROGRAM_ID, false, false, 0, System.ID, []⟩]

/-- Maple is sent the same for an amount of 5 as for one of 6. -/
theorem protocol_encoding_maple :
    let A := MapleAdapter.program sampleThirdParty.spl
    let sent := fun amount => performed (Direction.deposit.run A mapleAccounts amount [0, 9])
      ((quietBelow A).env 1700000000) (Machine.start A.ID genesis)
    sent 5 ≠ [] ∧ sent 5 = sent 6 ∧ (5 : UInt64) ≠ 6 := by
  intro A sent
  have hsent : ∀ amount, sent amount = [⟨MapleAdapter.PROGRAM_ID,
      (mapleAccounts.drop 1).map AccountInfo.toMeta, MapleAdapter.CCIP_SEND ++ [9]⟩] := by
    intro amount
    have hplan : Direction.deposit.plan A mapleAccounts amount [0, 9] = .ok (_, _) := rfl
    have hperformed : sent amount = planned _ :=
      performed_run (separate_reference sampleThirdParty .maple)
    rw [hperformed, show Direction.plan _ _ _ _ _ = _ from hplan]
    rfl
  -- the amount does not occur in what is sent
  refine ⟨?_, (hsent 5).trans (hsent 6).symm, by decide⟩
  rw [hsent]
  simp

end Run

end Dispatcher
