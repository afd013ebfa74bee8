/-
# The interface on the wire

What the dispatcher writes, every adapter reads back: the same entry point, amount
and `extra_data`, with no byte left over.  Writing is injective, so no routed call
is ever received as another one.
-/
import YieldAdapter.Admissibility

open Solana

namespace Dispatcher

/-! ## Reading what was written -/

/-- Data that fits behind a discriminator is read back, whole. -/
theorem fits_of_le {α : Type} (e : UInt64 × List UInt8 ≃ α) {a : α}
    (h : (e.symm a).2.length ≤ EXTRA_DATA_MAX_LEN) : (amountDataCodec e).Fits a := by
  rw [fits_amountDataCodec_iff]
  exact lt_of_le_of_lt h (by decide)

/-- A discriminator and what follows it are told apart. -/
theorem split_data {α : Type} (c : Codec α) {discriminator : List UInt8}
    (hlength : discriminator.length = 8) {a : α} (hfits : c.Fits a) :
    (discriminator ++ c.encode a).take 8 = discriminator ∧
      c.decode ((discriminator ++ c.encode a).drop 8) = some (a, []) := by
  refine ⟨List.take_left' hlength, ?_⟩
  rw [List.drop_left' hlength]
  exact c.decode_encode hfits

theorem decode_deposit_data {args : DepositArgs}
    (h : args.extra_data.length ≤ EXTRA_DATA_MAX_LEN) :
    AdapterCall.decode (Deposit.data args) =
      .ok (.adapter_deposit ⟨args.amount, args.extra_data⟩, []) := by
  -- both sides declare their own arguments, with the same format
  have hdata : Deposit.data args = ADAPTER_DEPOSIT_DISCRIMINATOR ++
      AdapterDepositArgs.codec.encode ⟨args.amount, args.extra_data⟩ := rfl
  obtain ⟨htake, hdecode⟩ := split_data AdapterDepositArgs.codec
    (rfl : ADAPTER_DEPOSIT_DISCRIMINATOR.length = 8)
    (a := ⟨args.amount, args.extra_data⟩) (fits_of_le _ h)
  rw [hdata, AdapterCall.decode, if_pos htake, hdecode]

theorem decode_withdraw_data {args : WithdrawArgs}
    (h : args.extra_data.length ≤ EXTRA_DATA_MAX_LEN) :
    AdapterCall.decode (Withdraw.data args) =
      .ok (.adapter_withdraw ⟨args.amount, args.extra_data⟩, []) := by
  have hdata : Withdraw.data args = ADAPTER_WITHDRAW_DISCRIMINATOR ++
      AdapterWithdrawArgs.codec.encode ⟨args.amount, args.extra_data⟩ := rfl
  obtain ⟨htake, hdecode⟩ := split_data AdapterWithdrawArgs.codec
    (rfl : ADAPTER_WITHDRAW_DISCRIMINATOR.length = 8)
    (a := ⟨args.amount, args.extra_data⟩) (fits_of_le _ h)
  rw [hdata, AdapterCall.decode, if_neg (by rw [htake]; decide), if_pos htake, hdecode]

theorem decode_current_value_data :
    AdapterCall.decode ADAPTER_CURRENT_VALUE_DISCRIMINATOR = .ok (.adapter_current_value, []) :=
  rfl

/-! ## Routed calls and what they are received as -/

/-- The adapter's side of a routed call. -/
def Call.received : Call → Option AdapterCall
  | .deposit args => some (.adapter_deposit ⟨args.amount, args.extra_data⟩)
  | .withdraw args => some (.adapter_withdraw ⟨args.amount, args.extra_data⟩)
  | .current_value => some .adapter_current_value
  | .registry_init | .adapter_init _ | .toggle_adapter => none

/-- The dispatcher's side of a received call. -/
def sentCall : AdapterCall → Call
  | .adapter_deposit args => .deposit ⟨args.amount, args.extra_data⟩
  | .adapter_withdraw args => .withdraw ⟨args.amount, args.extra_data⟩
  | .adapter_current_value => .current_value

/-- Only one call is received as a given one. -/
theorem Call.eq_sentCall_of_received {call : Call} {received : AdapterCall}
    (h : call.received = some received) : call = sentCall received := by
  cases call with
  | deposit args =>
      obtain rfl := Option.some.inj h
      rfl
  | withdraw args =>
      obtain rfl := Option.some.inj h
      rfl
  | current_value =>
      obtain rfl := Option.some.inj h
      rfl
  | registry_init => exact absurd h (by simp [Call.received])
  | adapter_init args => exact absurd h (by simp [Call.received])
  | toggle_adapter => exact absurd h (by simp [Call.received])

/-- **What the dispatcher writes, an adapter reads back**, with no byte left over. -/
theorem Call.decode_route_data {call : Call} {r : Route} (h : call.route = some r)
    (hfits : ∀ data, call.extra_data = some data → data.length ≤ EXTRA_DATA_MAX_LEN) :
    ∃ received, call.received = some received ∧
      AdapterCall.decode r.data = .ok (received, []) := by
  obtain ⟨args, rfl, rfl⟩ | ⟨args, rfl, rfl⟩ | ⟨rfl, rfl⟩ := Call.route_cases h
  · exact ⟨_, rfl, decode_deposit_data (hfits _ rfl)⟩
  · exact ⟨_, rfl, decode_withdraw_data (hfits _ rfl)⟩
  · exact ⟨_, rfl, decode_current_value_data⟩

/-- Entering an adapter with data that it reads as a call. -/
theorem adapterEntry_of_decode {run : List AccountInfo → AdapterCall → Prog Unit}
    {data rest : List UInt8} {received : AdapterCall}
    (h : AdapterCall.decode data = .ok (received, rest)) (accounts : List AccountInfo) :
    adapterEntry run accounts data = run accounts received := by
  rw [adapterEntry, h]
  rfl

/-! ## Every adapter of the repository -/

/-- The adapters of the repository, with the mock adapter of its tests. -/
inductive RepositoryAdapter where
  | mock
  | reference (A : Reference)

/-- What the entry points of an adapter do. -/
def RepositoryAdapter.run (X : ThirdParty) : RepositoryAdapter →
    List AccountInfo → AdapterCall → Prog Unit
  | .mock => MockAdapter.run
  | .reference A => (A.program X).run

section Handlers

variable (X : ThirdParty) (A : RepositoryAdapter) (accounts : List AccountInfo)

/-- `adapter_deposit` of an adapter. -/
def RepositoryAdapter.adapter_deposit (args : AdapterDepositArgs) : Prog Unit :=
  match A with
  | .mock => MockAdapter.adapter_deposit accounts args
  | .reference A => (A.program X).adapter_deposit accounts args

/-- `adapter_withdraw`. -/
def RepositoryAdapter.adapter_withdraw (args : AdapterWithdrawArgs) : Prog Unit :=
  match A with
  | .mock => MockAdapter.adapter_withdraw accounts args
  | .reference A => (A.program X).adapter_withdraw accounts args

/-- `adapter_current_value`. -/
def RepositoryAdapter.adapter_current_value : Prog Unit :=
  match A with
  | .mock => MockAdapter.adapter_current_value accounts
  | .reference A => (A.program X).adapter_current_value accounts

end Handlers

/-- **ABI round trip.**  A routed call with `extra_data` within the limit is received
by every adapter as the same entry point with the same amount and `extra_data`: no byte
is left over, and it is the handler of that entry point that runs, with these arguments.
No other call is written as the same data. -/
theorem abi_round_trip {X : ThirdParty} {A : RepositoryAdapter} {call call' : Call}
    {r r' : Route} (h : call.route = some r) (h' : call'.route = some r')
    (hfits : ∀ data, call.extra_data = some data → data.length ≤ EXTRA_DATA_MAX_LEN)
    (hfits' : ∀ data, call'.extra_data = some data → data.length ≤ EXTRA_DATA_MAX_LEN) :
    (∃ received, call.received = some received ∧
      AdapterCall.decode r.data = .ok (received, [])) ∧
    (∀ accounts,
      (∀ args, call = .deposit args → adapterEntry (A.run X) accounts r.data =
        A.adapter_deposit X accounts ⟨args.amount, args.extra_data⟩) ∧
      (∀ args, call = .withdraw args → adapterEntry (A.run X) accounts r.data =
        A.adapter_withdraw X accounts ⟨args.amount, args.extra_data⟩) ∧
      (call = .current_value → adapterEntry (A.run X) accounts r.data =
        A.adapter_current_value X accounts)) ∧
    (r.data = r'.data → call = call') := by
  obtain ⟨received, hreceived, hdecode⟩ := Call.decode_route_data h hfits
  obtain ⟨received', hreceived', hdecode'⟩ := Call.decode_route_data h' hfits'
  refine ⟨⟨received, hreceived, hdecode⟩, fun accounts => ?_, fun hdata => ?_⟩
  · rw [adapterEntry_of_decode hdecode]
    refine ⟨?_, ?_, ?_⟩
    · rintro args rfl
      obtain rfl := Option.some.inj hreceived
      cases A <;> rfl
    · rintro args rfl
      obtain rfl := Option.some.inj hreceived
      cases A <;> rfl
    · rintro rfl
      obtain rfl := Option.some.inj hreceived
      cases A <;> rfl
  · rw [hdata, hdecode'] at hdecode
    obtain ⟨rfl, -⟩ := Prod.mk.inj (Except.ok.inj hdecode)
    exact (Call.eq_sentCall_of_received hreceived).trans
      (Call.eq_sentCall_of_received hreceived').symm

/-- A deposit through the mock adapter, which is not written as the withdrawal of the same
amount with the same `extra_data`. -/
theorem abi_round_trip_deposit :
    (∀ accounts, adapterEntry (RepositoryAdapter.mock.run sampleThirdParty) accounts
      (Deposit.route ⟨5, [0, 255]⟩).data =
        MockAdapter.adapter_deposit accounts ⟨5, [0, 255]⟩) ∧
    (Deposit.route ⟨5, [0, 255]⟩).data ≠ (Withdraw.route ⟨5, [0, 255]⟩).data := by
  obtain ⟨-, hrun, hinj⟩ := @abi_round_trip sampleThirdParty .mock (.deposit ⟨5, [0, 255]⟩)
    (.withdraw ⟨5, [0, 255]⟩) _ _ rfl rfl (by rintro _ ⟨⟩; decide) (by rintro _ ⟨⟩; decide)
  exact ⟨fun accounts => (hrun accounts).1 _ rfl, fun hdata => absurd (hinj hdata) (by simp)⟩

end Dispatcher
