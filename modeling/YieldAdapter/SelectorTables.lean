/-
# Tables of selectors

What the functions of Kamino, MarginFi, Jupiter and Maple have in common: a selector
stands for a discriminator, and for whether the bytes behind it are sent on.  Drift has
its own arrangement of the data, and is left out.
-/
import YieldAdapter.Deployment
import YieldAdapter.Selectors

open Solana

namespace Dispatcher

/-! ## Data -/

/-- Data that starts with a discriminator. -/
theorem take_of_starts {discriminator data : List UInt8} (h : discriminator <+: data)
    (hlength : discriminator.length = 8) : data.take 8 = discriminator := by
  rw [← hlength]
  exact (List.prefix_iff_eq_take.mp h).symm

theorem prefix_withAmount (discriminator : List UInt8) (amount : UInt64) (tail : List UInt8) :
    discriminator <+: (Payload.withAmount discriminator amount tail).data :=
  (List.prefix_append _ _).trans (List.prefix_append _ _)

/-- The amount and the forwarded bytes can be read off the data. -/
theorem withAmount_inj {discriminator : List UInt8} {amount amount' : UInt64}
    {tail tail' : List UInt8}
    (h : (Payload.withAmount discriminator amount tail).data =
      (Payload.withAmount discriminator amount' tail').data) :
    amount = amount' ∧ tail = tail' := by
  simp only [Payload.withAmount, List.append_assoc] at h
  exact Codec.u64.encode_append_inj trivial trivial (List.append_cancel_left h)

/-! ## Tables -/

/-- A row of a table of selectors. -/
structure SelectorEntry where
  selector : UInt8
  discriminator : List UInt8
  /-- Whether the bytes behind the selector are sent on. -/
  forwards : Bool
  deriving DecidableEq

/-- The bytes that are sent on, of those behind the selector. -/
def SelectorEntry.forwarded (entry : SelectorEntry) (tail : List UInt8) : List UInt8 :=
  if entry.forwards then tail else []

/-- The tables. -/
def Direction.table : Direction → Reference → List SelectorEntry
  | .deposit, .kamino =>
      [⟨0, KaminoAdapter.DEPOSIT_RESERVE_LIQUIDITY_AND_OBLIGATION_COLLATERAL_V2_DISCRIMINATOR,
          false⟩,
        ⟨1, KaminoAdapter.DEPOSIT_RESERVE_LIQUIDITY, false⟩,
        ⟨2, KaminoAdapter.DEPOSIT_OBLIGATION_COLLATERLA_V2, false⟩,
        ⟨3, KaminoAdapter.DEPOSIT_AND_WITHDRAW, true⟩]
  | .withdraw, .kamino =>
      [⟨0, KaminoAdapter.WITHDRAW_OBLIGATION_COLLATERAL_AND_REDEEM_RESERVE_COLLATERAL_V2, false⟩,
        ⟨1, KaminoAdapter.REDEEM_RESERVE_COLLATERAL, true⟩,
        ⟨2, KaminoAdapter.DEPOSIT_AND_WITHDRAW, true⟩]
  | .deposit, .marginfi => [⟨0, MarginfiAdapter.LENDING_ACCOUNT_DEPOSIT_DISCRIMINATOR, true⟩]
  | .withdraw, .marginfi => [⟨0, MarginfiAdapter.LENDING_ACCOUNT_WITHDRAW_DISCRIMINATOR, true⟩]
  | .deposit, .jupiter =>
      [⟨0, JupiterAdapter.DEPOSIT_COLLATERAL_FOR_BORROWS_DISCRIMINATOR, false⟩,
        ⟨1, JupiterAdapter.ADD_LIQUIDITY2, true⟩]
  | .withdraw, .jupiter =>
      [⟨0, JupiterAdapter.WITHDRAW_COLLATERAL_FOR_BORROWS_DISCRIMINATOR, false⟩,
        ⟨1, JupiterAdapter.REMOVE_LIQUIDITY, true⟩]
  | _, .maple => [⟨0, MapleAdapter.CCIP_SEND, true⟩]
  | _, .drift => []

/-- The data that a row stands for.  Maple's message carries its own amount. -/
def SelectorEntry.data (entry : SelectorEntry) (A : Reference) (amount : UInt64)
    (tail : List UInt8) : List UInt8 :=
  if A = .maple then entry.discriminator ++ entry.forwarded tail
  else entry.discriminator ++ Codec.u64.encode amount ++ entry.forwarded tail

section Table

variable {X : ThirdParty} {A : Reference} {d : Direction} {amount amount' : UInt64}
  {selector : UInt8} {tail tail' : List UInt8} {payload : Payload} {entry entry' : SelectorEntry}

theorem SelectorEntry.data_of_ne (hA : A ≠ .maple) : entry.data A amount tail =
    (Payload.withAmount entry.discriminator amount (entry.forwarded tail)).data := if_neg hA

/-- **A function assembles what its row stands for**, and reports the amount. -/
theorem dispatch_eq_ok_iff (hA : A ≠ .drift) :
    (d.flow (A.program X)).dispatch selector amount (selector :: tail) = .ok payload ↔
      ∃ entry ∈ d.table A, selector = entry.selector ∧
        payload = ⟨entry.data A amount tail, amount⟩ := by
  cases A with
  | kamino =>
      cases d with
      | deposit =>
          refine KaminoAdapter.AdapterDeposit_dispatch_eq_ok.trans ?_
          simp [Direction.table, SelectorEntry.data, SelectorEntry.forwarded, Payload.withAmount]
      | withdraw =>
          refine KaminoAdapter.AdapterWithdraw_dispatch_eq_ok.trans ?_
          simp [Direction.table, SelectorEntry.data, SelectorEntry.forwarded, Payload.withAmount]
  | marginfi =>
      cases d with
      | deposit =>
          refine MarginfiAdapter.AdapterDeposit_dispatch_eq_ok.trans ?_
          simp [Direction.table, SelectorEntry.data, SelectorEntry.forwarded, Payload.withAmount]
      | withdraw =>
          refine MarginfiAdapter.AdapterWithdraw_dispatch_eq_ok.trans ?_
          simp [Direction.table, SelectorEntry.data, SelectorEntry.forwarded, Payload.withAmount]
  | jupiter =>
      cases d with
      | deposit =>
          refine JupiterAdapter.AdapterDeposit_dispatch_eq_ok.trans ?_
          simp [Direction.table, SelectorEntry.data, SelectorEntry.forwarded, Payload.withAmount]
      | withdraw =>
          refine JupiterAdapter.AdapterWithdraw_dispatch_eq_ok.trans ?_
          simp [Direction.table, SelectorEntry.data, SelectorEntry.forwarded, Payload.withAmount]
  | maple =>
      cases d with
      | deposit =>
          refine MapleAdapter.AdapterDeposit_dispatch_eq_ok.trans ?_
          simp [Direction.table, SelectorEntry.data, SelectorEntry.forwarded]
      | withdraw =>
          refine MapleAdapter.AdapterWithdraw_dispatch_eq_ok.trans ?_
          simp [Direction.table, SelectorEntry.data, SelectorEntry.forwarded]
  | drift => exact absurd rfl hA

/-! ## One table's data -/

theorem length_discriminator (h : entry ∈ d.table A) : entry.discriminator.length = 8 := by
  have hlength : ∀ e ∈ d.table A, e.discriminator.length = 8 := by
    cases d <;> cases A <;> decide
  exact hlength entry h

/-- No two rows of a table share a discriminator. -/
theorem discriminator_inj (h : entry ∈ d.table A) (h' : entry' ∈ d.table A)
    (heq : entry.discriminator = entry'.discriminator) : entry = entry' := by
  have hinj : ∀ e ∈ d.table A, ∀ e' ∈ d.table A, e.discriminator = e'.discriminator → e = e' := by
    cases d <;> cases A <;> decide
  exact hinj entry h entry' h' heq

theorem discriminator_prefix_data (A : Reference) (entry : SelectorEntry) (amount : UInt64)
    (tail : List UInt8) : entry.discriminator <+: entry.data A amount tail := by
  by_cases hA : A = .maple
  · subst hA
    exact ⟨_, rfl⟩
  · rw [SelectorEntry.data_of_ne hA]
    exact prefix_withAmount _ _ _

/-- **The data tells the request**: the row, the forwarded bytes, and but for Maple the
amount. -/
theorem data_inj (h : entry ∈ d.table A) (h' : entry' ∈ d.table A)
    (hdata : entry.data A amount tail = entry'.data A amount' tail') :
    entry = entry' ∧ entry.forwarded tail = entry'.forwarded tail' ∧
      (A ≠ .maple → amount = amount') := by
  have hstart := take_of_starts (discriminator_prefix_data A entry amount tail)
    (length_discriminator h)
  have hstart' := take_of_starts (discriminator_prefix_data A entry' amount' tail')
    (length_discriminator h')
  rw [hdata] at hstart
  obtain rfl := discriminator_inj h h' (hstart.symm.trans hstart')
  by_cases hA : A = .maple
  · subst hA
    exact ⟨rfl, List.append_cancel_left hdata, fun hne => absurd rfl hne⟩
  · rw [SelectorEntry.data_of_ne hA, SelectorEntry.data_of_ne hA] at hdata
    obtain ⟨hamount, hforwarded⟩ := withAmount_inj hdata
    exact ⟨rfl, hforwarded, fun _ => hamount⟩

end Table

end Dispatcher
