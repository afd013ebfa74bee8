/-
# Drift's arguments

Drift's instructions take a market index, most of them an amount behind it, and two of
them a flag behind that.  The adapter puts the amount among the bytes of the request,
for which each of its functions has its own arrangement; what Drift then reads depends on
how many bytes there are.
-/
import YieldAdapter.AdapterRuns
import YieldAdapter.FlowSeparation

open Solana

/-! ## Overlapping prefixes -/

/-- A string stands in front of `front` followed by itself: it starts `front`, or it
continues where `front` ends as it begins. -/
theorem prefix_append_self_iff {α : Type*} (bs front : List α) :
    bs <+: front ++ bs ↔ bs <+: front ∨ front <+: bs ∧ bs.drop front.length <+: bs := by
  -- a string longer than `front` reaches into its own beginning
  rcases Nat.le_total bs.length front.length with hle | hle
  · constructor
    · exact fun h => .inl (List.prefix_of_prefix_length_le h (List.prefix_append _ _) hle)
    · rintro (h | ⟨h, -⟩)
      · exact h.trans (List.prefix_append _ _)
      · rw [h.eq_of_length (Nat.le_antisymm h.length_le hle)]
        exact List.prefix_append _ _
  · constructor
    · intro h
      have hfront : front <+: bs := List.prefix_of_prefix_length_le (List.prefix_append _ _) h hle
      refine .inr ⟨hfront, ?_⟩
      obtain ⟨rest, rfl⟩ := hfront
      rw [List.drop_left]
      exact (List.prefix_append_right_inj front).mp h
    · rintro (h | ⟨⟨rest, rfl⟩, h⟩)
      · exact h.trans (List.prefix_append _ _)
      · rw [List.drop_left] at h
        exact (List.prefix_append_right_inj front).mpr h

/-! ## Formats -/

namespace DriftAdapter

/-- The arguments of `deposit` and of `withdraw`. -/
structure SpotArgs where
  market_index : UInt16
  amount : UInt64
  reduce_only : Bool
  deriving DecidableEq

/-- The arguments of `add_insurance_fund_stake` and of
`request_remove_insurance_fund_stake`. -/
structure StakeArgs where
  market_index : UInt16
  amount : UInt64
  deriving DecidableEq

/-- The arguments of `initialize_insurance_fund_stake` and of
`remove_insurance_fund_stake`. -/
structure MarketArgs where
  market_index : UInt16
  deriving DecidableEq

/-- Borsh format of `SpotArgs`. -/
def SpotArgs.codec : Codec SpotArgs :=
  Codec.imap (.pair .u16 (.pair .u64 .bool))
    ⟨fun p => ⟨p.1, p.2.1, p.2.2⟩, fun a => (a.market_index, a.amount, a.reduce_only),
      fun _ => rfl, fun _ => rfl⟩

/-- Borsh format of `StakeArgs`. -/
def StakeArgs.codec : Codec StakeArgs :=
  Codec.imap (.pair .u16 .u64)
    ⟨fun p => ⟨p.1, p.2⟩, fun a => (a.market_index, a.amount), fun _ => rfl, fun _ => rfl⟩

/-- Borsh format of `MarketArgs`. -/
def MarketArgs.codec : Codec MarketArgs :=
  Codec.imap .u16 ⟨fun market_index => ⟨market_index⟩, fun a => a.market_index, fun _ => rfl,
    fun _ => rfl⟩

/-- What Drift reads for the selected instruction starts with complete arguments, which
name `market_index` and, where there is an amount, `amount`. -/
def Begins (selector : UInt8) (market_index : UInt16) (amount : UInt64) (bs : List UInt8) :
    Prop :=
  if selector = 0 then
    ∃ reduce_only rest, SpotArgs.codec.decode bs = some (⟨market_index, amount, reduce_only⟩, rest)
  else if selector = 1 then
    ∃ rest, StakeArgs.codec.decode bs = some (⟨market_index, amount⟩, rest)
  else ∃ rest, MarketArgs.codec.decode bs = some (⟨market_index⟩, rest)

/-- The arguments in `data` are the ones asked for: the market index of `extra_data[1..3]`
and the amount. -/
def Intact (amount : UInt64) (extra_data data : List UInt8) : Prop :=
  ∃ selector tail market_index rest, extra_data = selector :: tail ∧
    Codec.u16.decode tail = some (market_index, rest) ∧
    Begins selector market_index amount (data.drop 8)

/-! ## Reading arguments -/

variable {selector : UInt8} {market_index : UInt16} {amount : UInt64} {tail rest : List UInt8}

/-- Behind the market index and the amount, a flag is 0 or 1. -/
theorem begins_spot_iff :
    Begins 0 market_index amount (Codec.u16.encode market_index ++ (Codec.u64.encode amount ++
      rest)) ↔ rest[0]? = some 0 ∨ rest[0]? = some 1 := by
  have hlayout : ∀ reduce_only rest', SpotArgs.codec.decode (Codec.u16.encode market_index ++
      (Codec.u64.encode amount ++ rest)) = some (⟨market_index, amount, reduce_only⟩, rest') ↔
      rest = reduce_only.toUInt8 :: rest' := by
    intro reduce_only rest'
    rw [SpotArgs.codec.decode_eq_some_iff]
    show _ ∧ _ = Codec.u16.encode market_index ++ (Codec.u64.encode amount ++
      [reduce_only.toUInt8]) ++ rest' ↔ _
    rw [List.append_assoc, List.append_assoc, List.append_cancel_left_eq,
      List.append_cancel_left_eq]
    exact and_iff_right ⟨trivial, trivial, trivial⟩
  unfold Begins
  simp only [if_true, hlayout]
  constructor
  · rintro ⟨reduce_only, rest', rfl⟩
    cases reduce_only with
    | false => exact .inl rfl
    | true => exact .inr rfl
  · -- Borsh refuses every other byte as a flag, and there may be none
    rcases rest with _ | ⟨b, rest'⟩
    · simp
    · rintro (h | h)
      · obtain rfl := Option.some.inj h
        exact ⟨false, rest', rfl⟩
      · obtain rfl := Option.some.inj h
        exact ⟨true, rest', rfl⟩

/-- Behind the market index, the amount is a prefix. -/
theorem begins_stake_iff :
    Begins 1 market_index amount (Codec.u16.encode market_index ++ rest) ↔
      Codec.u64.encode amount <+: rest := by
  have hlayout : ∀ rest', StakeArgs.codec.decode (Codec.u16.encode market_index ++ rest) =
      some (⟨market_index, amount⟩, rest') ↔ Codec.u64.encode amount ++ rest' = rest := by
    intro rest'
    rw [StakeArgs.codec.decode_eq_some_iff]
    show _ ∧ _ = Codec.u16.encode market_index ++ Codec.u64.encode amount ++ rest' ↔ _
    rw [List.append_assoc, List.append_cancel_left_eq, eq_comm]
    exact and_iff_right ⟨trivial, trivial⟩
  have hselect : ¬ (1 : UInt8) = 0 := by decide
  unfold Begins
  rw [if_neg hselect, if_pos rfl]
  exact exists_congr hlayout

/-- The market index alone is always there. -/
theorem begins_market : Begins 2 market_index amount (Codec.u16.encode market_index ++ rest) := by
  have hselect : ¬ (2 : UInt8) = 0 ∧ ¬ (2 : UInt8) = 1 := by decide
  unfold Begins
  rw [if_neg hselect.1, if_neg hselect.2]
  exact ⟨rest, (MarketArgs.codec.decode_eq_some_iff _ _ _).mpr ⟨trivial, rfl⟩⟩

/-- Two bytes are a market index. -/
theorem exists_market_index (h : 2 ≤ tail.length) :
    ∃ market_index rest, tail = Codec.u16.encode market_index ++ rest := by
  have hdecode : Codec.u16.decode tail = some (_, _) := if_pos h
  exact ⟨_, _, ((Codec.u16.decode_eq_some_iff _ _ _).mp hdecode).2⟩

/-- What it takes for the data to be intact, when it starts with the right market. -/
theorem intact_iff {discriminator bs : List UInt8} (hlength : discriminator.length = 8) :
    Intact amount (selector :: (Codec.u16.encode market_index ++ tail))
        (discriminator ++ (Codec.u16.encode market_index ++ bs)) ↔
      Begins selector market_index amount (Codec.u16.encode market_index ++ bs) := by
  have hdecode := Codec.u16.decode_encode_append (a := market_index) trivial tail
  unfold Intact
  rw [List.drop_left' hlength]
  constructor
  · rintro ⟨selector', tail', market_index', rest, hdata, hmarket, hbegins⟩
    obtain ⟨rfl, rfl⟩ := List.cons.inj hdata
    rw [hdecode] at hmarket
    obtain ⟨rfl, -⟩ := Prod.mk.inj (Option.some.inj hmarket)
    exact hbegins
  · exact fun hbegins => ⟨_, _, _, _, rfl, hdecode, hbegins⟩

/-- Without a market index nothing is intact. -/
theorem not_intact_of_short {data : List UInt8} (h : tail.length < 2) :
    ¬ Intact amount (selector :: tail) data := by
  rintro ⟨selector', tail', market_index, rest, hdata, hmarket, -⟩
  obtain ⟨-, rfl⟩ := List.cons.inj hdata
  obtain ⟨-, rfl⟩ := (Codec.u16.decode_eq_some_iff _ _ _).mp hmarket
  rw [List.length_append, Codec.length_encode_u16] at h
  omega

end DriftAdapter

/-! ## Runs -/

namespace Dispatcher

open DriftAdapter

/-- **When the arrangement works out**, for a request that is sent: `deposit` and
`withdraw` need the flag, and the insurance fund needs a market index and nothing in the
place of the amount but the amount. -/
structure ArgumentsFit (d : Direction) (amount : UInt64) (selector : UInt8) (tail : List UInt8) :
    Prop where
  flag : selector = 0 → tail[2]? = some 0 ∨ tail[2]? = some 1
  market : selector ≠ 0 → d = .deposit → 2 ≤ tail.length
  overlap : selector = 1 → d = .deposit →
    Codec.u64.encode amount <+: tail.drop 2 ∨ tail.drop 2 <+: Codec.u64.encode amount ∧
      (Codec.u64.encode amount).drop (tail.drop 2).length <+: Codec.u64.encode amount

section Run

variable {d : Direction} {t : Int64} {below : Below DriftAdapter.program}
  {accounts : List AccountInfo} {amount : UInt64} {extra_data tail : List UInt8}
  {selector : UInt8} {payload : Payload} {m : Machine Event}

theorem getElem?_two_market (market_index : UInt16) {rest : List UInt8} :
    (Codec.u16.encode market_index ++ rest)[2]? = rest[0]? := by
  rw [List.getElem?_append_right (by rw [Codec.length_encode_u16]), Codec.length_encode_u16]

/-- `deposit` and `withdraw`: the amount comes between the market index and the rest. -/
theorem intact_spot_iff {discriminator : List UInt8} (hlength : discriminator.length = 8)
    (htail : 2 ≤ tail.length) :
    Intact amount (0 :: tail) (discriminator ++ tail.take 2 ++ Codec.u64.encode amount ++
      tail.drop 2) ↔ ArgumentsFit d amount 0 tail := by
  obtain ⟨market_index, rest, rfl⟩ := exists_market_index htail
  rw [List.take_left' (Codec.length_encode_u16 _), List.drop_left' (Codec.length_encode_u16 _),
    List.append_assoc, List.append_assoc, intact_iff hlength, begins_spot_iff,
    ← getElem?_two_market market_index]
  constructor
  · exact fun h => ⟨fun _ => h, fun h => absurd rfl h, fun h => absurd h (by decide)⟩
  · exact fun h => h.flag rfl

/-- A stake: the amount comes behind all of the bytes. -/
theorem intact_add_stake_iff :
    Intact amount (1 :: tail) (ADD_INSURANCE_FUND_STAKE ++ tail ++ Codec.u64.encode amount) ↔
      ArgumentsFit .deposit amount 1 tail := by
  rcases Nat.lt_or_ge tail.length 2 with hshort | htail
  · exact iff_of_false (not_intact_of_short hshort) fun h =>
      absurd (h.market (by decide) rfl) (by omega)
  · -- what stands between the market index and the amount is read as the amount
    have hoverlap := prefix_append_self_iff (Codec.u64.encode amount) (tail.drop 2)
    obtain ⟨market_index, rest, rfl⟩ := exists_market_index htail
    rw [List.drop_left' (Codec.length_encode_u16 _)] at hoverlap
    rw [List.append_assoc, List.append_assoc, intact_iff rfl, begins_stake_iff, hoverlap]
    constructor
    · intro h
      refine ⟨fun h => absurd h (by decide), fun _ _ => htail, fun _ _ => ?_⟩
      rwa [List.drop_left' (Codec.length_encode_u16 _)]
    · intro h
      have h := h.overlap rfl rfl
      rwa [List.drop_left' (Codec.length_encode_u16 _)] at h

/-- Taking a stake away: the amount comes right behind the market index. -/
theorem intact_remove_stake (htail : 2 ≤ tail.length) :
    Intact amount (1 :: tail) (REQUEST_REMOVE_INSURANCE_FUND_STAKE ++ tail.take 2 ++
      Codec.u64.encode amount) := by
  obtain ⟨market_index, rest, rfl⟩ := exists_market_index htail
  rw [List.take_left' (Codec.length_encode_u16 _), List.append_assoc]
  refine (intact_iff rfl).mpr (begins_stake_iff.mpr ?_)
  exact List.prefix_refl _

/-- A market index alone: whatever follows it is ignored. -/
theorem intact_market_iff {discriminator : List UInt8} (hlength : discriminator.length = 8) :
    Intact amount (2 :: tail) (discriminator ++ tail) ↔ 2 ≤ tail.length := by
  rcases Nat.lt_or_ge tail.length 2 with hshort | htail
  · exact iff_of_false (not_intact_of_short hshort) (by omega)
  · obtain ⟨market_index, rest, rfl⟩ := exists_market_index htail
    exact iff_of_true ((intact_iff hlength).mpr begins_market) htail

/-- Taking a stake away for good: the market index is all that is sent. -/
theorem intact_remove_market (htail : 2 ≤ tail.length) :
    Intact amount (2 :: tail) (REMOVE_INSURANCE_FUND_STAKE ++ tail.take 2) := by
  obtain ⟨market_index, rest, rfl⟩ := exists_market_index htail
  have hintact : Intact amount (2 :: (Codec.u16.encode market_index ++ rest))
      (REMOVE_INSURANCE_FUND_STAKE ++ (Codec.u16.encode market_index ++ [])) :=
    (intact_iff rfl).mpr begins_market
  rw [List.append_nil] at hintact
  rw [List.take_left' (Codec.length_encode_u16 _)]
  exact hintact

/-- **What a function assembles is intact when its arrangement works out.** -/
theorem intact_iff_of_dispatch
    (h : (d.flow DriftAdapter.program).dispatch selector amount (selector :: tail) =
      .ok payload) :
    Intact amount (selector :: tail) payload.data ↔ ArgumentsFit d amount selector tail := by
  cases d with
  | deposit =>
      obtain ⟨rfl, htail, rfl⟩ | ⟨rfl, rfl⟩ | ⟨rfl, rfl⟩ := AdapterDeposit_dispatch_eq_ok.mp h
      · exact intact_spot_iff rfl htail
      · exact intact_add_stake_iff
      · refine (intact_market_iff rfl).trans ⟨fun htail => ?_, fun h => h.market (by decide) rfl⟩
        exact ⟨fun h => absurd h (by decide), fun _ _ => htail, fun h => absurd h (by decide)⟩
  | withdraw =>
      -- the insurance functions of this direction slice two bytes and forward no others
      have hfit : selector ≠ 0 → ArgumentsFit .withdraw amount selector tail := fun hne =>
        ⟨fun h => absurd h hne, fun _ h => absurd h (by decide), fun _ h => absurd h (by decide)⟩
      obtain ⟨rfl, htail, rfl⟩ | ⟨rfl, htail, rfl⟩ | ⟨rfl, htail, rfl⟩ :=
        AdapterWithdraw_dispatch_eq_ok.mp h
      · exact intact_spot_iff rfl htail
      · exact iff_of_true (intact_remove_stake htail) (hfit (by decide))
      · exact iff_of_true (intact_remove_market htail) (hfit (by decide))

/-- **Drift's arguments.**  Every instruction that the adapter performs is for a request
whose arguments arrive intact exactly when its arrangement works out; a request for which
it performs none fails, with an error or in the panic of a slice that is out of bounds. -/
theorem drift_arguments_iff :
    (∀ ix ∈ performed (d.run DriftAdapter.program accounts amount extra_data) (below.env t) m,
      ∃ selector tail, extra_data = selector :: tail ∧
        (Intact amount extra_data ix.data ↔ ArgumentsFit d amount selector tail)) ∧
    (performed (d.run DriftAdapter.program accounts amount extra_data) (below.env t) m = [] →
      ∃ err, d.run DriftAdapter.program accounts amount extra_data (below.env t) m =
        (.error err, m)) := by
  have hA : Separate DriftAdapter.program := separate_reference sampleThirdParty .drift
  rw [performed_run hA]
  constructor
  · intro ix hix
    obtain ⟨report, hplan⟩ := mem_planned_iff.mp hix
    obtain ⟨_, selector, tail, payload, -, -, rfl, hdispatch, rfl, -⟩ :=
      AdapterFlow.plan_eq_ok.mp hplan
    exact ⟨selector, tail, rfl, intact_iff_of_dispatch hdispatch⟩
  · intro hnone
    obtain ⟨err, hplan⟩ := planned_eq_nil_iff.mp hnone
    exact ⟨err, run_of_plan_error hplan⟩

/-- A stake of 5 with nothing but its selector: the first bytes of the amount are taken
for the market index. -/
theorem drift_arguments_not_intact :
    let calls := performed
      (Direction.deposit.run DriftAdapter.program (authorityAnd DriftAdapter.PROGRAM_ID) 5 [1])
      ((quietBelow DriftAdapter.program).env 1700000000) (Machine.start DriftAdapter.ID genesis)
    ∃ ix ∈ calls, ix.data = ADD_INSURANCE_FUND_STAKE ++ Codec.u64.encode 5 ∧
      ¬ Intact 5 [1] ix.data := by
  intro calls
  have hA : Separate DriftAdapter.program := separate_reference sampleThirdParty .drift
  have hplan : Direction.deposit.plan DriftAdapter.program
    (authorityAnd DriftAdapter.PROGRAM_ID) 5 [1] = .ok (_, _) := rfl
  refine ⟨⟨DriftAdapter.PROGRAM_ID, [⟨DriftAdapter.PROGRAM_ID, false, false⟩],
    ADD_INSURANCE_FUND_STAKE ++ Codec.u64.encode 5⟩, ?_, rfl,
    not_intact_of_short (by decide)⟩
  show _ ∈ performed _ _ _
  rw [performed_run hA, hplan]
  exact List.mem_singleton.mpr rfl

end Run

end Dispatcher
