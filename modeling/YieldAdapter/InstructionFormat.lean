/-
# The format of instructions

What the entry points of the dispatcher and of the adapters read: an eight-byte tag, the
arguments in Borsh, and anything after them.  Both are tables of instructions, and no data
is an instruction of both.  Anchor keeps one more tag for itself, under which events can be
emitted through a CPI; none of the programs does so, and all of them answer it with a stub.

A run of the dispatcher on raw instruction data is a run on the instructions that can be
decoded; everything proved of runs holds at the level of bytes.
-/
import YieldAdapter.DispatcherRun
import YieldAdapter.InstructionTables
import YieldAdapter.RunLogs

open Solana

namespace Dispatcher

/-! ## The two tables -/

/-- The instructions of the dispatcher. -/
def instructions : List (Variant Call) :=
  [⟨[228, 125, 58, 79, 128, 90, 99, 179], Unit, .unit, fun _ => .registry_init⟩,
    ⟨[233, 208, 174, 182, 160, 5, 170, 143], AdapterInitArgs, AdapterInitArgs.codec,
      .adapter_init⟩,
    ⟨[242, 35, 198, 137, 82, 225, 242, 182], DepositArgs, DepositArgs.codec, .deposit⟩,
    ⟨[183, 18, 70, 156, 148, 109, 161, 34], WithdrawArgs, WithdrawArgs.codec, .withdraw⟩,
    ⟨[232, 199, 167, 206, 247, 56, 234, 20], Unit, .unit, fun _ => .current_value⟩,
    ⟨[195, 177, 191, 101, 219, 2, 240, 202], Unit, .unit, fun _ => .toggle_adapter⟩]

/-- The entry points of an adapter. -/
def adapterInstructions : List (Variant AdapterCall) :=
  [⟨ADAPTER_DEPOSIT_DISCRIMINATOR, AdapterDepositArgs, AdapterDepositArgs.codec,
      .adapter_deposit⟩,
    ⟨ADAPTER_WITHDRAW_DISCRIMINATOR, AdapterWithdrawArgs, AdapterWithdrawArgs.codec,
      .adapter_withdraw⟩,
    ⟨ADAPTER_CURRENT_VALUE_DISCRIMINATOR, Unit, .unit, fun _ => .adapter_current_value⟩]

/-- No entry point has the tag. -/
abbrev unknownInstruction : Error := .anchor .InstructionFallbackNotFound

/-- The tag is that of an event. -/
abbrev eventStub : Error := .anchor .EventInstructionStub

/-- The error for data that begins with the tag of no entry point. -/
def unmatched (data : List UInt8) : Error :=
  if data.take 8 = Anchor.EVENT_IX_TAG_LE then eventStub else unknownInstruction

/-- The arguments cannot be decoded. -/
abbrev malformedInstruction : Error := .anchor .InstructionDidNotDeserialize

theorem wellTagged_instructions : Instructions.WellTagged instructions :=
  ⟨by decide, by decide⟩

theorem wellTagged_adapterInstructions : Instructions.WellTagged adapterInstructions :=
  ⟨by decide, by decide⟩

/-- **The dispatcher's entry point** looks its instructions up, and forgets what follows
the arguments. -/
theorem decode_eq_parse (data : List UInt8) :
    Call.decode data =
      (Instructions.parse unmatched malformedInstruction instructions data).map Prod.fst := by
  simp only [Call.decode, Call.args, instructions, Instructions.parse, unmatched]
  split_ifs
  · rfl
  · rcases AdapterInitArgs.codec.decode (data.drop 8) with _ | ⟨args, rest⟩ <;> rfl
  · rcases DepositArgs.codec.decode (data.drop 8) with _ | ⟨args, rest⟩ <;> rfl
  · rcases WithdrawArgs.codec.decode (data.drop 8) with _ | ⟨args, rest⟩ <;> rfl
  · rfl
  · rfl
  · rfl
  · rfl

/-- **So does an adapter's**, which hands on what follows them. -/
theorem adapterDecode_eq_parse (data : List UInt8) :
    AdapterCall.decode data =
      Instructions.parse unmatched malformedInstruction adapterInstructions data := by
  simp only [AdapterCall.decode, adapterInstructions, Instructions.parse, unmatched]
  split_ifs
  · rcases AdapterDepositArgs.codec.decode (data.drop 8) with _ | ⟨args, rest⟩ <;> rfl
  · rcases AdapterWithdrawArgs.codec.decode (data.drop 8) with _ | ⟨args, rest⟩ <;> rfl
  · rfl
  · rfl
  · rfl

/-! ## Their arguments -/

section Arguments

open Codec

theorem refusesTruncated_pubkey : Pubkey.codec.RefusesTruncated :=
  refusesTruncated_imap (refusesTruncated_array 32) _

/-- An amount and bytes. -/
theorem refusesTruncated_amountData {α : Type} (e : UInt64 × List UInt8 ≃ α) :
    (amountDataCodec e).RefusesTruncated := by
  have hbytes : byteVec.RefusesTruncated := refusesTruncated_vec refusesTruncated_word ⟨0, trivial⟩
  exact refusesTruncated_imap (refusesTruncated_pair refusesTruncated_word hbytes
    ⟨[], (fits_byteVec_iff []).mpr (by decide)⟩) e

/-- Three keys and a status. -/
theorem refusesTruncated_adapterInitArgs : AdapterInitArgs.codec.RefusesTruncated := by
  have hkey : Pubkey.codec.Fits Pubkey.default := trivial
  have hstatus : u8.Fits 0 := trivial
  have hlast : (pair Pubkey.codec u8).RefusesTruncated :=
    refusesTruncated_pair refusesTruncated_pubkey refusesTruncated_word ⟨0, hstatus⟩
  have hmiddle : (pair Pubkey.codec (pair Pubkey.codec u8)).RefusesTruncated :=
    refusesTruncated_pair refusesTruncated_pubkey hlast ⟨(Pubkey.default, 0), hkey, hstatus⟩
  exact refusesTruncated_imap (refusesTruncated_pair refusesTruncated_pubkey hmiddle
    ⟨(Pubkey.default, Pubkey.default, 0), hkey, hkey, hstatus⟩) _

theorem refusesTruncated_instructions : ∀ v ∈ instructions, v.codec.RefusesTruncated := by
  simp only [instructions, List.forall_mem_cons]
  exact ⟨refusesTruncated_unit, refusesTruncated_adapterInitArgs, refusesTruncated_amountData _,
    refusesTruncated_amountData _, refusesTruncated_unit, refusesTruncated_unit, by simp⟩

theorem refusesTruncated_adapterInstructions :
    ∀ v ∈ adapterInstructions, v.codec.RefusesTruncated := by
  simp only [adapterInstructions, List.forall_mem_cons]
  exact ⟨refusesTruncated_amountData _, refusesTruncated_amountData _, refusesTruncated_unit,
    by simp⟩

end Arguments

/-! ## The format -/

/-- An instruction of the table with its arguments, followed by `rest`. -/
def Writes {α : Type} (vs : List (Variant α)) (a : α) (rest data : List UInt8) : Prop :=
  ∃ v ∈ vs, ∃ args, v.codec.Fits args ∧ a = v.make args ∧
    data = v.tag ++ v.codec.encode args ++ rest

/-- A tag of the table, and the start of arguments of which something is missing. -/
def CutOff {α : Type} (vs : List (Variant α)) (data : List UInt8) : Prop :=
  ∃ v ∈ vs, ∃ bs, data = v.tag ++ bs ∧ v.codec.Truncated bs

theorem decode_eq_ok_iff {data : List UInt8} {call : Call} :
    Call.decode data = .ok call ↔ ∃ rest, Writes instructions call rest data := by
  rw [decode_eq_parse]
  constructor
  · intro h
    rcases hparse : Instructions.parse unmatched malformedInstruction instructions data
      with e | ⟨call', rest⟩
    · rw [hparse] at h
      exact absurd h (by simp [Except.map])
    · rw [hparse] at h
      obtain rfl := Except.ok.inj h
      exact ⟨rest, (Instructions.parse_eq_ok_iff wellTagged_instructions).mp hparse⟩
  · rintro ⟨rest, hwrites⟩
    rw [(Instructions.parse_eq_ok_iff wellTagged_instructions).mpr hwrites]
    rfl

theorem decode_eq_error_iff {data : List UInt8} {e : Error} :
    Call.decode data = .error e ↔
      Instructions.parse unmatched malformedInstruction instructions data = .error e := by
  rw [decode_eq_parse]
  rcases Instructions.parse unmatched malformedInstruction instructions data with
    e' | p <;> simp [Except.map]

/-! ### Data that begins with no tag -/

theorem unmatched_ne_malformed (data : List UInt8) : unmatched data ≠ malformedInstruction := by
  unfold unmatched
  split_ifs
  · decide
  · decide

theorem take_eq_iff_prefix {tag data : List UInt8} (h : tag.length = 8) :
    data.take 8 = tag ↔ tag <+: data := by
  rw [List.prefix_iff_eq_take, h, eq_comm]

theorem unmatched_eq_stub_iff {data : List UInt8} :
    unmatched data = eventStub ↔ Anchor.EVENT_IX_TAG_LE <+: data := by
  rw [← take_eq_iff_prefix rfl, unmatched]
  split_ifs with h
  · exact iff_of_true rfl h
  · exact iff_of_false (by decide) h

theorem unmatched_eq_unknown_iff {data : List UInt8} :
    unmatched data = unknownInstruction ↔ ¬ Anchor.EVENT_IX_TAG_LE <+: data := by
  rw [← take_eq_iff_prefix rfl, unmatched]
  split_ifs with h
  · exact iff_of_false (by decide) (not_not_intro h)
  · exact iff_of_true rfl h

/-- What begins with the tag of an event begins with no other. -/
theorem parse_eq_stub_iff {α : Type} {vs : List (Variant α)} {data : List UInt8}
    (hvs : Instructions.WellTagged vs) (hevent : Anchor.EVENT_IX_TAG_LE ∉ vs.map Variant.tag) :
    Instructions.parse unmatched malformedInstruction vs data = .error eventStub ↔
      Anchor.EVENT_IX_TAG_LE <+: data := by
  rw [Instructions.parse_eq_unknown_iff hvs (by decide), unmatched_eq_stub_iff,
    and_iff_right_iff_imp]
  intro h v hv hbegins
  -- two tags of one length that the data begins with are the same
  rw [← take_eq_iff_prefix rfl] at h
  rw [← take_eq_iff_prefix (hvs.length v hv), h] at hbegins
  exact hevent (hbegins ▸ List.mem_map_of_mem hv)

theorem event_not_mem_instructions :
    Anchor.EVENT_IX_TAG_LE ∉ instructions.map Variant.tag := by decide

theorem event_not_mem_adapterInstructions :
    Anchor.EVENT_IX_TAG_LE ∉ adapterInstructions.map Variant.tag := by decide

/-- **The format of instructions.**  Of any data,

1. the dispatcher accepts it as a call exactly when it is the call's tag, followed by its
   arguments and anything; it answers `InstructionDidNotDeserialize` exactly when the data
   has been cut off inside the arguments, `EventInstructionStub` exactly when it begins with
   the tag of an event, and `InstructionFallbackNotFound` exactly when it begins with
   neither a tag of the dispatcher's nor that one;
2. the same goes for every adapter, with its own tags, and what follows the arguments is
   what is left over;
3. unless it begins with the tag of an event, at least one of the two does not know its
   tag. -/
theorem instruction_format (data : List UInt8) :
    ((∀ call, Call.decode data = .ok call ↔ ∃ rest, Writes instructions call rest data) ∧
      (Call.decode data = .error malformedInstruction ↔ CutOff instructions data) ∧
      (Call.decode data = .error eventStub ↔ Anchor.EVENT_IX_TAG_LE <+: data) ∧
      (Call.decode data = .error unknownInstruction ↔
        (∀ v ∈ instructions, ¬ v.tag <+: data) ∧ ¬ Anchor.EVENT_IX_TAG_LE <+: data)) ∧
    ((∀ received rest, AdapterCall.decode data = .ok (received, rest) ↔
        Writes adapterInstructions received rest data) ∧
      (AdapterCall.decode data = .error malformedInstruction ↔
        CutOff adapterInstructions data) ∧
      (AdapterCall.decode data = .error eventStub ↔ Anchor.EVENT_IX_TAG_LE <+: data) ∧
      (AdapterCall.decode data = .error unknownInstruction ↔
        (∀ v ∈ adapterInstructions, ¬ v.tag <+: data) ∧ ¬ Anchor.EVENT_IX_TAG_LE <+: data)) ∧
    (Anchor.EVENT_IX_TAG_LE <+: data ∨ Call.decode data = .error unknownInstruction ∨
      AdapterCall.decode data = .error unknownInstruction) := by
  have hne := unmatched_ne_malformed data
  have hunknown : unknownInstruction ≠ malformedInstruction := by decide
  refine ⟨⟨fun call => decode_eq_ok_iff, ?_, ?_, ?_⟩, ?_, ?_⟩
  · rw [decode_eq_error_iff]
    exact Instructions.parse_eq_malformed_iff wellTagged_instructions hne
      refusesTruncated_instructions
  · rw [decode_eq_error_iff]
    exact parse_eq_stub_iff wellTagged_instructions event_not_mem_instructions
  · rw [decode_eq_error_iff, Instructions.parse_eq_unknown_iff wellTagged_instructions hunknown,
      unmatched_eq_unknown_iff]
  · rw [adapterDecode_eq_parse]
    refine ⟨fun received rest => Instructions.parse_eq_ok_iff wellTagged_adapterInstructions,
      Instructions.parse_eq_malformed_iff wellTagged_adapterInstructions hne
        refusesTruncated_adapterInstructions,
      parse_eq_stub_iff wellTagged_adapterInstructions event_not_mem_adapterInstructions, ?_⟩
    rw [Instructions.parse_eq_unknown_iff wellTagged_adapterInstructions hunknown,
      unmatched_eq_unknown_iff]
  · by_cases hevent : Anchor.EVENT_IX_TAG_LE <+: data
    · exact .inl hevent
    · have hdisjoint : ∀ tag ∈ instructions.map Variant.tag,
          tag ∉ adapterInstructions.map Variant.tag := by decide
      have hanswer : unmatched data = unknownInstruction := unmatched_eq_unknown_iff.mpr hevent
      refine .inr ?_
      by_cases hmem : data.take 8 ∈ instructions.map Variant.tag
      · right
        rw [adapterDecode_eq_parse, Instructions.parse_of_not_mem (hdisjoint _ hmem), hanswer]
      · left
        rw [decode_eq_error_iff, Instructions.parse_of_not_mem hmem, hanswer]

/-! ## Runs at the level of bytes -/

/-- A top-level instruction of the dispatcher, as it is sent. -/
def executeRaw (C : Crypto) (w : World) (accounts : List AccountMeta) (data : List UInt8)
    (ℓ : Ledger) : Outcome YieldError Event :=
  transact (entry C (accounts.map (AccountInfo.load ℓ)) data) (env C w accounts) ℓ

/-- A step of a run, as it is sent. -/
inductive RawAction where
  | instruction (w : World) (accounts : List AccountMeta) (data : List UInt8)
  | other (programs : OtherPrograms)

/-- The step that is meant, if there is one. -/
def RawAction.decode : RawAction → Option Action
  | .instruction w accounts data =>
      match Call.decode data with
      | .ok call => some (.call w accounts call)
      | .error _ => none
  | .other programs => some (.other programs)

/-- The ledger after a step. -/
def rawStep (C : Crypto) (ℓ : Ledger) : RawAction → Ledger
  | .instruction w accounts data => (executeRaw C w accounts data ℓ).ledger
  | .other programs => programs.run ℓ

/-- The ledger after a run. -/
abbrev rawLedgerAfter (C : Crypto) (ℓ : Ledger) (raws : List RawAction) : Ledger :=
  Runs.run (rawStep C) ℓ raws

/-- An outcome that is committed. -/
def kept (out : Outcome YieldError Event) : List (Outcome YieldError Event) :=
  if out.result.isOk then [out] else []

/-- What a step commits: the outcome of a successful instruction. -/
def outcomes (C : Crypto) (ℓ : Ledger) : Action → List (Outcome YieldError Event)
  | .call w accounts call => kept (execute C w accounts call ℓ)
  | .other _ => []

/-- What a step commits, as it is sent. -/
def rawOutcomes (C : Crypto) (ℓ : Ledger) : RawAction → List (Outcome YieldError Event)
  | .instruction w accounts data => kept (executeRaw C w accounts data ℓ)
  | .other _ => []

section Bytes

variable {C : Crypto} {w : World} {accounts : List AccountMeta} {data : List UInt8} {ℓ : Ledger}
  {call : Call}

theorem executeRaw_of_ok (h : Call.decode data = .ok call) :
    executeRaw C w accounts data ℓ = execute C w accounts call ℓ := by
  rw [executeRaw, entry, h]
  rfl

/-- Data that is no instruction does nothing. -/
theorem executeRaw_of_error {e : Error} (h : Call.decode data = .error e) :
    executeRaw C w accounts data ℓ = ⟨.error e, ℓ, [], (ID, []), []⟩ := by
  rw [executeRaw, entry, h]
  rfl

theorem step_of_decode {raw : RawAction} {action : Action} (h : raw.decode = some action) :
    rawStep C ℓ raw = step C ℓ action ∧ rawOutcomes C ℓ raw = outcomes C ℓ action := by
  cases raw with
  | other programs =>
      obtain rfl := Option.some.inj h
      exact ⟨rfl, rfl⟩
  | instruction w accounts data =>
      rcases hdecode : Call.decode data with e | call
      · exact absurd h (by simp [RawAction.decode, hdecode])
      · have hcall : RawAction.decode (.instruction w accounts data) =
            some (.call w accounts call) := by
          simp only [RawAction.decode, hdecode]
        obtain rfl := Option.some.inj (hcall.symm.trans h)
        rw [rawStep, rawOutcomes, executeRaw_of_ok hdecode]
        exact ⟨rfl, rfl⟩

theorem step_of_not_decode {raw : RawAction} (h : raw.decode = none) :
    rawStep C ℓ raw = ℓ ∧ rawOutcomes C ℓ raw = [] := by
  cases raw with
  | other programs => exact absurd h (by simp [RawAction.decode])
  | instruction w accounts data =>
      rcases hdecode : Call.decode data with e | call
      · rw [rawStep, rawOutcomes, executeRaw_of_error hdecode]
        exact ⟨rfl, rfl⟩
      · exact absurd h (by simp [RawAction.decode, hdecode])

/-- A call whose `extra_data` can be counted can be sent. -/
theorem exists_decode (h : ∀ data, call.extra_data = some data → data.length < 2 ^ 32) :
    ∃ data, Call.decode data = .ok call := by
  have hsend : ∀ v ∈ instructions, ∀ args, v.codec.Fits args →
      ∃ data, Call.decode data = .ok (v.make args) := fun v hv args hfits =>
    ⟨_, decode_eq_ok_iff.mpr ⟨[], v, hv, args, hfits, rfl, rfl⟩⟩
  simp only [instructions, List.forall_mem_cons] at hsend
  obtain ⟨hregistry_init, hadapter_init, hdeposit, hwithdraw, hcurrent_value, htoggle, -⟩ := hsend
  cases call with
  | registry_init => exact hregistry_init () trivial
  | adapter_init args => exact hadapter_init args ⟨trivial, trivial, trivial, trivial⟩
  | deposit args => exact hdeposit args ((fits_amountDataCodec_iff _ _).mpr (h _ rfl))
  | withdraw args => exact hwithdraw args ((fits_amountDataCodec_iff _ _).mpr (h _ rfl))
  | current_value => exact hcurrent_value () trivial
  | toggle_adapter => exact htoggle () trivial

/-- A call that cannot be sent would fail. -/
theorem step_of_unsendable (h : ∀ data, Call.decode data ≠ .ok call) :
    step C ℓ (.call w accounts call) = ℓ ∧ outcomes C ℓ (.call w accounts call) = [] := by
  obtain ⟨data, hdata, hlong⟩ : ∃ data, call.extra_data = some data ∧ 2 ^ 32 ≤ data.length := by
    by_contra hshort
    push Not at hshort
    obtain ⟨data, hdecode⟩ := exists_decode hshort
    exact h data hdecode
  obtain ⟨r, hr⟩ : ∃ r, call.route = some r := by
    cases call <;> simp [Call.extra_data, Call.route] at hdata ⊢
  rcases hplan : r.planAt C accounts ℓ with e | ⟨ix, ctx⟩
  · rw [step, outcomes, execute_route_of_error hr hplan]
    exact ⟨rfl, rfl⟩
  · -- the dispatcher bounds what it routes
    obtain ⟨_, _, _, -, -, -, -, -, hvalidate, -, -⟩ := Route.planAt_eq_ok.mp hplan
    have hbound := Call.extra_data_of_validate hr hvalidate hdata
    rw [EXTRA_DATA_MAX_LEN] at hbound
    omega

/-- **Runs at the level of bytes.**  From any ledger,

1. a run on raw data goes as the run on the instructions that can be decoded: it ends in
   the same ledger, and commits the same outcomes in the same order;
2. every run on instructions goes as some run on raw data;
3. the table behind the ledger stays valid, whatever data is sent. -/
theorem byte_runs (C : Crypto) (ℓ : Ledger) :
    (∀ raws : List RawAction,
      rawLedgerAfter C ℓ raws = ledgerAfter C ℓ (raws.filterMap RawAction.decode) ∧
      Runs.log (rawStep C) (rawOutcomes C) ℓ raws =
        Runs.log (step C) (outcomes C) ℓ (raws.filterMap RawAction.decode)) ∧
    (∀ actions : List Action, ∃ raws : List RawAction,
      rawLedgerAfter C ℓ raws = ledgerAfter C ℓ actions ∧
      Runs.log (rawStep C) (rawOutcomes C) ℓ raws = Runs.log (step C) (outcomes C) ℓ actions) ∧
    (NoData ℓ → ∀ raws : List RawAction, (view (rawLedgerAfter C ℓ raws)).Valid C) := by
  have hmeant : ∀ ℓ' raw action, raw.decode = some action →
      rawStep C ℓ' raw = step C ℓ' action ∧ rawOutcomes C ℓ' raw = outcomes C ℓ' action :=
    fun _ _ _ h => step_of_decode h
  have hidle : ∀ ℓ' raw, raw.decode = none →
      rawStep C ℓ' raw = ℓ' ∧ rawOutcomes C ℓ' raw = [] := fun _ _ h => step_of_not_decode h
  have hraws : ∀ raws : List RawAction,
      rawLedgerAfter C ℓ raws = ledgerAfter C ℓ (raws.filterMap RawAction.decode) := by
    intro raws
    apply Runs.run_filterMap
    · exact fun ℓ' raw action h => (hmeant ℓ' raw action h).1
    · exact fun ℓ' raw h => (hidle ℓ' raw h).1
  refine ⟨fun raws => ⟨hraws raws, Runs.log_filterMap hmeant hidle ℓ raws⟩, ?_, ?_⟩
  · -- each action is sent, or does nothing
    have hsend : ∀ action : Action, ∃ raw : Option RawAction,
        (∀ ℓ' raw', raw = some raw' →
          step C ℓ' action = rawStep C ℓ' raw' ∧ outcomes C ℓ' action = rawOutcomes C ℓ' raw') ∧
        ∀ ℓ', raw = none → step C ℓ' action = ℓ' ∧ outcomes C ℓ' action = [] := by
      intro action
      cases action with
      | other programs =>
          refine ⟨some (.other programs), ?_, fun _ h => absurd h (by simp)⟩
          intro ℓ' raw' h
          obtain rfl := Option.some.inj h
          exact ⟨rfl, rfl⟩
      | call w accounts call =>
          by_cases hdecode : ∃ data, Call.decode data = .ok call
          · obtain ⟨data, hdata⟩ := hdecode
            refine ⟨some (.instruction w accounts data), ?_, fun _ h => absurd h (by simp)⟩
            intro ℓ' raw' h
            obtain rfl := Option.some.inj h
            rw [rawStep, rawOutcomes, executeRaw_of_ok hdata]
            exact ⟨rfl, rfl⟩
          · refine ⟨none, fun _ _ h => absurd h (by simp), fun ℓ' _ => ?_⟩
            exact step_of_unsendable (not_exists.mp hdecode)
    choose send hsent hskipped using hsend
    intro actions
    refine ⟨actions.filterMap send, ?_, ?_⟩
    · symm
      apply Runs.run_filterMap
      · exact fun ℓ' action raw h => (hsent action ℓ' raw h).1
      · exact fun ℓ' action h => (hskipped action ℓ' h).1
    · symm
      apply Runs.log_filterMap
      · exact fun ℓ' action raw h => hsent action ℓ' raw h
      · exact fun ℓ' action h => hskipped action ℓ' h
  · intro h₀ raws
    rw [hraws raws]
    exact valid_ledgerAfter h₀ _

end Bytes

end Dispatcher
