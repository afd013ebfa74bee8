/-
# Movements of funds

What a run of the fleet has moved is on record three times: in the events of the
dispatcher, in the events of the adapters, and in the instructions that the adapters have
passed on to their protocols.  The three are one list of movements, told by three parties:
none is lost, told twice, or told of another adapter.
-/
import YieldAdapter.EventLog
import YieldAdapter.Fleet

open Solana

namespace Dispatcher

/-! ## Movements -/

/-- A movement of funds, as a routed call asks for it. -/
structure Movement where
  direction : Direction
  adapter : RepositoryAdapter
  authority : Pubkey
  amount : UInt64
  extra_data : List UInt8

namespace Movement

variable (X : ThirdParty) (v : Movement)

/-- The call that asks for it. -/
def call : Call := v.direction.call v.amount v.extra_data

/-- What the dispatcher reports of it. -/
def event : Event := v.direction.event v.authority v.adapter.ID v.amount

/-- What its adapter reports of it. -/
def adapterEvent : Event :=
  match v.adapter with
  | .mock => v.direction.mockEvent v.authority v.amount v.extra_data
  | .reference A =>
      v.direction.adapterEvent v.authority (A.program X).PROGRAM_ID
        (reportedAmount A (v.extra_data.headD 0) v.amount)

/-- What its adapter passes on: the instruction that the selected function assembles.  The
mock adapter passes nothing on. -/
def PassesOn (c : Pubkey × Instruction) : Prop :=
  ∃ A selector tail payload accounts, v.adapter = .reference A ∧
    v.extra_data = selector :: tail ∧
    (v.direction.flow (A.program X)).dispatch selector v.amount v.extra_data = .ok payload ∧
    c = (v.adapter.ID, ⟨(A.program X).PROGRAM_ID, accounts, payload.data⟩)

/-- One of the actions asks for it, with the signature of its authority. -/
def AskedIn (actions : List Action) : Prop :=
  ∃ w signer rest, Action.call w (signer :: rest) v.call ∈ actions ∧
    signer.is_signer = true ∧ signer.pubkey = v.authority

/-- Movements through the mock adapter reach no protocol. -/
def real : Bool :=
  match v.adapter with
  | .mock => false
  | .reference _ => true

end Movement

/-! ## The three records -/

/-- The programs of the adapters. -/
def ofAdapter (p : Pubkey) : Bool := (RepositoryAdapter.atAddress p).isSome

theorem ofAdapter_eq_true {p : Pubkey} :
    ofAdapter p = true ↔ ∃ A : RepositoryAdapter, A.ID = p := by
  rw [ofAdapter, Option.isSome_iff_exists]
  exact exists_congr fun A => RepositoryAdapter.atAddress_eq_some

/-- The three records tell of the same movements, each of which has been asked for. -/
def SameMovements (X : ThirdParty) (actions : List Action) (reported : List Event)
    (adapterReported : List (Pubkey × Event)) (passedOn : List (Pubkey × Instruction)) : Prop :=
  ∃ vs : List Movement, (∀ v ∈ vs, v.AskedIn actions) ∧ reported = vs.map Movement.event ∧
    adapterReported = vs.map (fun v => (v.adapter.ID, v.adapterEvent X)) ∧
    List.Forall₂ (Movement.PassesOn X) (vs.filter Movement.real) passedOn

section Records

variable {X : ThirdParty} {actions : List Action}

theorem SameMovements.append {xs xs' : List Event} {ys ys' : List (Pubkey × Event)}
    {zs zs' : List (Pubkey × Instruction)} (h : SameMovements X actions xs ys zs)
    (h' : SameMovements X actions xs' ys' zs') :
    SameMovements X actions (xs ++ xs') (ys ++ ys') (zs ++ zs') := by
  obtain ⟨vs, hasked, rfl, rfl, hpassed⟩ := h
  obtain ⟨vs', hasked', rfl, rfl, hpassed'⟩ := h'
  refine ⟨vs ++ vs', ?_, List.map_append.symm, List.map_append.symm, ?_⟩
  · intro v hv
    rcases List.mem_append.mp hv with hv | hv
    · exact hasked v hv
    · exact hasked' v hv
  · rw [List.filter_append]
    exact List.rel_append hpassed hpassed'

variable {m m' : Machine Event}

end Records

/-! ## One step -/

section Step

variable {C : Crypto} {X : ThirdParty} {t : Int64} {outside : Outside} {actions : List Action}
  {accounts : List AccountMeta} {call : Call} {r : Route} {ℓ : Ledger} {ix : Instruction}
  {ctx : Routed}

section Flow

variable {d : Direction} {amount : UInt64} {extra_data : List UInt8}

end Flow

end Step

/-! ## Over a run -/

end Dispatcher
