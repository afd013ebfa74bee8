/-
# Conflicts

An instruction depends on the accounts that it lists, and changes those of them that it
lists as writable.  Two instructions are in conflict when one of them may write what the
other lists; those that are not may be carried out in any order, which is what the runtime
relies on when it carries them out side by side.
-/
import YieldAdapter.Locality
import YieldAdapter.NoEscalation
import YieldAdapter.RunLogs

open Solana

/-! ## The System program -/

section System

variable {ε Ev : Type} {F : Access} {e : Env ε Ev} {payer k : Pubkey}

theorem confined_transfer (hpayer : payer ∈ F.writes) (hk : k ∈ F.writes) (lamports : ℕ) :
    Confined F ((System.transfer payer k lamports : Exec ε Ev Unit) e) :=
  .bind (.readAccount (F.subset hpayer)) fun _ _ _ _ => .bind (.lift _) fun _ _ _ _ =>
    .bind (.lift _) fun _ _ _ _ => .bind (.lift _) fun _ _ _ _ =>
    .bind (.writeAccount hpayer _) fun _ _ _ _ => .bind (.readAccount (F.subset hk)) fun _ _ _ _ =>
    .writeAccount hk _

theorem confined_allocate (hk : k ∈ F.writes) (space : ℕ) :
    Confined F ((System.allocate k space : Exec ε Ev Unit) e) :=
  .bind (.readAccount (F.subset hk)) fun _ _ _ _ => .bind (.lift _) fun _ _ _ _ =>
    .writeAccount hk _

theorem confined_assign (hk : k ∈ F.writes) (owner : Pubkey) :
    Confined F ((System.assign k owner : Exec ε Ev Unit) e) :=
  .bind (.readAccount (F.subset hk)) fun _ _ _ _ => .writeAccount hk _

theorem confined_create_account (hpayer : payer ∈ F.writes) (hk : k ∈ F.writes)
    (lamports space : ℕ) (owner : Pubkey) :
    Confined F ((System.create_account payer k lamports space owner : Exec ε Ev Unit) e) :=
  .bind (.readAccount (F.subset hk)) fun _ _ _ _ => .bind (.lift _) fun _ _ _ _ =>
    .bind (confined_allocate hk space) fun _ _ _ _ =>
    .bind (confined_assign hk owner) fun _ _ _ _ => confined_transfer hpayer hk lamports

end System

/-! ## Anchor -/

section Anchor

variable {ε Ev α : Type} {F : Access} {e : Env ε Ev} {T : AccountType α}

section Init

variable {owner : Pubkey} {payer info : AccountInfo} (hread : info.key ∈ F.reads)
  (hpayer : payer.is_writable = true → payer.key ∈ F.writes)
  (hinfo : info.is_writable = true → info.key ∈ F.writes)

include hpayer hinfo

theorem confined_topUp (required_lamports : ℕ) :
    Confined F ((Anchor.topUp required_lamports payer info : Exec ε Ev Unit) e) := by
  unfold Anchor.topUp
  split
  · refine .bind (.lift _) fun _ _ _ hprivileges => ?_
    obtain ⟨-, hpaying, hwritable⟩ :=
      Anchor.privileges_eq_ok.mp (Exec.lift_eq_ok.mp hprivileges).1
    exact confined_transfer (hpayer hpaying) (hinfo hwritable) _
  · exact .lift (e := e) (.ok ())

include hread

/-- Creating an account writes it and its payer, once the privileges have been checked. -/
theorem confined_create (space : ℕ) :
    Confined F ((Anchor.create owner space payer info : Exec ε Ev Unit) e) := by
  refine .bind (.readAccount hread) fun current _ _ _ => ?_
  split
  · refine .bind (.lift _) fun _ _ _ hprivileges => ?_
    obtain ⟨-, hpaying, hwritable⟩ :=
      Anchor.privileges_eq_ok.mp (Exec.lift_eq_ok.mp hprivileges).1
    exact confined_create_account (hpayer hpaying) (hinfo hwritable) _ _ _
  · refine .bind (.lift _) fun _ _ _ _ => ?_
    refine .bind (.readAccount hread) fun current _ _ _ => ?_
    refine .bind (confined_topUp hpayer hinfo _) fun _ _ _ _ => ?_
    refine .bind (.lift _) fun _ _ _ hmut => ?_
    have hkey := hinfo (require_eq_ok.mp (Exec.lift_eq_ok.mp hmut).1)
    exact .bind (confined_allocate hkey _) fun _ _ _ _ => confined_assign hkey _

theorem confined_init : Confined F ((Anchor.init T owner payer info : Exec ε Ev Unit) e) :=
  .bind (confined_create hread hpayer hinfo _) fun _ _ _ _ => .lift _

end Init

theorem confined_exit {k : Pubkey} (hwrite : k ∈ F.writes) (a : α) :
    Confined F ((Anchor.exit T k a : Exec ε Ev Unit) e) :=
  .bind (.readAccount (F.subset hwrite)) fun _ _ _ _ =>
    .bind (.lift _) fun _ _ _ _ => .writeAccount hwrite _

end Anchor

namespace Dispatcher

/-! ## The dispatcher -/

section Call

variable {C : Crypto} {e : Env YieldError Event} {ℓ : Ledger} {accounts : List AccountMeta}

/-- What is loaded from an account may be read. -/
theorem mem_reads_of_load {info : AccountInfo} (h : info ∈ accounts.map (AccountInfo.load ℓ)) :
    info.key ∈ (Access.of accounts).reads := by
  obtain ⟨passed, hpassed, rfl⟩ := List.mem_map.mp h
  exact ⟨passed, hpassed, rfl, rfl⟩

/-- What is loaded from an account that was passed as writable may be written. -/
theorem mem_writes_of_load {info : AccountInfo} (h : info ∈ accounts.map (AccountInfo.load ℓ))
    (hwritable : info.is_writable = true) : info.key ∈ (Access.of accounts).writes := by
  obtain ⟨passed, hpassed, rfl⟩ := List.mem_map.mp h
  exact ⟨passed, hpassed, rfl, hwritable⟩

theorem confined_registry_init :
    Confined (Access.of accounts) (registry_init C (accounts.map (AccountInfo.load ℓ)) e) := by
  refine .bind (.lift _) fun ⟨initializer, rest⟩ _ _ hnext => ?_
  refine .bind (.lift _) fun _ _ _ _ => ?_
  refine .bind (.lift _) fun ⟨registry, rest'⟩ _ _ hnext' => ?_
  have hpayer : initializer ∈ accounts.map (AccountInfo.load ℓ) := by
    rw [Anchor.next_account_eq_ok.mp (Exec.lift_eq_ok.mp hnext).1]
    exact List.mem_cons_self
  have hmem : registry ∈ accounts.map (AccountInfo.load ℓ) := by
    rw [Anchor.next_account_eq_ok.mp (Exec.lift_eq_ok.mp hnext).1,
      Anchor.next_account_eq_ok.mp (Exec.lift_eq_ok.mp hnext').1]
    simp
  refine .bind (.lift _) fun ⟨system_program, _⟩ _ _ _ => ?_
  refine .bind (.lift _) fun _ _ _ _ => ?_
  refine .bind (.lift _) fun bump _ _ _ => ?_
  refine .bind (confined_init (mem_reads_of_load hmem) (mem_writes_of_load hpayer)
    (mem_writes_of_load hmem)) fun _ _ _ hinit => ?_
  obtain ⟨hwritable, -⟩ := Anchor.init_eq_ok.mp hinit
  refine .bind (.lift _) fun _ _ _ _ => ?_
  refine .bind (.lift _) fun _ _ _ _ => ?_
  refine .bind (.lift _) fun _ _ _ _ => ?_
  exact confined_exit (mem_writes_of_load hmem hwritable) _

theorem confined_adapter_init (args : AdapterInitArgs) :
    Confined (Access.of accounts)
      (adapter_init C (accounts.map (AccountInfo.load ℓ)) args e) := by
  refine .bind (.lift _) fun ⟨initializer, rest⟩ _ _ hnext => ?_
  refine .bind (.lift _) fun _ _ _ _ => ?_
  refine .bind (.lift _) fun ⟨adapter, rest'⟩ _ _ hnext' => ?_
  have hpayer : initializer ∈ accounts.map (AccountInfo.load ℓ) := by
    rw [Anchor.next_account_eq_ok.mp (Exec.lift_eq_ok.mp hnext).1]
    exact List.mem_cons_self
  have hmem : adapter ∈ accounts.map (AccountInfo.load ℓ) := by
    rw [Anchor.next_account_eq_ok.mp (Exec.lift_eq_ok.mp hnext).1,
      Anchor.next_account_eq_ok.mp (Exec.lift_eq_ok.mp hnext').1]
    simp
  refine .bind (.lift _) fun ⟨registry_info, _⟩ _ _ _ => ?_
  refine .bind (.lift _) fun registry _ _ _ => ?_
  refine .bind (.lift _) fun ⟨system_program, _⟩ _ _ _ => ?_
  refine .bind (.lift _) fun _ _ _ _ => ?_
  refine .bind (.lift _) fun bump _ _ _ => ?_
  refine .bind (confined_init (mem_reads_of_load hmem) (mem_writes_of_load hpayer)
    (mem_writes_of_load hmem)) fun _ _ _ hinit => ?_
  obtain ⟨hwritable, -⟩ := Anchor.init_eq_ok.mp hinit
  refine .bind (.lift _) fun _ _ _ _ => ?_
  refine .bind (.lift _) fun _ _ _ _ => ?_
  refine .bind (.lift _) fun _ _ _ _ => ?_
  refine .bind (.lift _) fun _ _ _ _ => ?_
  refine .bind .unix_timestamp fun registered_at _ _ _ => ?_
  refine .bind (.lift _) fun _ _ _ _ => ?_
  exact confined_exit (mem_writes_of_load hmem hwritable) _

theorem confined_toggle_adapter :
    Confined (Access.of accounts) (toggle_adapter C (accounts.map (AccountInfo.load ℓ)) e) := by
  refine .bind (.lift _) fun ⟨authority, rest⟩ _ _ hnext => ?_
  refine .bind (.lift _) fun _ _ _ _ => ?_
  refine .bind (.lift _) fun ⟨info, _⟩ _ _ hnext' => ?_
  have hmem : info ∈ accounts.map (AccountInfo.load ℓ) := by
    rw [Anchor.next_account_eq_ok.mp (Exec.lift_eq_ok.mp hnext).1,
      Anchor.next_account_eq_ok.mp (Exec.lift_eq_ok.mp hnext').1]
    simp
  refine .bind (.lift _) fun adapter _ _ _ => ?_
  refine .bind (.lift _) fun _ _ _ _ => ?_
  refine .bind (.lift _) fun _ _ _ _ => ?_
  refine .bind (.lift _) fun _ _ _ hmut => ?_
  have hwritable := Anchor.constraint_mut_eq_ok.mp (Exec.lift_eq_ok.mp hmut).1
  refine .bind (.lift _) fun _ _ _ _ => ?_
  refine .bind (.lift _) fun status _ _ _ => ?_
  refine .bind (.lift _) fun next_status _ _ _ => ?_
  refine .bind (.emit _) fun _ _ _ _ => ?_
  exact confined_exit (mem_writes_of_load hmem hwritable) _

/-- What follows a routed call does not look at the ledger. -/
theorem confined_after {F : Access} {call : Call} {r : Route} (h : call.route = some r)
    (ctx : Routed) : Confined F (r.after ctx e) := by
  obtain ⟨args, rfl, rfl⟩ | ⟨args, rfl, rfl⟩ | ⟨rfl, rfl⟩ := Call.route_cases h
  · exact .emit _
  · exact .emit _
  · have hread : Confined F (read_return_u64 e) :=
      .bind .get_return_data fun _ _ _ _ => .lift _
    exact .bind hread fun _ _ _ _ => .set_return_data _

/-- The programs around the dispatcher keep to the accounts that are passed to them. -/
def World.Local (w : World) : Prop :=
  ∀ ix, Confined (Access.of ix.accounts) (w.programs.call ix)

/-- So does what the dispatcher calls, itself included. -/
theorem confined_env {w : World} (hw : w.Local) {ix : Instruction} (hdata : ForAdapter ix.data) :
    Confined (Access.of ix.accounts) ((env C w accounts).call ix) := by
  refine .callee fun _ => ?_
  by_cases hself : ix.program_id = ID
  · have hcall : cpi C w MAX_CALL_DEPTH ix = fun m =>
        (.error (.anchor .InstructionFallbackNotFound), { m with return_data := (ID, []) }) := by
      funext m
      exact cpi_self hself hdata 3
    rw [hcall]
    exact .of_silent (fun _ => rfl) fun _ _ => rfl
  · have hcall : cpi C w MAX_CALL_DEPTH ix = w.programs.call ix := by
      funext m
      exact cpi_other hself 3
    rw [hcall]
    exact hw ix

/-- **The dispatcher keeps to its accounts.** -/
theorem confined_call {w : World} (hw : w.Local) (call : Call) :
    Confined (Access.of accounts)
      (call.run C (accounts.map (AccountInfo.load ℓ)) (env C w accounts)) := by
  rcases hroute : call.route with _ | r
  · cases call with
    | registry_init => exact confined_registry_init
    | adapter_init args => exact confined_adapter_init args
    | toggle_adapter => exact confined_toggle_adapter
    | deposit args => exact absurd hroute (by simp [Call.route])
    | withdraw args => exact absurd hroute (by simp [Call.route])
    | current_value => exact absurd hroute (by simp [Call.route])
  · rw [Call.run_of_route hroute]
    refine .relay (fun ix ctx hplan => ?_) fun ctx => confined_after hroute ctx
    -- the call is passed what the dispatcher was
    have hpermitted : Permitted accounts ix.accounts := permitted_of_planAt (ℓ := ℓ) hplan
    have hdata : ForAdapter ix.data := by
      obtain ⟨-, -, rfl⟩ := Route.plan_eq_ok.mp hplan
      exact Call.forAdapter_of_route hroute
    exact (confined_env hw hdata).mono (Access.within_of_permitted hpermitted)

theorem confinedTo_execute {w : World} (hw : w.Local) (call : Call) :
    ConfinedTo (Access.of accounts) (execute C w accounts call) := by
  apply confinedTo_transact
  · exact fun ℓ => confined_call hw call
  · intro ℓ ℓ' hℓ
    rw [map_load_congr hℓ]

end Call

/-! ## The adapters -/

section Fleet

variable {X : ThirdParty} {t : Int64} {outside : Outside}

/-- An adapter keeps to its accounts, if what it calls does. -/
theorem confined_entry {A : RepositoryAdapter} {e : Env YieldError Event}
    (hcall : ∀ ix, Confined (Access.of ix.accounts) (e.call ix)) (given : List AccountMeta)
    (ℓ : Ledger) (data : List UInt8) :
    Confined (Access.of given) (adapterEntry (A.run X) (cpiAccounts ℓ given) data e) := by
  refine .bind (.lift _) fun ⟨received, rest⟩ _ _ _ => ?_
  cases A with
  | mock =>
      cases received with
      | adapter_deposit args => exact .bind (.lift _) fun _ _ _ _ => .emit _
      | adapter_withdraw args => exact .bind (.lift _) fun _ _ _ _ => .emit _
      | adapter_current_value =>
          exact .bind (.lift _) fun _ _ _ _ => .bind (.emit _) fun _ _ _ _ => .set_return_data _
  | reference B =>
      cases received with
      | adapter_deposit args =>
          show Confined _ ((B.program X).adapter_deposit (cpiAccounts ℓ given) args e)
          refine .relay (fun ix report hplan => ?_) fun report => .emit _
          exact (hcall ix).mono (Access.within_of_permitted (permitted_of_plan hplan))
      | adapter_withdraw args =>
          show Confined _ ((B.program X).adapter_withdraw (cpiAccounts ℓ given) args e)
          refine .relay (fun ix report hplan => ?_) fun report => .emit _
          exact (hcall ix).mono (Access.within_of_permitted (permitted_of_plan hplan))
      | adapter_current_value =>
          refine .bind (.lift _) fun context _ _ _ => ?_
          refine .bind (.lift _) fun current_value _ _ _ => ?_
          exact .bind (.set_return_data _) fun _ _ _ _ => .emit _

/-- The programs from outside keep to the accounts that are passed to them. -/
def Outside.Local (outside : Outside) : Prop :=
  ∀ running ix, Confined (Access.of ix.accounts) (outside.call running ix)

/-- **So does the whole fleet**, then. -/
theorem local_fleet (h : outside.Local) : (fleet X t outside).Local := by
  intro ix
  rcases hat : RepositoryAdapter.atAddress ix.program_id with _ | A
  · have hcall : (fleet X t outside).programs.call ix = outside.call [ID] ix := by
      funext m
      simp only [fleet, hat]
    rw [hcall]
    exact h [ID] ix
  · have hcall : (fleet X t outside).programs.call ix =
        enter (adapterEntry (A.run X)) t (outside.call [A.ID, ID]) ix := by
      funext m
      simp only [fleet, hat]
    rw [hcall]
    exact .enter fun ℓ =>
      confined_entry (fun ix' => .callee fun _ => h [A.ID, ID] ix') ix.accounts ℓ ix.data

end Fleet

/-! ## Runs -/

/-- What an instruction tells its caller: its result, the events, the return data and the
calls. -/
abbrev Answer := Except Error Unit × List (Pubkey × Event) × (Pubkey × List UInt8) ×
  List (Pubkey × Instruction)

/-- The instruction of a step, with its answer. -/
def answers (C : Crypto) (ℓ : Ledger) : Action → List (Action × Answer)
  | .call w accounts call =>
      let out := execute C w accounts call ℓ
      [(.call w accounts call, out.result, out.events, out.return_data, out.calls)]
  | .other _ => []

/-- Two instructions that are not in conflict, among programs that keep to their accounts. -/
def Independent : Action → Action → Prop
  | .call w accounts _, .call w' accounts' _ =>
      w.Local ∧ w'.Local ∧ (Access.of accounts).Apart (Access.of accounts')
  | _, _ => False

theorem Independent.symm {a b : Action} (h : Independent a b) : Independent b a := by
  cases a with
  | other programs => exact h.elim
  | call w accounts call =>
      cases b with
      | other programs => exact h.elim
      | call w' accounts' call' => exact ⟨h.2.1, h.1, h.2.2.symm⟩

section Runs

variable {C : Crypto} {a b : Action}

/-- Independent instructions commute. -/
theorem step_commute (h : Independent a b) (ℓ : Ledger) :
    step C (step C ℓ a) b = step C (step C ℓ b) a := by
  cases a with
  | other programs => exact h.elim
  | call w accounts call =>
      cases b with
      | other programs => exact h.elim
      | call w' accounts' call' =>
          obtain ⟨hw, hw', hapart⟩ := h
          exact (confinedTo_execute hw call).commute (confinedTo_execute hw' call') hapart ℓ

/-- They do not affect each other's answers. -/
theorem answers_of_independent (h : Independent a b) (ℓ : Ledger) :
    answers C (step C ℓ a) b = answers C ℓ b := by
  cases a with
  | other programs => exact h.elim
  | call w accounts call =>
      cases b with
      | other programs => exact h.elim
      | call w' accounts' call' =>
          obtain ⟨hw, hw', hapart⟩ := h
          have hsame := (confinedTo_execute (C := C) hw call).unaffected
            (confinedTo_execute (C := C) hw' call') hapart.1 ℓ
          rw [answers, answers, step, hsame]
          rfl

/-- **Order does not matter** among instructions that are not in conflict.  From any ledger,

1. runs that differ by neighbours changing places that are not in conflict, any number of
   times, end in the same ledger, and every instruction gets the same answer in both;
2. so do runs that carry out a batch of instructions, no two of which are in conflict, in
   any two orders. -/
theorem reordering (C : Crypto) (ℓ : Ledger) :
    (∀ actions actions', Runs.Reordered Independent actions actions' →
      ledgerAfter C ℓ actions = ledgerAfter C ℓ actions' ∧
      (Runs.log (step C) (answers C) ℓ actions).Perm
        (Runs.log (step C) (answers C) ℓ actions')) ∧
    ∀ before batch batch' after, batch.Pairwise Independent → batch.Perm batch' →
      ledgerAfter C ℓ (before ++ batch ++ after) = ledgerAfter C ℓ (before ++ batch' ++ after) ∧
      (Runs.log (step C) (answers C) ℓ (before ++ batch ++ after)).Perm
        (Runs.log (step C) (answers C) ℓ (before ++ batch' ++ after)) := by
  have hreordered : ∀ actions actions', Runs.Reordered Independent actions actions' →
      ledgerAfter C ℓ actions = ledgerAfter C ℓ actions' ∧
      (Runs.log (step C) (answers C) ℓ actions).Perm
        (Runs.log (step C) (answers C) ℓ actions') := by
    intro actions actions' h
    constructor
    · exact Runs.run_reordered (fun a b hI ℓ' => step_commute hI ℓ') h ℓ
    · apply Runs.log_reordered (fun a b hI ℓ' => step_commute hI ℓ') ?_ h ℓ
      exact fun a b hI ℓ' => ⟨answers_of_independent hI ℓ', answers_of_independent hI.symm ℓ'⟩
  refine ⟨hreordered, ?_⟩
  intro before batch batch' after hpairwise hperm
  have hbatch := Runs.reordered_of_perm (fun a b => Independent.symm) hpairwise hperm
  exact hreordered _ _ (hbatch.append before after)

theorem local_quietWorld : quietWorld.Local := fun _ => .of_silent (fun _ => rfl) fun _ _ => rfl

theorem local_quietOutside : quietOutside.Local := fun _ _ =>
  .of_silent (fun _ => rfl) fun _ _ => rfl

/-- A deposit of 5 through the mock adapter, by another caller. -/
def depositMock : Action :=
  .call (fleet sampleThirdParty 1700000000 quietOutside)
    [⟨USDC, true, true⟩, ⟨mockAddress, false, false⟩, ⟨MockAdapter.ID, false, false⟩]
    (.deposit ⟨5, [9]⟩)

/-- A toggle and a deposit, either of which may come first. -/
theorem reordering_toggle_deposit :
    ledgerAfter mockCrypto genesis
      ([openRegistry, registerDrift 0, registerMock] ++ [toggleDrift, depositMock] ++ []) =
    ledgerAfter mockCrypto genesis
      ([openRegistry, registerDrift 0, registerMock] ++ [depositMock, toggleDrift] ++ []) := by
  have hindependent : Independent toggleDrift depositMock :=
    ⟨local_quietWorld, local_fleet local_quietOutside, by decide⟩
  obtain ⟨-, hbatch⟩ := reordering mockCrypto genesis
  exact (hbatch _ _ _ _ (List.pairwise_pair.mpr hindependent) (.swap _ _ [])).1

/-! ## Simulations -/

/-- The action does not write what `F` reads. -/
def Spares (F : Access) : Action → Prop
  | .call w accounts _ => w.Local ∧ Disjoint (Access.of accounts).writes F.reads
  | .other programs => ∀ ℓ, Set.EqOn ℓ (programs.run ℓ) F.reads

/-- A run that spares what `F` reads leaves it as it was. -/
theorem eqOn_ledgerAfter {F : Access} {actions : List Action}
    (hspares : ∀ action ∈ actions, Spares F action) (ℓ : Ledger) :
    Set.EqOn ℓ (ledgerAfter C ℓ actions) F.reads := by
  induction actions generalizing ℓ with
  | nil => exact fun _ _ => rfl
  | cons action actions ih =>
      have hrest := ih (fun a ha => hspares a (List.mem_cons_of_mem action ha)) (step C ℓ action)
      have hfirst : Set.EqOn ℓ (step C ℓ action) F.reads := by
        have haction := hspares action List.mem_cons_self
        cases action with
        | other programs => exact haction ℓ
        | call w accounts call =>
            intro k hk
            exact ((confinedTo_execute haction.1 call).unchanged ℓ
              (haction.2.notMem_of_mem_right hk)).symm
      exact hfirst.trans hrest

/-- **What is simulated is what is executed.**  An instruction that is carried out after a
run gets the answer that it would have got before it, under the same clock and with the same
programs, and leaves its accounts as it would have left them, provided that nothing in the
run was passed one of them as writable. -/
theorem simulation_holds {w : World} (hw : w.Local) (accounts : List AccountMeta) (call : Call)
    (ℓ : Ledger) {actions : List Action}
    (hspares : ∀ action ∈ actions, Spares (Access.of accounts) action) :
    answers C (ledgerAfter C ℓ actions) (.call w accounts call) =
      answers C ℓ (.call w accounts call) ∧
    ∀ a ∈ accounts, (execute C w accounts call (ledgerAfter C ℓ actions)).ledger a.pubkey =
      (execute C w accounts call ℓ).ledger a.pubkey := by
  have hagree := eqOn_ledgerAfter (C := C) hspares ℓ
  have hconfined : ConfinedTo (Access.of accounts) (execute C w accounts call) :=
    confinedTo_execute hw call
  have hsame := hconfined _ _ hagree
  constructor
  · rw [answers, answers, hsame]
    rfl
  · intro a ha
    rw [hsame]
    show (Access.of accounts).merge _ _ a.pubkey = _
    by_cases hwrite : a.pubkey ∈ (Access.of accounts).writes
    · rw [Access.merge_of_mem hwrite]
    · rw [Access.merge_of_notMem hwrite, hconfined.unchanged ℓ hwrite]
      exact (hagree ⟨a, ha, rfl, rfl⟩).symm

/-- The deposit has the same answer after the toggle of another record. -/
theorem simulation_holds_deposit :
    answers mockCrypto (ledgerAfter mockCrypto (ledgerAfter mockCrypto genesis
      [openRegistry, registerDrift 0, registerMock]) [toggleDrift]) depositMock =
    answers mockCrypto (ledgerAfter mockCrypto genesis
      [openRegistry, registerDrift 0, registerMock]) depositMock := by
  have hspares : ∀ action ∈ [toggleDrift], Spares
      (Access.of [⟨USDC, true, true⟩, ⟨mockAddress, false, false⟩,
        ⟨MockAdapter.ID, false, false⟩]) action := by
    intro action hmem
    obtain rfl := List.mem_singleton.mp hmem
    have hapart : (Access.of [⟨INITIALIZER, true, true⟩, ⟨driftAddress, false, true⟩]).Apart
        (Access.of [⟨USDC, true, true⟩, ⟨mockAddress, false, false⟩,
          ⟨MockAdapter.ID, false, false⟩]) := by decide
    exact ⟨local_quietWorld, hapart.1⟩
  exact (simulation_holds (local_fleet local_quietOutside) _ _ _ hspares).1

end Runs

end Dispatcher
