/-
# Locality

The runtime shows a program the accounts that were passed to it, and lets it write those
that were passed as writable.  What it does is then a function of the accounts it reads,
and the rest of the ledger comes through unchanged.

* `Access` : the accounts that may be read, and those of them that may be written;
* `Confined` : a computation that keeps to its accesses, with a rule for each way in which
  programs are put together;
* `ConfinedTo.commute` : of two instructions neither of which writes what the other reads,
  either may come first.
-/
import YieldAdapter.Privileges

open Solana

/-! ## Accesses -/

/-- The accounts that a computation may read, and those of them that it may write. -/
structure Access where
  reads : Set Pubkey
  writes : Set Pubkey
  subset : writes ⊆ reads

namespace Access

variable {F G : Access} {ℓ ℓ' ℓ₁ ℓ₂ : Ledger}

/-- The accesses that the accounts of an instruction give. -/
def of (as : List AccountMeta) : Access where
  reads := {k | Grants as (fun _ => true) k}
  writes := {k | Grants as AccountMeta.is_writable k}
  subset := fun _ ⟨a, ha, hk, _⟩ => ⟨a, ha, hk, rfl⟩

/-- The accesses of `F` are among those of `G`. -/
def Within (F G : Access) : Prop := F.reads ⊆ G.reads ∧ F.writes ⊆ G.writes

/-- Neither writes what the other reads. -/
def Apart (F G : Access) : Prop := Disjoint F.writes G.reads ∧ Disjoint G.writes F.reads

/-- No account that is writable in one list is in the other. -/
theorem apart_of_iff {as bs : List AccountMeta} :
    (of as).Apart (of bs) ↔
      (∀ a ∈ as, a.is_writable = true → ∀ b ∈ bs, b.pubkey ≠ a.pubkey) ∧
        ∀ b ∈ bs, b.is_writable = true → ∀ a ∈ as, a.pubkey ≠ b.pubkey := by
  have hdisjoint : ∀ as bs : List AccountMeta, Disjoint (of as).writes (of bs).reads ↔
      ∀ a ∈ as, a.is_writable = true → ∀ b ∈ bs, b.pubkey ≠ a.pubkey := by
    intro as bs
    rw [Set.disjoint_left]
    constructor
    · intro h a ha hwritable b hb hkey
      exact h ⟨a, ha, rfl, hwritable⟩ ⟨b, hb, hkey, rfl⟩
    · rintro h k ⟨a, ha, rfl, hwritable⟩ ⟨b, hb, hkey, -⟩
      exact h a ha hwritable b hb hkey
  exact and_congr (hdisjoint as bs) (hdisjoint bs as)

instance (as bs : List AccountMeta) : Decidable ((of as).Apart (of bs)) :=
  decidable_of_iff _ apart_of_iff.symm

theorem Apart.symm (h : F.Apart G) : G.Apart F := ⟨h.2, h.1⟩

theorem within_of_permitted {given asked : List AccountMeta} (h : Permitted given asked) :
    (of asked).Within (of given) := by
  constructor
  · rintro _ ⟨a, ha, rfl, -⟩
    exact (h a ha).1
  · rintro _ ⟨a, ha, rfl, hwritable⟩
    exact (h a ha).2.2 hwritable

open scoped Classical in
/-- `ℓ`, with what `after` holds where `F` may write. -/
noncomputable def merge (F : Access) (after ℓ : Ledger) : Ledger := F.writes.piecewise after ℓ

open scoped Classical in
theorem merge_of_mem {k : Pubkey} (h : k ∈ F.writes) : F.merge ℓ₁ ℓ k = ℓ₁ k :=
  Set.piecewise_eq_of_mem _ _ _ h

open scoped Classical in
theorem merge_of_notMem {k : Pubkey} (h : k ∉ F.writes) : F.merge ℓ₁ ℓ k = ℓ k :=
  Set.piecewise_eq_of_notMem _ _ _ h

/-- Where nothing has been written, nothing changes. -/
theorem merge_of_eqOn (h : Set.EqOn ℓ ℓ' F.reads) : F.merge ℓ ℓ' = ℓ' := by
  funext k
  by_cases hk : k ∈ F.writes
  · rw [merge_of_mem hk]
    exact h (F.subset hk)
  · exact merge_of_notMem hk

theorem merge_merge : F.merge ℓ₂ (F.merge ℓ₁ ℓ) = F.merge ℓ₂ ℓ := by
  funext k
  by_cases hk : k ∈ F.writes
  · rw [merge_of_mem hk, merge_of_mem hk]
  · rw [merge_of_notMem hk, merge_of_notMem hk, merge_of_notMem hk]

/-- What is written at one more place. -/
theorem merge_update {k : Pubkey} (hk : k ∈ F.writes) (h : Set.EqOn ℓ ℓ' F.reads) (a : Account) :
    F.merge (Function.update ℓ k a) ℓ' = Function.update ℓ' k a := by
  funext k'
  by_cases heq : k' = k
  · subst heq
    rw [merge_of_mem hk, Function.update_self, Function.update_self]
  · rw [Function.update_of_ne heq]
    by_cases hwrite : k' ∈ F.writes
    · rw [merge_of_mem hwrite, Function.update_of_ne heq]
      exact h (F.subset hwrite)
    · exact merge_of_notMem hwrite

end Access

/-- Ledgers that agree on the accounts of an instruction show the same accounts. -/
theorem map_load_congr {as : List AccountMeta} {ℓ ℓ' : Ledger}
    (h : Set.EqOn ℓ ℓ' (Access.of as).reads) :
    as.map (AccountInfo.load ℓ) = as.map (AccountInfo.load ℓ') := by
  apply List.map_congr_left
  intro a ha
  rw [AccountInfo.load, AccountInfo.load, h ⟨a, ha, rfl, rfl⟩]

theorem cpiAccounts_congr {as : List AccountMeta} {ℓ ℓ' : Ledger}
    (h : Set.EqOn ℓ ℓ' (Access.of as).reads) : cpiAccounts ℓ as = cpiAccounts ℓ' as := by
  have hmerged := Access.within_of_permitted (Permitted.mergeFlags as)
  exact map_load_congr (h.mono hmerged.1)

/-! ## Computations -/

section Machine

variable {ε Ev α β γ : Type}

/-- The machine with another ledger. -/
def Machine.on (m : Machine Ev) (ℓ : Ledger) : Machine Ev := { m with ledger := ℓ }

/-- A computation that keeps to its accesses: in another ledger that agrees on what it
reads, it does the same, and the ledger changes only where it writes. -/
def Confined (F : Access) (f : Machine Ev → β × Machine Ev) : Prop :=
  ∀ m ℓ, Set.EqOn m.ledger ℓ F.reads →
    f (m.on ℓ) = ((f m).1, (f m).2.on (F.merge (f m).2.ledger ℓ))

namespace Confined

variable {F G : Access}

/-- What may not be written is unchanged. -/
theorem unchanged {f : Machine Ev → β × Machine Ev} (h : Confined F f) (m : Machine Ev)
    {k : Pubkey} (hk : k ∉ F.writes) : (f m).2.ledger k = m.ledger k := by
  have hsame := congrArg (fun r => r.2.ledger k) (h m m.ledger fun _ _ => rfl)
  exact hsame.trans (Access.merge_of_notMem hk)

/-- Afterwards the ledgers still agree on what is read. -/
theorem eqOn_merge {f : Machine Ev → β × Machine Ev} (h : Confined F f) {m : Machine Ev}
    {ℓ : Ledger} (hℓ : Set.EqOn m.ledger ℓ F.reads) :
    Set.EqOn (f m).2.ledger (F.merge (f m).2.ledger ℓ) F.reads := by
  intro k hk
  by_cases hwrite : k ∈ F.writes
  · rw [Access.merge_of_mem hwrite]
  · rw [Access.merge_of_notMem hwrite, h.unchanged m hwrite]
    exact hℓ hk

/-- More may be allowed. -/
theorem mono {f : Machine Ev → β × Machine Ev} (h : Confined F f) (hFG : F.Within G) :
    Confined G f := by
  intro m ℓ hℓ
  rw [h m ℓ (hℓ.mono hFG.1)]
  have hsame : F.merge (f m).2.ledger ℓ = G.merge (f m).2.ledger ℓ := by
    funext k
    by_cases hF : k ∈ F.writes
    · rw [Access.merge_of_mem hF, Access.merge_of_mem (hFG.2 hF)]
    · rw [Access.merge_of_notMem hF]
      by_cases hG : k ∈ G.writes
      · rw [Access.merge_of_mem hG, h.unchanged m hF]
        exact (hℓ (G.subset hG)).symm
      · exact (Access.merge_of_notMem hG).symm
  rw [hsame]

/-- A computation that leaves the ledger alone, and does not look at it. -/
theorem of_silent {f : Machine Ev → β × Machine Ev} (hledger : ∀ m, (f m).2.ledger = m.ledger)
    (hsame : ∀ m ℓ, f (m.on ℓ) = ((f m).1, (f m).2.on ℓ)) : Confined F f := by
  intro m ℓ hℓ
  rw [hsame, hledger, Access.merge_of_eqOn hℓ]

variable {e : Env ε Ev}

theorem lift (r : Except (ProgramError ε) α) : Confined F ((Exec.lift r : Exec ε Ev α) e) :=
  of_silent (fun _ => rfl) fun _ _ => rfl

theorem emit (ev : Ev) : Confined F ((Exec.emit ev : Exec ε Ev Unit) e) :=
  of_silent (fun _ => rfl) fun _ _ => rfl

theorem set_return_data (data : List UInt8) :
    Confined F ((Exec.set_return_data data : Exec ε Ev Unit) e) :=
  of_silent (fun _ => rfl) fun _ _ => rfl

theorem get_return_data : Confined F ((Exec.get_return_data : Exec ε Ev _) e) :=
  of_silent (fun _ => rfl) fun _ _ => rfl

theorem unix_timestamp : Confined F ((Exec.unix_timestamp : Exec ε Ev _) e) :=
  of_silent (fun _ => rfl) fun _ _ => rfl

theorem readAccount {k : Pubkey} (hk : k ∈ F.reads) :
    Confined F ((Exec.readAccount k : Exec ε Ev _) e) := by
  intro m ℓ hℓ
  have hsame : m.ledger k = ℓ k := hℓ hk
  show (Except.ok (ℓ k), m.on ℓ) = (Except.ok (m.ledger k), m.on (F.merge m.ledger ℓ))
  rw [hsame, Access.merge_of_eqOn hℓ]

theorem writeAccount {k : Pubkey} (hk : k ∈ F.writes) (a : Account) :
    Confined F ((Exec.writeAccount k a : Exec ε Ev Unit) e) := by
  intro m ℓ hℓ
  show (Except.ok (), m.on (Function.update ℓ k a)) =
    (Except.ok (), m.on (F.merge (Function.update m.ledger k a) ℓ))
  rw [Access.merge_update hk hℓ]

/-- **The sequencing rule.**  What comes second may count on the first to have succeeded. -/
theorem bind {x : Exec ε Ev α} {f : α → Exec ε Ev β} (hx : Confined F (x e))
    (hf : ∀ a m m', x e m = (.ok a, m') → Confined F (f a e)) : Confined F ((x >>= f) e) := by
  intro m ℓ hℓ
  have hfirst := hx m ℓ hℓ
  have hagree := hx.eqOn_merge hℓ
  rw [Exec.bind_apply, Exec.bind_apply]
  rcases hrun : x e m with ⟨err | a, m₁⟩
  · rw [hrun] at hfirst
    rw [hfirst]
  · rw [hrun] at hfirst hagree
    rw [hfirst]
    show f a e (m₁.on _) = _
    rw [hf a m m₁ hrun m₁ _ hagree, Access.merge_merge]

theorem invoke {ix : Instruction} (hcall : Confined F (e.call ix)) :
    Confined F ((Exec.invoke ix : Exec ε Ev Unit) e) := fun m ℓ hℓ =>
  hcall (m.called e.program_id ix) ℓ hℓ

/-- **A relay** keeps to the accesses to which its one call does. -/
theorem relay {plan : Except (ProgramError ε) (Instruction × γ)} {after : γ → Exec ε Ev Unit}
    (hcall : ∀ ix g, plan = .ok (ix, g) → Confined F (e.call ix))
    (hafter : ∀ g, Confined F (after g e)) : Confined F (relay plan after e) := by
  refine bind (lift plan) fun p m m' hp => ?_
  obtain ⟨hplan, -⟩ := Exec.lift_eq_ok.mp hp
  exact bind (invoke (hcall p.1 p.2 hplan)) fun _ _ _ _ => hafter p.2

/-- Looking for the callee takes no access. -/
theorem callee {accounts : List Pubkey} {ix : Instruction}
    {call : Instruction → Machine Ev → Except (ProgramError ε) Unit × Machine Ev}
    (hcall : ix.program_id ∈ accounts → Confined F (call ix)) :
    Confined F (findCallee accounts call ix) := by
  by_cases h : ix.program_id ∈ accounts
  · rw [show findCallee accounts call ix = call ix from funext fun _ => findCallee_of_mem h]
    exact hcall h
  · rw [show findCallee accounts call ix = fun m => (.error .missingAccount, m) from
      funext fun _ => findCallee_of_not_mem h]
    exact of_silent (fun _ => rfl) fun _ _ => rfl

/-- **Entering a program** shows it the accounts that are passed. -/
theorem enter {program : Program ε Ev} {t : Int64}
    {call : Instruction → Machine Ev → Except (ProgramError ε) Unit × Machine Ev}
    {ix : Instruction}
    (h : ∀ ℓ, Confined (Access.of ix.accounts)
      (program (cpiAccounts ℓ ix.accounts) ix.data
        ⟨ix.program_id, t, findCallee (ix.accounts.map AccountMeta.pubkey) call⟩)) :
    Confined (Access.of ix.accounts) (enter program t call ix) := by
  intro m ℓ hℓ
  have hseen : cpiAccounts (m.on ℓ).ledger ix.accounts = cpiAccounts m.ledger ix.accounts :=
    (cpiAccounts_congr hℓ).symm
  show program (cpiAccounts (m.on ℓ).ledger ix.accounts) ix.data _ _ = _
  rw [hseen]
  exact h m.ledger { m with return_data := (ix.program_id, []) } ℓ hℓ

end Confined

/-! ## Instructions -/

/-- The outcome with another ledger. -/
def Outcome.on (out : Outcome ε Ev) (ℓ : Ledger) : Outcome ε Ev := { out with ledger := ℓ }

/-- An instruction that keeps to its accesses. -/
def ConfinedTo (F : Access) (f : Ledger → Outcome ε Ev) : Prop :=
  ∀ ℓ ℓ', Set.EqOn ℓ ℓ' F.reads → f ℓ' = (f ℓ).on (F.merge (f ℓ).ledger ℓ')

/-- A computation that keeps to its accesses does so as an instruction. -/
theorem confinedTo_transact {F : Access} {e : Env ε Ev} {x : Ledger → Exec ε Ev Unit}
    (hx : ∀ ℓ, Confined F (x ℓ e)) (hsame : ∀ ℓ ℓ', Set.EqOn ℓ ℓ' F.reads → x ℓ = x ℓ') :
    ConfinedTo F fun ℓ => transact (x ℓ) e ℓ := by
  intro ℓ ℓ' hℓ
  have hrun : x ℓ e (Machine.start e.program_id ℓ') = _ :=
    hx ℓ (Machine.start e.program_id ℓ) ℓ' hℓ
  have hx' := hsame ℓ ℓ' hℓ
  show transact (x ℓ') e ℓ' = (transact (x ℓ) e ℓ).on (F.merge (transact (x ℓ) e ℓ).ledger ℓ')
  rw [← hx']
  rcases hout : x ℓ e (Machine.start e.program_id ℓ) with ⟨err | ⟨⟩, m⟩
  · -- a failure is rolled back
    rw [hout] at hrun
    rw [transact_of_error hout, transact_of_error hrun]
    show Outcome.mk _ ℓ' _ _ _ = Outcome.mk _ (F.merge ℓ ℓ') _ _ _
    rw [Access.merge_of_eqOn hℓ]
    rfl
  · rw [hout] at hrun
    rw [transact_of_ok hout, transact_of_ok hrun]
    rfl

namespace ConfinedTo

variable {F G : Access} {f g : Ledger → Outcome ε Ev}

theorem unchanged (hf : ConfinedTo F f) (ℓ : Ledger) {k : Pubkey} (hk : k ∉ F.writes) :
    (f ℓ).ledger k = ℓ k := by
  have hsame := congrArg (fun out => out.ledger k) (hf ℓ ℓ fun _ _ => rfl)
  exact hsame.trans (Access.merge_of_notMem hk)

/-- An instruction that writes nothing of what another reads does not affect it. -/
theorem unaffected (hf : ConfinedTo F f) (hg : ConfinedTo G g) (h : Disjoint F.writes G.reads)
    (ℓ : Ledger) : g (f ℓ).ledger = (g ℓ).on (G.merge (g ℓ).ledger (f ℓ).ledger) := by
  apply hg
  intro k hk
  exact (hf.unchanged ℓ (h.notMem_of_mem_right hk)).symm

/-- **Two instructions of which neither writes what the other reads** may be carried out in
either order. -/
theorem commute (hf : ConfinedTo F f) (hg : ConfinedTo G g) (h : F.Apart G) (ℓ : Ledger) :
    (g (f ℓ).ledger).ledger = (f (g ℓ).ledger).ledger := by
  rw [unaffected hf hg h.1, unaffected hg hf h.2]
  funext k
  show G.merge (g ℓ).ledger (f ℓ).ledger k = F.merge (f ℓ).ledger (g ℓ).ledger k
  by_cases hG : k ∈ G.writes
  · have hF : k ∉ F.writes := fun hF => h.1.notMem_of_mem_left hF (G.subset hG)
    rw [Access.merge_of_mem hG, Access.merge_of_notMem hF]
  · rw [Access.merge_of_notMem hG]
    by_cases hF : k ∈ F.writes
    · rw [Access.merge_of_mem hF]
    · rw [Access.merge_of_notMem hF, hf.unchanged ℓ hF, hg.unchanged ℓ hG]

end ConfinedTo

end Machine
