/-
# What the table can become

The adapter table is an exact picture of the dispatcher: no run brings about a table that
the changes of the table do not, and every table that they do is brought about by some run,
as long as the addresses that the dispatcher derives have been left alone.

What such a run takes is stated with it.  A record says when it was registered, and each
instruction has a clock reading of its own, of whose order nothing is known; the readings at
which records are registered may be confined to any set.  The rent of a new account has been
sent to its address before, as anybody may.  Every key that is to sign does.
-/
import YieldAdapter.Lifecycle
import YieldAdapter.Registration
import YieldAdapter.ToggleRequests

open Solana

namespace Dispatcher

variable {C : Crypto} {ℓ ℓ' : Ledger} {k : Pubkey}

/-- The address of the registry, or of some record. -/
def Derived (C : Crypto) (k : Pubkey) : Prop :=
  (∃ bump, find_program_address C Registry.seeds ID = some (k, bump)) ∨
    ∃ program_id authority bump,
      find_program_address C (Adapter.seeds program_id authority) ID = some (k, bump)

/-- Nobody uses a derived address that holds nothing. -/
def Untouched (C : Crypto) (ℓ : Ledger) : Prop :=
  ∀ k, Derived C k → (view ℓ).registry k = none → (view ℓ).adapter k = none → (ℓ k).Plain

/-- Filling an address leaves the others untouched. -/
theorem Untouched.of_same (h : Untouched C ℓ)
    (hsame : ∀ k, ((ℓ' k).owner = (ℓ k).owner ∧ (ℓ' k).data = (ℓ k).data) ∨
      heldRegistry (ℓ' k) ≠ none ∨ heldAdapter (ℓ' k) ≠ none) : Untouched C ℓ' := by
  intro k hderived hregistry hadapter
  rcases hsame k with ⟨howner, hdata⟩ | hne | hne
  · have hplain : (ℓ k).Plain := h k hderived
      ((Registry.accountType.held_congr howner hdata).symm.trans hregistry)
      ((Adapter.accountType.held_congr howner hdata).symm.trans hadapter)
    exact ⟨howner.trans hplain.owner, hdata.trans hplain.data⟩
  · exact absurd hregistry hne
  · exact absurd hadapter hne

/-- So does creating an account that holds something. -/
theorem Untouched.created (h : Untouched C ℓ) {payer : Pubkey} {data : List UInt8}
    (hheld : ∀ lamports, heldRegistry ⟨lamports, ID, data⟩ ≠ none ∨
      heldAdapter ⟨lamports, ID, data⟩ ≠ none) :
    Untouched C (System.created ℓ payer k ID data) := by
  refine h.of_same fun k' => ?_
  by_cases hk : k' = k
  · rw [hk, System.created_self]
    exact .inr (hheld _)
  · exact .inl (System.created_holds_of_ne hk)

/-! ## The rent -/

/-- Somebody sends lamports to `k`. -/
def sendLamports (k : Pubkey) (lamports : ℕ) : OtherPrograms where
  run := fun ℓ => Function.update ℓ k { ℓ k with lamports := (ℓ k).lamports + lamports }
  frame := fun ℓ => by
    have hkept : ∀ k', (ℓ k').Kept
        (Function.update ℓ k { ℓ k with lamports := (ℓ k).lamports + lamports } k') := by
      intro k'
      by_cases hk : k' = k
      · rw [hk, Function.update_self]
        exact ⟨rfl, rfl, Nat.le_add_right _ _⟩
      · rw [Function.update_of_ne hk]
        exact .refl _
    exact ⟨fun k' _ => hkept k',
      fun k' hne howner => absurd ((hkept k').owner.symm.trans howner) hne⟩

theorem sendLamports_self (k : Pubkey) (lamports : ℕ) (ℓ : Ledger) :
    (sendLamports k lamports).run ℓ k = { ℓ k with lamports := (ℓ k).lamports + lamports } :=
  Function.update_self _ _ _

/-- An address to which the rent has been sent costs its payer nothing. -/
theorem creatable_sendLamports {payer : Pubkey} {space : ℕ} (hplain : (ℓ k).Plain)
    (hne : payer ≠ k) :
    System.Creatable ((sendLamports k (Rent.minimum_balance space)).run ℓ) payer k space := by
  refine ⟨?_, hne, .inl ?_⟩
  · rw [sendLamports_self]
    exact ⟨hplain.owner, hplain.data⟩
  · rw [System.rentDue, sendLamports_self]
    exact Nat.sub_eq_zero_of_le (Nat.le_add_left _ _)

theorem Untouched.sendLamports (h : Untouched C ℓ) (lamports : ℕ) :
    Untouched C ((sendLamports k lamports).run ℓ) := by
  refine h.of_same fun k' => .inl ?_
  by_cases hk : k' = k
  · rw [hk, sendLamports_self]
    exact ⟨rfl, rfl⟩
  · exact ⟨congrArg Account.owner (Function.update_of_ne hk _ _),
      congrArg Account.data (Function.update_of_ne hk _ _)⟩

/-! ## The changes, one by one -/

/-- The registrations among these actions happen at a time in `T`. -/
def RegistersIn (T : Set Int64) : Action → Prop
  | .call w _ (.adapter_init _) => w.unix_timestamp ∈ T
  | _ => True

/-- If the change adds a record, it says that it was registered at a time in `T`. -/
def Change.In (T : Set Int64) : Change → Prop
  | .register _ a => a.registered_at ∈ T
  | _ => True

/-- Some run, in which records are registered at times in `T`, brings a change about. -/
def Achieves (C : Crypto) (T : Set Int64) (ℓ : Ledger) (c : Change) : Prop :=
  ∃ actions, (∀ action ∈ actions, RegistersIn T action) ∧
    view (ledgerAfter C ℓ actions) = c.apply (view ℓ) ∧ Untouched C (ledgerAfter C ℓ actions)

/-- The quiet world at a given time. -/
def worldAt (unix_timestamp : Int64) : World := { quietWorld with unix_timestamp }

variable {T : Set Int64}

/-- **Opening the registry** can be brought about. -/
theorem exists_openRegistry (hsigner : ¬ Derived C INITIALIZER) (huntouched : Untouched C ℓ)
    {r : Registry} (hc : (Change.openRegistry k r).Enabled C (view ℓ)) :
    Achieves C T ℓ (.openRegistry k r) := by
  obtain ⟨hregistry, hadapter, hinitializer, hfind⟩ := hc
  have hderived : Derived C k := .inl ⟨_, hfind⟩
  have hne : INITIALIZER ≠ k := fun h => hsigner (h ▸ hderived)
  have hplain := huntouched k hderived hregistry hadapter
  -- the rent is sent, and then `INITIALIZER` opens the registry
  set rent := sendLamports k (Rent.minimum_balance (8 + Registry.accountType.INIT_SPACE))
  let s : RegistryInit := ⟨⟨INITIALIZER, true, true⟩, ⟨k, false, true⟩, ⟨System.ID, false, false⟩⟩
  have hok : (execute C quietWorld (s.accounts []) .registry_init (rent.run ℓ)).result = .ok () :=
    RegistryInit.execute_eq_ok_iff.mpr ⟨s, [], rfl, ⟨rfl, rfl, rfl, rfl⟩, rfl,
      ⟨⟨r.bump, hfind⟩, creatable_sendLamports hplain hne⟩⟩
  obtain ⟨bump, hfind', hledger, hview⟩ := RegistryInit.ledger_of_ok hok
  obtain ⟨-, rfl⟩ := Prod.mk.inj (Option.some.inj (hfind'.symm.trans hfind))
  have hr : (⟨INITIALIZER, r.bump⟩ : Registry) = r := by rw [← hinitializer]
  refine ⟨[.other rent, .call quietWorld (s.accounts []) .registry_init], by simp [RegistersIn],
    ?_, ?_⟩
  · show view (execute C quietWorld (s.accounts []) .registry_init (rent.run ℓ)).ledger = _
    rw [hview, hr, view_of_frame (rent.frame ℓ)]
    rfl
  · show Untouched C (execute C quietWorld (s.accounts []) .registry_init (rent.run ℓ)).ledger
    rw [hledger, hr]
    refine (huntouched.sendLamports _).created fun lamports => .inl ?_
    rw [heldRegistry_image]
    simp

/-- **Registering a record** can be brought about, at the time that it gives. -/
theorem exists_register (hsigner : ¬ Derived C INITIALIZER) (hvalid : (view ℓ).Valid C)
    (huntouched : Untouched C ℓ) {a : Adapter} (hT : a.registered_at ∈ T)
    (hc : (Change.register k a).Enabled C (view ℓ)) : Achieves C T ℓ (.register k a) := by
  obtain ⟨hregistry, hadapter, ⟨k₀, r, hheld⟩, hinv, hfind⟩ := hc
  have hderived : Derived C k := .inr ⟨_, _, _, hfind⟩
  obtain ⟨hinitializer, hfind₀⟩ := hvalid.registry k₀ r hheld
  have hne : r.initializer ≠ k := by
    rw [hinitializer]
    exact fun h => hsigner (h ▸ hderived)
  have hplain := huntouched k hderived hregistry hadapter
  obtain ⟨hauthority, hprogram, hmint, hstatus⟩ := Adapter.invariant_eq_ok.mp hinv
  -- the rent is sent, and then the initializer registers the record
  set rent := sendLamports k (Rent.minimum_balance (8 + Adapter.accountType.INIT_SPACE))
  have hview₁ : view (rent.run ℓ) = view ℓ := view_of_frame (rent.frame ℓ)
  have hheld₁ : heldRegistry (rent.run ℓ k₀) = some r :=
    (congrFun (congrArg Table.registry hview₁) k₀).trans hheld
  let s : AdapterInit := ⟨⟨r.initializer, true, true⟩, ⟨k, false, true⟩, ⟨k₀, false, false⟩,
    ⟨System.ID, false, false⟩⟩
  let args : AdapterInitArgs := ⟨a.authority, a.program_id, a.supported_mint, a.status⟩
  let w := worldAt a.registered_at
  have hok : (execute C w (s.accounts []) (.adapter_init args) (rent.run ℓ)).result = .ok () :=
    AdapterInit.execute_eq_ok_iff.mpr ⟨s, [], rfl, ⟨rfl, rfl, rfl, rfl⟩,
      ⟨⟨r, hheld₁, rfl, create_of_find C hfind₀⟩, ⟨a.bump, hfind⟩,
        creatable_sendLamports hplain hne⟩, hstatus, hauthority, hprogram, hmint⟩
  obtain ⟨bump, hfind', hledger, -, hview⟩ := AdapterInit.ledger_of_ok hok
  obtain ⟨-, rfl⟩ := Prod.mk.inj (Option.some.inj (hfind'.symm.trans hfind))
  have ha : args.record w.unix_timestamp a.bump = a := rfl
  refine ⟨[.other rent, .call w (s.accounts []) (.adapter_init args)], ?_, ?_, ?_⟩
  · rw [List.forall_mem_cons, List.forall_mem_singleton]
    exact ⟨trivial, hT⟩
  · show view (execute C w (s.accounts []) (.adapter_init args) (rent.run ℓ)).ledger = _
    rw [hview, ha, hview₁]
    rfl
  · show Untouched C (execute C w (s.accounts []) (.adapter_init args) (rent.run ℓ)).ledger
    rw [hledger, ha]
    refine (huntouched.sendLamports _).created fun lamports => .inr ?_
    rw [heldAdapter_image]
    simp

/-- **Toggling a record** can be brought about. -/
theorem exists_toggle (hvalid : (view ℓ).Valid C) (huntouched : Untouched C ℓ) {a : Adapter}
    {status : AdapterStatus} (hc : (Change.toggle k a status).Enabled C (view ℓ)) :
    Achieves C T ℓ (.toggle k a status) := by
  obtain ⟨hheld, hstatus, hne⟩ := hc
  obtain ⟨-, hfind⟩ := hvalid.adapter k a hheld
  let s : ToggleAdapter := ⟨⟨a.authority, true, true⟩, ⟨k, false, true⟩⟩
  have hout := ToggleAdapter.execute_of_togglable (w := quietWorld) (s := s) [] ⟨rfl, rfl, rfl⟩
    ⟨hheld, rfl, create_of_find C hfind, hstatus, hne⟩
  have howner : (ℓ k).owner = ID := (Adapter.accountType.held_eq_some.mp hheld).1
  have hledger : (execute C quietWorld (s.accounts []) .toggle_adapter ℓ).ledger =
      Function.update ℓ k ⟨(ℓ k).lamports, ID,
        Adapter.accountType.try_serialize (a.withStatus (toggled status)) ++
          (ℓ k).data.drop (8 + Adapter.accountType.INIT_SPACE)⟩ := by
    rw [hout, ← howner]
  have hregistry : (view ℓ).registry k = none := heldRegistry_of_heldAdapter hheld
  refine ⟨[.call quietWorld (s.accounts []) .toggle_adapter], by simp [RegistersIn], ?_, ?_⟩
  · show view (execute C quietWorld (s.accounts []) .toggle_adapter ℓ).ledger = _
    rw [hledger]
    exact view_update_adapter hregistry _ _ _
  · show Untouched C (execute C quietWorld (s.accounts []) .toggle_adapter ℓ).ledger
    rw [hledger]
    refine huntouched.of_same fun k' => ?_
    by_cases hk : k' = k
    · right
      right
      rw [hk]
      show heldAdapter (Function.update ℓ k _ k) ≠ none
      rw [Function.update_self, heldAdapter, Adapter.accountType.held_serialized]
      simp
    · exact .inl ⟨congrArg Account.owner (Function.update_of_ne hk _ _),
        congrArg Account.data (Function.update_of_ne hk _ _)⟩

/-- A change of a table that is possible there; a record that is added was registered at a
time in `T`. -/
def Table.Becomes (C : Crypto) (T : Set Int64) (t t' : Table) : Prop :=
  ∃ c : Change, c.Enabled C t ∧ c.In T ∧ t' = c.apply t

/-- **What the table can become.**  Let `T` be any set of times.  From a ledger without data
of the dispatcher, in which nobody uses the addresses that it derives and `INITIALIZER` is
none of them, runs of the dispatcher in which records are registered at times in `T`,
interleaved with whatever other programs do, lead to exactly those tables that a sequence of
possible changes makes of the empty one, in which the records say that they were registered
at times in `T`. -/
theorem table_reachable_iff {ℓ₀ : Ledger} (h₀ : NoData ℓ₀)
    (hunused : ∀ k, Derived C k → (ℓ₀ k).Plain) (hsigner : ¬ Derived C INITIALIZER)
    (T : Set Int64) (t : Table) :
    (∃ actions, (∀ action ∈ actions, RegistersIn T action) ∧
        view (ledgerAfter C ℓ₀ actions) = t) ↔
      Relation.ReflTransGen (Table.Becomes C T) Table.empty t := by
  rw [← view_of_noData h₀]
  apply Runs.reachable_iff (I := fun ℓ => (view ℓ).Valid C ∧ Untouched C ℓ)
  · intro ℓ action hT
    obtain ⟨c, henabled, hview, hby⟩ := step_change (C := C) (ℓ := ℓ) action
    refine ⟨c, henabled, ?_, hview⟩
    cases c with
    | register k a =>
        -- the record says what the clock said
        obtain ⟨-, w, initializer, adapter, rest, args, rfl, -, -, -, -, -, -, ha⟩ := hby
        rw [Change.In, ha]
        exact hT
    | _ => trivial
  · rintro ℓ ⟨hvalid, huntouched⟩ _ ⟨c, henabled, hT, rfl⟩
    have hrun : Achieves C T ℓ c := by
      cases c with
      | idle => exact ⟨[], fun _ h => absurd h (by simp), rfl, huntouched⟩
      | openRegistry k r => exact exists_openRegistry hsigner huntouched henabled
      | register k a => exact exists_register hsigner hvalid huntouched hT henabled
      | toggle k a s => exact exists_toggle hvalid huntouched henabled
    obtain ⟨actions, hall, hview, hafter⟩ := hrun
    refine ⟨actions, hall, hview, ?_, hafter⟩
    rw [show view (Runs.run (step C) ℓ actions) = _ from hview]
    exact hvalid.apply henabled
  · refine ⟨?_, fun k hderived _ _ => hunused k hderived⟩
    rw [view_of_noData h₀]
    exact Table.Valid.empty

/-- On the sample's addresses, `INITIALIZER` is not derived. -/
theorem not_derived_initializer : ¬ Derived sampleCrypto INITIALIZER := by
  have hhash : ∀ bs, sampleCrypto.sha256 bs ≠ INITIALIZER := by
    intro bs
    unfold sampleCrypto
    dsimp only
    split_ifs
    · decide
    · decide
    · decide
  rintro (⟨_, h⟩ | ⟨_, _, _, h⟩)
  · obtain ⟨⟨bs, hbs⟩, -⟩ := sha256_of_find _ h
    exact hhash bs hbs
  · obtain ⟨⟨bs, hbs⟩, -⟩ := sha256_of_find _ h
    exact hhash bs hbs

/-- The table of the sample ledger is made of the empty one by possible changes, with a record
that was registered at the time of the sample. -/
theorem table_reachable_iff_sample :
    Relation.ReflTransGen (Table.Becomes sampleCrypto {1700000000}) Table.empty
      (view sampleLedger) :=
  (table_reachable_iff noData_genesis (fun k _ => plain_genesis k) not_derived_initializer
    {1700000000} (view sampleLedger)).mp
    ⟨[openRegistry, registerDrift 0], by simp [RegistersIn, openRegistry, registerDrift,
      quietWorld], rfl⟩

end Dispatcher
