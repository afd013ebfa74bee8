/-
# The value that an adapter reports

`adapter_current_value` reads one number off its first remaining account.  Each
adapter has its own idea of an account that can be read (`Readable`) and of where the
number is (`valueOf`); nothing else decides what it reports.

Where the account is missing, four of the five adapters panic, and Kamino's cast
panics on data of the wrong size as well.
-/
import YieldAdapter.DispatcherRun
import YieldAdapter.LayoutReaders
import YieldAdapter.ReferenceAdapters

open Solana Windows

/-! ## Running `adapter_current_value` -/

namespace AdapterProgram

variable {A : AdapterProgram} {accounts : List AccountInfo} {e : Env YieldError Event}
  {m : Machine Event}

/-- Accounts that do not pass the accounts struct are refused. -/
theorem adapter_current_value_of_refused {err : Error}
    (h : Context.try_accounts A.current_value_mut accounts = .error err) :
    A.adapter_current_value accounts e m = (.error err, m) := by
  unfold adapter_current_value
  rw [h]
  rfl

variable {ctx : Context}

/-- A value that cannot be read is an error. -/
theorem adapter_current_value_of_error {err : Error}
    (hctx : Context.try_accounts A.current_value_mut accounts = .ok ctx)
    (h : A.value ctx = .error err) : A.adapter_current_value accounts e m = (.error err, m) := by
  unfold adapter_current_value
  rw [hctx]
  show ((Exec.lift (A.value ctx) : Prog UInt64) >>= _) e m = _
  rw [h]
  rfl

/-- **A value that is read is returned**, and reported in an event. -/
theorem adapter_current_value_of_ok {v : UInt64}
    (hctx : Context.try_accounts A.current_value_mut accounts = .ok ctx)
    (h : A.value ctx = .ok v) :
    A.adapter_current_value accounts e m =
      (.ok (), ({ m with return_data := (e.program_id, Codec.u64.encode v) } : Machine Event).emit
        e.program_id (.AdapterCurrentValueEvent ctx.authority.key A.PROGRAM_ID v)) := by
  unfold adapter_current_value
  rw [hctx]
  show ((Exec.lift (A.value ctx) : Prog UInt64) >>= _) e m = _
  rw [h]
  rfl

variable (A) in
/-- The accounts pass, and `v` is the value that is read. -/
def Reports (accounts : List AccountInfo) (v : UInt64) : Prop :=
  ∃ ctx, Context.try_accounts A.current_value_mut accounts = .ok ctx ∧ A.value ctx = .ok v

/-- It succeeds when there is a value to report. -/
theorem adapter_current_value_succeeds_iff :
    (A.adapter_current_value accounts e m).1 = .ok () ↔ ∃ v, A.Reports accounts v := by
  unfold Reports
  rcases hctx : Context.try_accounts A.current_value_mut accounts with err | ctx
  · rw [adapter_current_value_of_refused hctx]
    simp
  · rcases hvalue : A.value ctx with err | v
    · rw [adapter_current_value_of_error hctx hvalue]
      simp [hvalue]
    · rw [adapter_current_value_of_ok hctx hvalue]
      exact ⟨fun _ => ⟨v, ctx, rfl, hvalue⟩, fun _ => rfl⟩

variable (A) in
/-- `adapter_current_value` returns `v`, whatever surrounds the call. -/
def Returns (accounts : List AccountInfo) (v : UInt64) : Prop :=
  ∀ e m, (A.adapter_current_value accounts e m).1 = .ok () ∧
    (A.adapter_current_value accounts e m).2.return_data = (e.program_id, Codec.u64.encode v)

/-- **What is reported is what is returned.** -/
theorem returns_iff {v : UInt64} : A.Returns accounts v ↔ A.Reports accounts v := by
  constructor
  · intro hreturns
    let e : Env YieldError Event := ⟨A.ID, 0, fun _ m => (.ok (), m)⟩
    obtain ⟨hok, hdata⟩ := hreturns e (Machine.start A.ID fun _ => Account.vacant)
    obtain ⟨v', ctx, hctx, hvalue⟩ := adapter_current_value_succeeds_iff.mp hok
    rw [adapter_current_value_of_ok hctx hvalue] at hdata
    have hsame : Codec.u64.encode v' ++ [] = Codec.u64.encode v ++ [] :=
      congrArg (· ++ []) (congrArg Prod.snd hdata)
    obtain ⟨rfl, -⟩ := Codec.u64.encode_append_inj trivial trivial hsame
    exact ⟨ctx, hctx, hvalue⟩
  · rintro ⟨ctx, hctx, hvalue⟩ e m
    rw [adapter_current_value_of_ok hctx hvalue]
    exact ⟨rfl, rfl⟩

end AdapterProgram

/-! ## What is read -/

namespace Reference

variable (X : ThirdParty)

/-- The accounts that an adapter can read. -/
def Readable : Reference → AccountInfo → Prop
  | .kamino, info => info.data.length = 8 + X.klend.reserve_size ∧ X.klend.aligned info = true
  | .marginfi, info => MarginfiAdapter.ASSET_SHARES.toNat + 16 ≤ info.data.length
  | .jupiter, info => JupiterAdapter.LOCKED_COLLATERAL.toNat + 8 ≤ info.data.length
  | .maple, info => info.owner = X.spl.ID ∧ ∃ account, X.spl.unpack info.data = .ok account
  | .drift, info => DriftAdapter.SPOT_0_SCALED_BALANCE.toNat + 8 ≤ info.data.length

/-- The value of an account that can be read. -/
def valueOf : Reference → AccountInfo → UInt64
  | .kamino, info => X.klend.available_liquidity (info.data.drop 8)
  | .marginfi, info =>
      UInt64.ofNat (u128Format.valueAt info.data MarginfiAdapter.ASSET_SHARES.toNat).toNat
  | .jupiter, info => u64Format.valueAt info.data JupiterAdapter.LOCKED_COLLATERAL.toNat
  | .maple, info =>
      match X.spl.unpack info.data with
      | .ok account => account.amount
      | .error _ => 0
  | .drift, info => u64Format.valueAt info.data DriftAdapter.SPOT_0_SCALED_BALANCE.toNat

variable {X} {A : Reference} {ctx : Context} {info : AccountInfo} {more : List AccountInfo}
  {v : UInt64}

/-- Where the first account is, each adapter starts from it. -/
theorem indexAt_zero_of_cons {ε α : Type} {xs rest : List α} {x : α} (h : xs = x :: rest) :
    (indexAt xs 0 : Except (ProgramError ε) α) = .ok x := by
  rw [h]
  rfl

section Cons

variable (h : ctx.remaining_accounts = info :: more)
include h

theorem kamino_value_eq : KaminoAdapter.current_value X.klend ctx =
    (sliceFrom info.data 8 >>= fun bytes => X.klend.from_bytes info bytes) := by
  rw [KaminoAdapter.current_value, indexAt_zero_of_cons h]
  rfl

theorem marginfi_value_eq : MarginfiAdapter.current_value ctx =
    (read_u128_le info.data MarginfiAdapter.ASSET_SHARES >>= fun asset_shares =>
      .ok (UInt64.ofNat asset_shares.toNat)) := by
  rw [MarginfiAdapter.current_value, indexAt_zero_of_cons h]
  rfl

theorem jupiter_value_eq : JupiterAdapter.current_value ctx =
    read_u64_le info.data JupiterAdapter.LOCKED_COLLATERAL := by
  rw [JupiterAdapter.current_value, indexAt_zero_of_cons h]
  rfl

theorem maple_value_eq : MapleAdapter.current_value X.spl ctx =
    (X.spl.try_from info >>= fun account => .ok account.amount) := by
  rw [MapleAdapter.current_value, h]
  rfl

theorem drift_value_eq : DriftAdapter.current_value ctx =
    read_u64_le info.data DriftAdapter.SPOT_0_SCALED_BALANCE := by
  rw [DriftAdapter.current_value, indexAt_zero_of_cons h]
  rfl

end Cons

/-- Without an account, all adapters but Maple's panic. -/
theorem value_of_nil (h : ctx.remaining_accounts = []) :
    (A.program X).value ctx =
      .error (if A = .maple then adapterError .InvalidAccount else .panic) := by
  have hindex : (indexAt ctx.remaining_accounts 0 : Except Error AccountInfo) = .error .panic := by
    rw [h]
    rfl
  -- only Maple's handler counts the accounts before it indexes them
  cases A with
  | kamino =>
      show KaminoAdapter.current_value X.klend ctx = _
      rw [KaminoAdapter.current_value, hindex]
      rfl
  | marginfi =>
      show MarginfiAdapter.current_value ctx = _
      rw [MarginfiAdapter.current_value, hindex]
      rfl
  | jupiter =>
      show JupiterAdapter.current_value ctx = _
      rw [JupiterAdapter.current_value, hindex]
      rfl
  | maple =>
      show MapleAdapter.current_value X.spl ctx = _
      rw [MapleAdapter.current_value, h]
      rfl
  | drift =>
      show DriftAdapter.current_value ctx = _
      rw [DriftAdapter.current_value, hindex]
      rfl

/-! ### Kamino: an unchecked cast -/

/-- The cast succeeds on data of the right size that is aligned, and panics on any
other. -/
theorem kamino_value_of_cons (h : ctx.remaining_accounts = info :: more) :
    (Readable X .kamino info → KaminoAdapter.current_value X.klend ctx =
      .ok (valueOf X .kamino info)) ∧
    (¬ Readable X .kamino info → KaminoAdapter.current_value X.klend ctx = .error .panic) := by
  rw [kamino_value_eq h]
  unfold sliceFrom Klend.from_bytes
  constructor
  · rintro ⟨hsize, haligned⟩
    have hcast : (info.data.drop 8).length = X.klend.reserve_size ∧
        X.klend.aligned info = true := by
      rw [List.length_drop]
      exact ⟨by omega, haligned⟩
    rw [if_pos (by omega)]
    exact if_pos hcast
  · intro hunreadable
    by_cases hlength : 8 ≤ info.data.length
    · have hcast : ¬ ((info.data.drop 8).length = X.klend.reserve_size ∧
          X.klend.aligned info = true) := by
        rintro ⟨hsize, haligned⟩
        rw [List.length_drop] at hsize
        exact hunreadable ⟨by omega, haligned⟩
      rw [if_pos hlength]
      exact if_neg hcast
    · rw [if_neg hlength]
      rfl

/-! ### MarginFi, Jupiter and Drift: checked reads -/

theorem marginfi_value_of_cons (h : ctx.remaining_accounts = info :: more) :
    MarginfiAdapter.current_value ctx = .ok v ↔
      Readable X .marginfi info ∧ v = valueOf X .marginfi info := by
  have hoffset : MarginfiAdapter.ASSET_SHARES.toNat + 16 < 2 ^ 64 := by decide
  rw [marginfi_value_eq h, except_bind_eq_ok]
  constructor
  · rintro ⟨asset_shares, hread, hv⟩
    obtain ⟨hle, hshares⟩ := (reads_u128_le.eq_ok_iff_valueAt hoffset).mp hread
    refine ⟨hle, ?_⟩
    show v = UInt64.ofNat (u128Format.valueAt info.data MarginfiAdapter.ASSET_SHARES.toNat).toNat
    rw [← hshares]
    exact (Except.ok.inj hv).symm
  · rintro ⟨hle, rfl⟩
    exact ⟨_, (reads_u128_le.eq_ok_iff_valueAt hoffset).mpr ⟨hle, rfl⟩, rfl⟩

theorem jupiter_value_of_cons (h : ctx.remaining_accounts = info :: more) :
    JupiterAdapter.current_value ctx = .ok v ↔
      Readable X .jupiter info ∧ v = valueOf X .jupiter info := by
  rw [jupiter_value_eq h]
  exact reads_u64_le.eq_ok_iff_valueAt (by decide)

theorem drift_value_of_cons (h : ctx.remaining_accounts = info :: more) :
    DriftAdapter.current_value ctx = .ok v ↔
      Readable X .drift info ∧ v = valueOf X .drift info := by
  rw [drift_value_eq h]
  exact reads_u64_le.eq_ok_iff_valueAt (by decide)

/-! ### Maple: a token account -/

theorem maple_value_of_cons (h : ctx.remaining_accounts = info :: more) :
    MapleAdapter.current_value X.spl ctx = .ok v ↔
      Readable X .maple info ∧ v = valueOf X .maple info := by
  rw [maple_value_eq h, except_bind_eq_ok]
  simp only [SplToken.try_from_eq_ok, Readable, valueOf]
  constructor
  · rintro ⟨account, ⟨howner, hunpack⟩, hv⟩
    rw [hunpack]
    exact ⟨⟨howner, account, rfl⟩, (Except.ok.inj hv).symm⟩
  · rintro ⟨⟨howner, account, hunpack⟩, hv⟩
    rw [hunpack] at hv
    exact ⟨account, ⟨howner, hunpack⟩, congrArg _ hv.symm⟩

/-! ### All of them -/

theorem value_of_cons (h : ctx.remaining_accounts = info :: more) :
    (A.program X).value ctx = .ok v ↔ Readable X A info ∧ v = valueOf X A info := by
  cases A with
  | kamino =>
      obtain ⟨hok, hpanic⟩ := kamino_value_of_cons (X := X) h
      show KaminoAdapter.current_value X.klend ctx = .ok v ↔ _
      by_cases hreadable : Readable X .kamino info
      · rw [hok hreadable]
        exact ⟨fun hv => ⟨hreadable, (Except.ok.inj hv).symm⟩, fun hv => congrArg _ hv.2.symm⟩
      · rw [hpanic hreadable]
        exact ⟨fun hv => absurd hv (by simp), fun hv => absurd hv.1 hreadable⟩
  | marginfi => exact marginfi_value_of_cons h
  | jupiter => exact jupiter_value_of_cons h
  | maple => exact maple_value_of_cons h
  | drift => exact drift_value_of_cons h

/-- **What an adapter reports** is the value of its first account, and it reports
something exactly when it can read that account. -/
theorem value_eq_ok :
    (A.program X).value ctx = .ok v ↔
      ∃ info more, ctx.remaining_accounts = info :: more ∧ Readable X A info ∧
        v = valueOf X A info := by
  rcases hremaining : ctx.remaining_accounts with _ | ⟨info, more⟩
  · rw [value_of_nil hremaining]
    simp
  · rw [value_of_cons hremaining]
    constructor
    · exact fun h => ⟨info, more, rfl, h⟩
    · rintro ⟨_, _, heq, h⟩
      obtain ⟨rfl, rfl⟩ := List.cons.inj heq
      exact h

/-- The accounts start with a caller that the adapter takes and with an account that it
can read as `v`. -/
theorem reports_iff {accounts : List AccountInfo} :
    (A.program X).Reports accounts v ↔
      ∃ authority info more, accounts = authority :: info :: more ∧ authority.is_signer = true ∧
        ((A.program X).current_value_mut = true → authority.is_writable = true) ∧
        Readable X A info ∧ v = valueOf X A info := by
  unfold AdapterProgram.Reports
  constructor
  · rintro ⟨ctx, hctx, hvalue⟩
    obtain ⟨haccounts, hsigner, hmut⟩ := Context.try_accounts_eq_ok.mp hctx
    obtain ⟨info, more, hremaining, hreadable, hv⟩ := value_eq_ok.mp hvalue
    rw [hremaining] at haccounts
    exact ⟨ctx.authority, info, more, haccounts, hsigner, hmut, hreadable, hv⟩
  · rintro ⟨authority, info, more, rfl, hsigner, hmut, hreadable, hv⟩
    have hctx : Context.try_accounts (A.program X).current_value_mut
        (authority :: info :: more) = .ok ⟨authority, info :: more⟩ :=
      Context.try_accounts_eq_ok.mpr ⟨rfl, hsigner, hmut⟩
    exact ⟨_, hctx, value_eq_ok.mpr ⟨info, more, rfl, hreadable, hv⟩⟩

/-! ## Panics -/

variable (X) in
/-- The accounts on which an adapter does not panic: Maple checks that there is one,
and Kamino casts the one it finds as it is. -/
def Guarded : Reference → List AccountInfo → Prop
  | .maple, _ => True
  | .kamino, info :: _ => Readable X .kamino info
  | .marginfi, _ :: _ | .jupiter, _ :: _ | .drift, _ :: _ => True
  | .kamino, [] | .marginfi, [] | .jupiter, [] | .drift, [] => False

/-- Where there is an account, the checked readers and Maple's do not panic. -/
theorem value_ne_panic_of_cons (h : ctx.remaining_accounts = info :: more) (hA : A ≠ .kamino) :
    (A.program X).value ctx ≠ .error .panic := by
  intro hpanic
  cases A with
  | kamino => exact hA rfl
  | marginfi =>
      rw [show (marginfi.program X).value ctx = _ from marginfi_value_eq h] at hpanic
      rcases except_bind_eq_error.mp hpanic with hread | ⟨_, -, hpure⟩
      · exact reads_u128_le.ne_panic _ _ hread
      · exact absurd hpure (by simp)
  | jupiter => exact reads_u64_le.ne_panic _ _ ((jupiter_value_eq h).symm.trans hpanic)
  | maple =>
      rw [show (maple.program X).value ctx = _ from maple_value_eq h] at hpanic
      rcases except_bind_eq_error.mp hpanic with htry | ⟨_, -, hpure⟩
      · exact X.spl.try_from_ne_panic info htry
      · exact absurd hpure (by simp)
  | drift => exact reads_u64_le.ne_panic _ _ ((drift_value_eq h).symm.trans hpanic)

/-- **Reading a value does not panic** exactly when the accounts are guarded. -/
theorem value_ne_panic_iff :
    (A.program X).value ctx ≠ .error .panic ↔ Guarded X A ctx.remaining_accounts := by
  rcases hremaining : ctx.remaining_accounts with _ | ⟨info, more⟩
  · rw [value_of_nil hremaining]
    cases A <;> simp [Guarded]
  · by_cases hA : A = .kamino
    · subst hA
      obtain ⟨hok, hpanic⟩ := kamino_value_of_cons (X := X) hremaining
      show KaminoAdapter.current_value X.klend ctx ≠ _ ↔ Readable X .kamino info
      by_cases hreadable : Readable X .kamino info
      · rw [hok hreadable]
        exact ⟨fun _ => hreadable, fun _ => by simp⟩
      · rw [hpanic hreadable]
        exact ⟨fun h => absurd rfl h, fun h => absurd h hreadable⟩
    · have hguarded : Guarded X A (info :: more) := by
        cases A with
        | kamino => exact absurd rfl hA
        | marginfi => trivial
        | jupiter => trivial
        | maple => trivial
        | drift => trivial
      exact ⟨fun _ => hguarded, fun _ => value_ne_panic_of_cons hremaining hA⟩

variable {accounts : List AccountInfo} {e : Env YieldError Event} {m : Machine Event}

/-- A run of `adapter_current_value` ends with an error other than a panic, or sets a
return value of 8 bytes. -/
def EndsProperly (A : AdapterProgram) (accounts : List AccountInfo) (e : Env YieldError Event)
    (m : Machine Event) : Prop :=
  (∃ err, err ≠ .panic ∧ (A.adapter_current_value accounts e m).1 = .error err) ∨
    (A.adapter_current_value accounts e m).1 = .ok () ∧
      ∃ bs, bs.length = 8 ∧
        (A.adapter_current_value accounts e m).2.return_data = (e.program_id, bs)

/-- **When `current_value` does not panic.** -/
theorem current_value_ends_properly_iff :
    EndsProperly (A.program X) accounts e m ↔
      ∀ ctx, Context.try_accounts (A.program X).current_value_mut accounts = .ok ctx →
        Guarded X A ctx.remaining_accounts := by
  unfold EndsProperly
  rcases hctx : Context.try_accounts (A.program X).current_value_mut accounts with err | ctx
  · rw [AdapterProgram.adapter_current_value_of_refused hctx]
    have hne : err ≠ .panic := by
      rintro rfl
      exact Context.try_accounts_ne_panic hctx
    exact ⟨fun _ _ h => absurd h (by simp), fun _ => .inl ⟨err, hne, rfl⟩⟩
  · have hguarded : (∀ ctx', Except.ok ctx = (Except.ok ctx' : Except Error Context) →
        Guarded X A ctx'.remaining_accounts) ↔ (A.program X).value ctx ≠ .error .panic := by
      rw [value_ne_panic_iff]
      constructor
      · exact fun h => h ctx rfl
      · rintro h ctx' heq
        obtain rfl := Except.ok.inj heq
        exact h
    rw [hguarded]
    rcases hvalue : (A.program X).value ctx with err | v
    · rw [AdapterProgram.adapter_current_value_of_error hctx hvalue]
      constructor
      · rintro (⟨_, hne, heq⟩ | ⟨heq, -⟩)
        · obtain rfl := Except.error.inj heq
          exact fun h => hne (Except.error.inj h)
        · exact absurd heq (by simp)
      · exact fun hne => .inl ⟨err, fun h => hne (congrArg _ h), rfl⟩
    · rw [AdapterProgram.adapter_current_value_of_ok hctx hvalue]
      exact ⟨fun _ => by simp, fun _ =>
        .inr ⟨rfl, Codec.u64.encode v, Codec.length_encode_u64 v, rfl⟩⟩

/-- Asked with its authority alone, the Drift adapter panics. -/
theorem current_value_panics :
    let env : Env YieldError Event := ⟨DriftAdapter.ID, 1700000000, fun _ m => (.ok (), m)⟩
    ¬ EndsProperly DriftAdapter.program [⟨Dispatcher.INITIALIZER, true, true, 0, System.ID, []⟩] env
      (Machine.start DriftAdapter.ID Dispatcher.genesis) := by
  intro env hends
  have hrun : DriftAdapter.program.adapter_current_value
      [⟨Dispatcher.INITIALIZER, true, true, 0, System.ID, []⟩] env
      (Machine.start DriftAdapter.ID Dispatcher.genesis) = (.error .panic, _) := rfl
  unfold EndsProperly at hends
  rw [hrun] at hends
  rcases hends with ⟨err, hne, h⟩ | ⟨h, -⟩
  · exact hne (Except.error.inj h).symm
  · exact absurd h (by simp)

end Reference
