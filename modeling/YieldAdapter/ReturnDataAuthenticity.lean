/-
# Who the value comes from

`current_value` passes on what it finds in the return-data slot once the adapter
has returned.  It asks for the presence and the length of the data but not for its
author, so a value that a program below the adapter has left there is passed on as
the adapter's.

The main result says for which behaviours of the adapter this makes a difference.
-/
import YieldAdapter.CallTree
import YieldAdapter.RoutingGate

open Solana CallTree

namespace Dispatcher

variable {C : Crypto} {w : World} {accounts : List AccountMeta} {ℓ : Ledger}

theorem Call.route_current_value : Call.route .current_value = some CurrentValue.route := rfl

/-! ## What is read and passed on -/

/-- Eight bytes are the encoding of the number they denote. -/
theorem encode_value_take {data : List UInt8} (h : 8 ≤ data.length) :
    Codec.u64.encode (UInt64.ofNat (LittleEndian.value (data.take 8))) = data.take 8 := by
  have hdecode : Codec.u64.decode data =
      some (UInt64.ofNat (LittleEndian.value (data.take 8)), data.drop 8) := if_pos h
  obtain ⟨-, hdata⟩ := (Codec.u64.decode_eq_some_iff _ _ _).mp hdecode
  conv_rhs => rw [hdata]
  exact (List.take_left' (Codec.length_encode_u64 _)).symm

/-- What `current_value` does once the adapter has returned, by the slot it finds. -/
theorem CurrentValue.after_apply (ctx : Routed) (e : Env YieldError Event) (m : Machine Event) :
    (m.return_data.2 = [] →
      CurrentValue.route.after ctx e m = (.error (interfaceError .MissingReturnData), m)) ∧
    (m.return_data.2 ≠ [] → m.return_data.2.length < 8 →
      CurrentValue.route.after ctx e m = (.error (interfaceError .InvalidReturnData), m)) ∧
    (8 ≤ m.return_data.2.length → CurrentValue.route.after ctx e m =
      (.ok (), { m with return_data := (e.program_id, m.return_data.2.take 8) })) := by
  -- the read and the write-back together depend on the slot's data alone
  have happly : CurrentValue.route.after ctx e m =
      (match parse_return_u64 (if m.return_data.2 = [] then none else some m.return_data) with
        | .ok v => (.ok (), { m with return_data := (e.program_id, Codec.u64.encode v) })
        | .error err => (.error err, m)) := by
    show (read_return_u64 >>= set_return_u64) e m = _
    rw [Exec.bind_apply, read_return_u64_apply]
    rcases parse_return_u64 (if m.return_data.2 = [] then none else some m.return_data) with
      error | value <;> rfl
  rw [happly]
  refine ⟨?_, ?_, ?_⟩
  · intro hempty
    rw [if_pos hempty]
    rfl
  · intro hne hshort
    rw [if_neg hne, ← Prod.mk.eta (p := m.return_data), parse_return_u64_some,
      if_neg (by omega)]
  · intro hlong
    have hne : m.return_data.2 ≠ [] := by
      intro hempty
      rw [hempty] at hlong
      exact absurd hlong (by simp)
    rw [if_neg hne, ← Prod.mk.eta (p := m.return_data), parse_return_u64_some, if_pos hlong]
    show (Except.ok (), { m with return_data := (e.program_id, Codec.u64.encode _) }) = _
    rw [encode_value_take hlong]

/-! ## Behaviours of the adapter -/

/-- Where the dispatcher calls it with `ix`, the adapter returns, having done `s` to the
return data.  With other accounts, or in another ledger, it may do anything. -/
def Behaves (C : Crypto) (w : World) (accounts : List AccountMeta) (ℓ : Ledger)
    (ix : Instruction) (s : Script Pubkey UInt8) : Prop :=
  ∃ m', (env C w accounts).call ix ((Machine.start ID ℓ).called ID ix) = (.ok (), m') ∧
    m'.return_data = s.enter ix.program_id

/-- How calls are carried out. -/
abbrev Calls := Instruction → Machine Event → Except Error Unit × Machine Event

/-- Where calls are carried out by `call`, a program that runs as `self` does `s` to
the return data.  A callee is entered, and does what its own script says. -/
inductive Performs (t : Int64) :
    Calls → Pubkey → Prog Unit → Script Pubkey UInt8 → Prop where
  | done {call : Calls} {self : Pubkey} : Performs t call self (pure ()) .done
  | set {call : Calls} {self : Pubkey} {data : List UInt8} {x : Prog Unit}
      {rest : Script Pubkey UInt8} (hx : Performs t call self x rest) :
      Performs t call self (do Exec.set_return_data data; x) (.set data rest)
  | call {call below : Calls} {self : Pubkey} {ix : Instruction}
      {program : Program YieldError Event} {x : Prog Unit} {body rest : Script Pubkey UInt8}
      (henter : ∀ m, call ix m = enter program t below ix m)
      (hbody : ∀ accounts, Performs t (findCallee (ix.accounts.map AccountMeta.pubkey) below)
        ix.program_id (program accounts ix.data) body)
      (hx : Performs t call self x rest) :
      Performs t call self (do Exec.invoke ix; x) (.call ix.program_id body rest)

/-- Setting data is the last thing a program does. -/
theorem Performs.last {t : Int64} {call : Calls} {self : Pubkey} {data : List UInt8} :
    Performs t call self (Exec.set_return_data data) (.set data .done) := by
  have h : Performs t call self (do Exec.set_return_data data; pure ()) (.set data .done) :=
    .set .done
  rwa [bind_pure_unit] at h

/-- **Running a program runs its script** on the return data. -/
theorem run_of_performs {t : Int64} {call : Calls} {self : Pubkey} {x : Prog Unit}
    {s : Script Pubkey UInt8} (h : Performs t call self x s) (m : Machine Event) :
    ∃ m', x ⟨self, t, call⟩ m = (.ok (), m') ∧ m'.return_data = s.run self m.return_data := by
  induction h generalizing m with
  | done => exact ⟨m, rfl, rfl⟩
  | @set call self data x rest _ ih =>
      obtain ⟨m', hrun, hslot⟩ := ih { m with return_data := (self, data) }
      exact ⟨m', hrun, hslot⟩
  | @call call below self ix program x body rest henter _ _ ihbody ih =>
      -- the callee finds the slot empty and under its own name
      obtain ⟨m₁, hbody, hslot₁⟩ := ihbody (cpiAccounts m.ledger ix.accounts)
        { m.called self ix with return_data := (ix.program_id, []) }
      obtain ⟨m', hrun, hslot⟩ := ih m₁
      refine ⟨m', ?_, ?_⟩
      · have hinvoke : (Exec.invoke ix : Prog Unit) ⟨self, t, call⟩ m = (.ok (), m₁) :=
          (henter _).trans hbody
        rw [Exec.bind_apply, hinvoke]
        exact hrun
      · rw [hslot, hslot₁]
        rfl

/-- A program whose script avoids `p` does not involve `p`. -/
theorem foreign_of_performs {t : Int64} {call : Calls} {self p : Pubkey} {x : Prog Unit}
    {s : Script Pubkey UInt8} (h : Performs t call self x s) (hself : self ≠ p)
    (hs : s.Avoids p) : Exec.Within ⟨self, t, call⟩ (Foreign p) x := by
  induction h with
  | done => exact fun m => Foreign.refl m
  | set _ ih =>
      exact Exec.Within.bind (R := Foreign p) (fun _ _ _ h h' => h.trans h')
        (Foreign.set_return_data _) fun _ => ih hself hs
  | @call call below self ix program x body rest henter _ _ ihbody ih =>
      obtain ⟨hcallee, hbody, hrest⟩ := hs
      refine Exec.Within.bind (R := Foreign p) (fun _ _ _ h h' => h.trans h')
        (Foreign.invoke hself ix fun m => ?_) fun _ => ih hself hrest
      show Foreign p m (call ix m).2
      rw [henter]
      have hreset : Foreign p m { m with return_data := (ix.program_id, []) } :=
        ⟨.refl _ _, ⟨[], by simp⟩, ⟨[], by simp⟩⟩
      exact hreset.trans (ihbody _ hcallee hbody _)

/-- An adapter that is deployed behaves as its script says. -/
theorem behaves_of_performs {ix : Instruction} {adapter : Program YieldError Event}
    {below : Calls} {s : Script Pubkey UInt8}
    (hlisted : ix.program_id ∈ accounts.map AccountMeta.pubkey) (hother : ix.program_id ≠ ID)
    (henter : ∀ m, w.programs.call ix m = enter adapter w.unix_timestamp below ix m)
    (hperforms : Performs w.unix_timestamp
      (findCallee (ix.accounts.map AccountMeta.pubkey) below) ix.program_id
      (adapter (cpiAccounts ℓ ix.accounts) ix.data) s) : Behaves C w accounts ℓ ix s := by
  obtain ⟨m', hrun, hslot⟩ := run_of_performs hperforms
    { (Machine.start ID ℓ).called ID ix with return_data := (ix.program_id, []) }
  refine ⟨m', ?_, hslot⟩
  rw [env_call_other hlisted hother, henter]
  exact hrun

/-- The outcome of `current_value`, by the slot that the adapter leaves. -/
theorem execute_current_value {ix : Instruction} {ctx : Routed} {s : Script Pubkey UInt8}
    (hplan : CurrentValue.route.planAt C accounts ℓ = .ok (ix, ctx))
    (hbehaves : Behaves C w accounts ℓ ix s) :
    let out := execute C w accounts .current_value ℓ
    let data := (s.enter ix.program_id).2
    (data = [] → out.result = .error (interfaceError .MissingReturnData)) ∧
    (data ≠ [] → data.length < 8 → out.result = .error (interfaceError .InvalidReturnData)) ∧
    (8 ≤ data.length → out.result = .ok () ∧ out.return_data = (ID, data.take 8)) := by
  intro out data
  obtain ⟨m', hcall, hslot⟩ := hbehaves
  have hrun : relay (CurrentValue.route.planAt C accounts ℓ) CurrentValue.route.after
      (env C w accounts) (Machine.start ID ℓ) =
        CurrentValue.route.after ctx (env C w accounts) m' := by
    have hreturns : (env C w accounts).call ix
        ((Machine.start ID ℓ).called (env C w accounts).program_id ix) = (.ok (), m') := hcall
    rw [relay_of_ok hplan, hreturns]
  have hout : out = transact (relay (CurrentValue.route.planAt C accounts ℓ)
      CurrentValue.route.after) (env C w accounts) ℓ :=
    execute_of_route Call.route_current_value
  have hdata : m'.return_data.2 = data := congrArg Prod.snd hslot
  obtain ⟨hmissing, hinvalid, hok⟩ := CurrentValue.after_apply ctx (env C w accounts) m'
  rw [hdata] at hmissing hinvalid hok
  refine ⟨?_, ?_, ?_⟩
  · intro hempty
    rw [hout, transact_of_error (hrun.trans (hmissing hempty))]
  · intro hne hshort
    rw [hout, transact_of_error (hrun.trans (hinvalid hne hshort))]
  · intro hlong
    rw [hout, transact_of_ok (hrun.trans (hok hlong))]
    exact ⟨rfl, rfl⟩

/-- **What the value of `current_value` is expected to say**, when the adapter has
the script `s`:

* success means that the adapter itself set the return data last, and the value is
  the number its first 8 bytes denote;
* an adapter that set no data, or only empty data, makes the call fail with
  `MissingReturnData`, whatever the programs it called have set;
* an adapter that returns fewer than 8 bytes makes it fail with `InvalidReturnData`;
* an adapter that ends with `set_return_u64(v)` makes the dispatcher return `v`. -/
def Authentic (adapter : Pubkey) (s : Script Pubkey UInt8) (out : Outcome YieldError Event) :
    Prop :=
  (out.result = .ok () → (s.enter adapter).1 = adapter ∧
    ∃ v, out.return_data = (ID, Codec.u64.encode v) ∧
      Codec.u64.encode v = (s.enter adapter).2.take 8) ∧
  ((∀ write ∈ s.writes adapter, write.1 = adapter → write.2 = []) →
    out.result = .error (interfaceError .MissingReturnData)) ∧
  ((s.enter adapter).1 = adapter → (s.enter adapter).2 ≠ [] → (s.enter adapter).2.length < 8 →
    out.result = .error (interfaceError .InvalidReturnData)) ∧
  (∀ v, s.EndsWith (Codec.u64.encode v) →
    out.result = .ok () ∧ out.return_data = (ID, Codec.u64.encode v))

/-- **When `current_value` is authentic**: exactly when what is left in the slot is
empty, or the adapter's own, or too short to be a value while the adapter did set
some data itself. -/
theorem current_value_authentic_iff {ix : Instruction} {ctx : Routed} {s : Script Pubkey UInt8}
    (hplan : CurrentValue.route.planAt C accounts ℓ = .ok (ix, ctx))
    (hbehaves : Behaves C w accounts ℓ ix s) :
    Authentic ix.program_id s (execute C w accounts .current_value ℓ) ↔
      (s.enter ix.program_id).2 = [] ∨ (s.enter ix.program_id).1 = ix.program_id ∨
        ((s.enter ix.program_id).2.length < 8 ∧
          ∃ write ∈ s.writes ix.program_id, write.1 = ix.program_id ∧ write.2 ≠ []) := by
  obtain ⟨hmissing, hinvalid, hok⟩ := execute_current_value hplan hbehaves
  constructor
  · rintro ⟨hsound, hnone, -, -⟩
    by_contra hcond
    rw [not_or, not_or] at hcond
    obtain ⟨hne, hauthor, hshort⟩ := hcond
    rcases Nat.lt_or_ge (s.enter ix.program_id).2.length 8 with hlt | hge
    · -- too short, and the adapter has set nothing: the wrong error
      have hmiss := hnone fun write hwrite hauthor' => by
        by_contra hdata
        exact hshort ⟨hlt, write, hwrite, hauthor', hdata⟩
      rw [hinvalid hne hlt] at hmiss
      exact absurd hmiss (by simp)
    · -- long enough to be passed on, and not the adapter's
      exact hauthor (hsound (hok hge).1).1
  · intro hcond
    refine ⟨?_, ?_, ?_, ?_⟩
    · intro hsuccess
      rcases Nat.lt_or_ge (s.enter ix.program_id).2.length 8 with hlt | hge
      · -- a slot that is too short is an error, whoever wrote it
        by_cases hne : (s.enter ix.program_id).2 = []
        · rw [hmissing hne] at hsuccess
          exact absurd hsuccess (by simp)
        · rw [hinvalid hne hlt] at hsuccess
          exact absurd hsuccess (by simp)
      · refine ⟨?_, _, ?_, encode_value_take hge⟩
        · rcases hcond with hempty | hauthor | ⟨hlt, -⟩
          · rw [hempty] at hge
            exact absurd hge (by simp)
          · exact hauthor
          · omega
        · rw [(hok hge).2, encode_value_take hge]
    · intro hnone
      by_cases hne : (s.enter ix.program_id).2 = []
      · exact hmissing hne
      · rcases hcond with hempty | hauthor | ⟨-, write, hwrite, hauthor, hdata⟩
        · exact absurd hempty hne
        -- what is left in the slot is one of the writes
        · exact absurd (hnone _ (s.enter_mem_writes ix.program_id hne) hauthor) hne
        · exact absurd (hnone write hwrite hauthor) hdata
    · intro _ hne hshort
      exact hinvalid hne hshort
    · intro v hends
      have hslot : s.enter ix.program_id = (ix.program_id, Codec.u64.encode v) :=
        Script.run_of_endsWith hends _ _
      have hdata : (s.enter ix.program_id).2 = Codec.u64.encode v := congrArg Prod.snd hslot
      have hlength : (s.enter ix.program_id).2.length = 8 := by
        rw [hdata, Codec.length_encode_u64]
      refine ⟨(hok hlength.ge).1, ?_⟩
      rw [(hok hlength.ge).2, List.take_of_length_le hlength.le, hdata]

/-! ## An adapter that asks an oracle -/

/-- A program that is neither the dispatcher nor the adapter. -/
def oracle : Pubkey := ⟨List.replicate 32 7, rfl⟩

/-- The call to it. -/
def askOracle : Instruction := ⟨oracle, [], []⟩

/-- Calls below the adapter: the oracle returns 7, and any other program nothing. -/
def oracleCalls : Calls := fun ix m =>
  if ix.program_id = oracle then
    enter (fun _ _ => set_return_u64 7) 1700000000 (fun _ m => (.ok (), m)) ix m
  else (.ok (), m)

/-- An adapter that asks the oracle, and then returns a value of its own, if any. -/
def askingAdapter (own : Option UInt64) : Program YieldError Event := fun _ _ => do
  Exec.invoke askOracle
  match own with
  | some value => set_return_u64 value
  | none => pure ()

/-- What it does to the return data. -/
def askingScript (own : Option UInt64) : Script Pubkey UInt8 :=
  .call oracle (.set (Codec.u64.encode 7) .done) <|
    match own with
    | some value => .set (Codec.u64.encode value) .done
    | none => .done

theorem performs_askingAdapter (own : Option UInt64) {listed : List Pubkey}
    (hlisted : oracle ∈ listed) (accounts : List AccountInfo) (data : List UInt8)
    (self : Pubkey) :
    Performs 1700000000 (findCallee listed oracleCalls) self (askingAdapter own accounts data)
      (askingScript own) := by
  apply Performs.call
  · exact fun m => (findCallee_of_mem hlisted).trans (if_pos rfl)
  · exact fun _ => .last
  · cases own with
    | none => exact .done
    | some value => exact .last

theorem avoids_askingScript (own : Option UInt64) : (askingScript own).Avoids ID := by
  cases own <;> exact ⟨by decide, trivial, trivial⟩

/-- The world of that adapter, at the address of the Drift adapter. -/
def oracleWorld (own : Option UInt64) : World where
  unix_timestamp := 1700000000
  programs :=
    { call := fun ix m =>
        if ix.program_id = DriftAdapter.ID then
          enter (askingAdapter own) 1700000000 oracleCalls ix m
        else (.ok (), m)
      foreign := by
        intro ix m hother
        split
        · have hreset : Foreign ID m { m with return_data := (ix.program_id, []) } :=
            ⟨.refl _ _, ⟨[], by simp⟩, ⟨[], by simp⟩⟩
          refine hreset.trans ?_
          by_cases hlisted : oracle ∈ ix.accounts.map AccountMeta.pubkey
          · exact foreign_of_performs (performs_askingAdapter own hlisted _ _ _) hother
              (avoids_askingScript own) _
          -- an oracle that is not listed is not reached
          · refine Exec.Within.bind (R := Foreign ID) (fun _ _ _ h h' => h.trans h')
              (Foreign.invoke hother askOracle fun m => ?_) ?_ _
            · have hrefused : findCallee (ix.accounts.map AccountMeta.pubkey) oracleCalls
                  askOracle m = (.error .missingAccount, m) := findCallee_of_not_mem hlisted
              show Foreign ID m (findCallee _ oracleCalls askOracle m).2
              rw [hrefused]
              exact Foreign.refl m
            · rintro ⟨⟩
              cases own with
              | none => exact Foreign.refl
              | some value => exact Foreign.set_return_data _
        · exact Foreign.refl m }

theorem call_oracleWorld {own : Option UInt64} {ix : Instruction} {m : Machine Event}
    (h : ix.program_id = DriftAdapter.ID) :
    (oracleWorld own).programs.call ix m =
      enter (askingAdapter own) 1700000000 oracleCalls ix m := if_pos h

/-- The accounts of these two programs, as remaining accounts. -/
def oraclePrograms : List AccountMeta :=
  [⟨DriftAdapter.ID, false, false⟩, ⟨oracle, false, false⟩]

/-- The plan of `current_value` where they are passed. -/
theorem planAt_oraclePrograms :
    ∃ ctx, CurrentValue.route.planAt sampleCrypto (driftAccounts oraclePrograms) sampleLedger =
      .ok (⟨DriftAdapter.ID, AccountMeta.new_readonly INITIALIZER true :: oraclePrograms,
        CurrentValue.route.data⟩, ctx) :=
  ⟨_, planAt_sampleLedger oraclePrograms (by decide)⟩

theorem behaves_oracleWorld (own : Option UInt64) {data : List UInt8} :
    Behaves sampleCrypto (oracleWorld own) (driftAccounts oraclePrograms) sampleLedger
      ⟨DriftAdapter.ID, AccountMeta.new_readonly INITIALIZER true :: oraclePrograms, data⟩
      (askingScript own) := by
  refine behaves_of_performs ?_ ?_ ?_ (performs_askingAdapter own ?_ _ _ _)
  · show DriftAdapter.ID ∈ (driftAccounts oraclePrograms).map AccountMeta.pubkey
    decide
  · show DriftAdapter.ID ≠ ID
    decide
  · exact fun m => call_oracleWorld rfl
  · show oracle ∈ (AccountMeta.new_readonly INITIALIZER true :: oraclePrograms).map
      AccountMeta.pubkey
    decide

/-- The oracle's 7 is passed on as the value of an adapter that returns none. -/
theorem current_value_not_authentic :
    ¬ Authentic DriftAdapter.ID (askingScript none) (execute sampleCrypto (oracleWorld none)
      (driftAccounts oraclePrograms) .current_value sampleLedger) := by
  obtain ⟨ctx, hplan⟩ := planAt_oraclePrograms
  obtain ⟨-, -, hok⟩ := execute_current_value hplan (behaves_oracleWorld none)
  rintro ⟨hsound, -, -, -⟩
  obtain ⟨hauthor, -⟩ := hsound (hok (by decide)).1
  exact absurd hauthor (by decide)

/-- The value of an adapter that returns one of its own, after asking the oracle, is
the one that is passed on. -/
theorem current_value_authentic_own :
    Authentic DriftAdapter.ID (askingScript (some 123456789)) (execute sampleCrypto
      (oracleWorld (some 123456789)) (driftAccounts oraclePrograms) .current_value
      sampleLedger) := by
  obtain ⟨ctx, hplan⟩ := planAt_oraclePrograms
  exact (current_value_authentic_iff hplan (behaves_oracleWorld _)).mpr (.inr (.inl rfl))

end Dispatcher
