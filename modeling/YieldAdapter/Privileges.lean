/-
# Privileges

The accounts of an instruction carry privileges: to count as a signer, and to be written.
A program may pass on what it was given and no more, and the runtime refuses a call that
asks for more.  Whether a call does is a relation between account lists, and a program
whose calls never do runs as if nobody looked.

* `Permitted given asked` : `asked` asks for no more than `given` gives;
* `guardedCall` : calls that are checked before they are carried out.
-/
import YieldAdapter.Relay

namespace Solana

/-! ## What may be passed on -/

/-- Some occurrence of the key has the privilege. -/
def Grants (given : List AccountMeta) (privilege : AccountMeta → Bool) (k : Pubkey) : Prop :=
  ∃ b ∈ given, b.pubkey = k ∧ privilege b = true

instance (given : List AccountMeta) (privilege : AccountMeta → Bool) (k : Pubkey) :
    Decidable (Grants given privilege k) :=
  inferInstanceAs (Decidable (∃ b ∈ given, b.pubkey = k ∧ privilege b = true))

/-- The accounts of `asked` are among those of `given`, and every privilege that is asked
for is given to the same key. -/
def Permitted (given asked : List AccountMeta) : Prop :=
  ∀ a ∈ asked, Grants given (fun _ => true) a.pubkey ∧
    (a.is_signer = true → Grants given AccountMeta.is_signer a.pubkey) ∧
    (a.is_writable = true → Grants given AccountMeta.is_writable a.pubkey)

instance (given asked : List AccountMeta) : Decidable (Permitted given asked) :=
  inferInstanceAs (Decidable (∀ a ∈ asked, Grants given (fun _ => true) a.pubkey ∧
    (a.is_signer = true → Grants given AccountMeta.is_signer a.pubkey) ∧
    (a.is_writable = true → Grants given AccountMeta.is_writable a.pubkey)))

namespace Permitted

variable {as bs cs : List AccountMeta}

theorem of_subset (h : bs ⊆ as) : Permitted as bs := fun _ hb =>
  ⟨⟨_, h hb, rfl, rfl⟩, fun hs => ⟨_, h hb, rfl, hs⟩, fun hw => ⟨_, h hb, rfl, hw⟩⟩

theorem trans (h : Permitted as bs) (h' : Permitted bs cs) : Permitted as cs := by
  intro c hc
  obtain ⟨hkey, hsigner, hwritable⟩ := h' c hc
  refine ⟨?_, fun hs => ?_, fun hw => ?_⟩
  · obtain ⟨b, hb, hbc, -⟩ := hkey
    rw [← hbc]
    exact (h b hb).1
  · obtain ⟨b, hb, hbc, hbs⟩ := hsigner hs
    rw [← hbc]
    exact (h b hb).2.1 hbs
  · obtain ⟨b, hb, hbc, hbw⟩ := hwritable hw
    rw [← hbc]
    exact (h b hb).2.2 hbw

theorem cons {a : AccountMeta} (ha : Permitted as [a]) (h : Permitted as bs) :
    Permitted as (a :: bs) := by
  intro b hb
  rcases List.mem_cons.mp hb with rfl | hb
  · exact ha b (List.mem_singleton.mpr rfl)
  · exact h b hb

/-- A signer may be passed on as one, read-only. -/
theorem new_readonly {a : AccountMeta} (h : a ∈ as) (hsigner : a.is_signer = true) :
    Permitted as [AccountMeta.new_readonly a.pubkey true] := by
  intro b hb
  obtain rfl := List.mem_singleton.mp hb
  exact ⟨⟨a, h, rfl, rfl⟩, fun _ => ⟨a, h, rfl, hsigner⟩, fun hw => absurd hw Bool.false_ne_true⟩

/-- **Merging asks for nothing new**: the union of what the occurrences of a key have. -/
theorem mergeFlags (as : List AccountMeta) : Permitted as (mergeFlags as) := by
  have hany : ∀ {f : AccountMeta → Bool} {k : Pubkey},
      (as.any fun b => b.pubkey = k && f b) = true → Grants as f k := by
    intro f k h
    obtain ⟨b, hb, hbk⟩ := List.any_eq_true.mp h
    obtain ⟨hkey, hf⟩ := by simpa only [Bool.and_eq_true, decide_eq_true_eq] using hbk
    exact ⟨b, hb, hkey, hf⟩
  intro a ha
  obtain ⟨b, hb, rfl⟩ := List.mem_map.mp ha
  exact ⟨⟨b, hb, rfl, rfl⟩, hany, hany⟩

end Permitted

end Solana

open Solana

/-! ## Calls that are checked -/

section Guard

variable {ε Ev : Type}

/-- Calls by a program with the accounts `given`, refused with `refusal` when they ask for
more. -/
def guardedCall (refusal : ProgramError ε) (given : List AccountMeta)
    (call : Instruction → Machine Ev → Except (ProgramError ε) Unit × Machine Ev)
    (ix : Instruction) (m : Machine Ev) : Except (ProgramError ε) Unit × Machine Ev :=
  if Permitted given ix.accounts then call ix m else (.error refusal, m)

/-- An environment whose calls are checked. -/
def Env.guarded (refusal : ProgramError ε) (given : List AccountMeta) (e : Env ε Ev) :
    Env ε Ev := { e with call := guardedCall refusal given e.call }

end Guard
