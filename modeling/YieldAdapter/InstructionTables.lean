/-
# Tables of instructions

The data of an instruction is a tag and the arguments that the tag stands for.  A program
looks the tag up in a table of its instructions and decodes the arguments.

* `Codec.Truncated` : input that has been cut off inside an encoding.  The formats below
  refuse nothing else (`Codec.RefusesTruncated`);
* `Instructions.parse` : the lookup, with an error for data that begins with no tag, which may
  depend on the data, and one for arguments that cannot be decoded;
* `Instructions.parse_eq_ok_iff` and its companions : which data is accepted, and which is
  refused with what error.
-/
import YieldAdapter.Borsh

/-! ## Input that has been cut off -/

namespace Codec

variable {α β : Type} {c : Codec α} {d : Codec β} {bs : List UInt8}

/-- No arguments. -/
def unit : Codec Unit where
  encode := fun _ => []
  decode := fun bs => some ((), bs)
  Fits := fun _ => True
  decode_eq_some_iff := fun bs _ rest => by simp

/-- The input is the start of an encoding, of which something is missing. -/
def Truncated (c : Codec α) (bs : List UInt8) : Prop :=
  ∃ a missing, c.Fits a ∧ missing ≠ [] ∧ c.encode a = bs ++ missing

/-- What is refused has been cut off. -/
def RefusesTruncated (c : Codec α) : Prop := ∀ bs, c.decode bs = none → c.Truncated bs

/-- Input that has been cut off is refused. -/
theorem decode_of_truncated (h : c.Truncated bs) : c.decode bs = none := by
  obtain ⟨a, missing, hfits, hmissing, hencode⟩ := h
  rcases hdecode : c.decode bs with _ | ⟨b, rest⟩
  · rfl
  · -- a value at the start would be the whole of it
    obtain ⟨hfits', rfl⟩ := (c.decode_eq_some_iff _ _ _).mp hdecode
    have hsame : c.encode a ++ [] = c.encode b ++ (rest ++ missing) := by
      rw [List.append_nil, hencode, List.append_assoc]
    obtain ⟨-, hnil⟩ := c.encode_append_inj hfits hfits' hsame
    exact absurd (List.append_eq_nil_iff.mp hnil.symm).2 hmissing

theorem refusesTruncated_unit : unit.RefusesTruncated := fun _ h => absurd h (by simp [unit])

theorem refusesTruncated_word {w : ℕ} {toNat : α → ℕ} {ofNat : ℕ → α}
    {hof : ∀ a, ofNat (toNat a) = a} {hto : ∀ n, n < 256 ^ w → toNat (ofNat n) = n}
    {hlt : ∀ a, toNat a < 256 ^ w} : (word w toNat ofNat hof hto hlt).RefusesTruncated := by
  intro bs hnone
  have hshort : bs.length < w := by
    by_contra hlong
    have hsome : (word w toNat ofNat hof hto hlt).decode bs = some _ := if_pos (by omega)
    exact absurd (hnone.symm.trans hsome) (by simp)
  -- the bytes that are missing may all be zero
  set padded := bs ++ List.replicate (w - bs.length) 0 with hpadded
  have hlength : padded.length = w := by
    rw [hpadded, List.length_append, List.length_replicate]
    omega
  have hvalue : LittleEndian.value padded < 256 ^ w := by
    rw [← hlength]
    exact LittleEndian.value_lt padded
  refine ⟨ofNat (LittleEndian.value padded), List.replicate (w - bs.length) 0, trivial, ?_, ?_⟩
  · intro hnil
    have := congrArg List.length hnil
    rw [List.length_replicate, List.length_nil] at this
    omega
  · show LittleEndian.bytes w (toNat (ofNat (LittleEndian.value padded))) = padded
    rw [hto _ hvalue]
    conv_lhs => rw [← hlength]
    exact LittleEndian.bytes_value padded

theorem refusesTruncated_array (n : ℕ) : (array n).RefusesTruncated := by
  intro bs hnone
  have hshort : bs.length < n := by
    by_contra hlong
    have hsome : (array n).decode bs = some _ := dif_pos (by omega)
    exact absurd (hnone.symm.trans hsome) (by simp)
  refine ⟨⟨bs ++ List.replicate (n - bs.length) 0, ?_⟩, List.replicate (n - bs.length) 0,
    trivial, ?_, rfl⟩
  · rw [List.length_append, List.length_replicate]
    omega
  · intro hnil
    have := congrArg List.length hnil
    rw [List.length_replicate, List.length_nil] at this
    omega

/-- Two fields: what is missing may begin in either of them. -/
theorem refusesTruncated_pair (hc : c.RefusesTruncated) (hd : d.RefusesTruncated)
    (hfits : ∃ b, d.Fits b) : (pair c d).RefusesTruncated := by
  intro bs hnone
  obtain ⟨b₀, hb₀⟩ := hfits
  rcases hfirst : c.decode bs with _ | ⟨a, rest⟩
  · obtain ⟨a, missing, ha, hmissing, hencode⟩ := hc bs hfirst
    refine ⟨(a, b₀), missing ++ d.encode b₀, ⟨ha, hb₀⟩, ?_, ?_⟩
    · exact fun hnil => hmissing (List.append_eq_nil_iff.mp hnil).1
    · show c.encode a ++ d.encode b₀ = _
      rw [hencode, List.append_assoc]
  · obtain ⟨ha, rfl⟩ := (c.decode_eq_some_iff _ _ _).mp hfirst
    have hsecond : d.decode rest = none := by
      rcases hrest : d.decode rest with _ | ⟨b, rest'⟩
      · rfl
      · have hsome : (pair c d).decode (c.encode a ++ rest) = some ((a, b), rest') := by
          simp only [pair, hfirst, Option.bind_some, hrest, Option.map_some]
        exact absurd (hnone.symm.trans hsome) (by simp)
    obtain ⟨b, missing, hb, hmissing, hencode⟩ := hd rest hsecond
    refine ⟨(a, b), missing, ⟨ha, hb⟩, hmissing, ?_⟩
    show c.encode a ++ d.encode b = _
    rw [hencode, List.append_assoc]

theorem refusesTruncated_imap (hc : c.RefusesTruncated) (e : α ≃ β) :
    (c.imap e).RefusesTruncated := by
  intro bs hnone
  obtain ⟨a, missing, ha, hmissing, hencode⟩ := hc bs (Option.map_eq_none_iff.mp hnone)
  refine ⟨e a, missing, ?_, hmissing, ?_⟩
  · show c.Fits (e.symm (e a))
    rwa [e.symm_apply_apply]
  · show c.encode (e.symm (e a)) = _
    rw [e.symm_apply_apply, hencode]

/-- Items of which some are missing, or parts of one. -/
theorem truncated_of_decodeItems {a₀ : α} (ha₀ : c.Fits a₀) (hc : c.RefusesTruncated) {n : ℕ}
    (hnone : decodeItems c n bs = none) :
    ∃ (as : List α) (missing : List UInt8), as.length = n ∧ (∀ a ∈ as, c.Fits a) ∧ missing ≠ [] ∧
      as.flatMap c.encode = bs ++ missing := by
  induction n generalizing bs with
  | zero => exact absurd hnone (by simp [decodeItems])
  | succ n ih =>
      rcases hfirst : c.decode bs with _ | ⟨a, rest⟩
      · -- the first item is cut off, and the others may be any
        obtain ⟨a, missing, ha, hmissing, hencode⟩ := hc bs hfirst
        refine ⟨a :: List.replicate n a₀, missing ++ (List.replicate n a₀).flatMap c.encode, ?_,
          ?_, ?_, ?_⟩
        · rw [List.length_cons, List.length_replicate]
        · intro b hb
          rcases List.mem_cons.mp hb with rfl | hb
          · exact ha
          · rw [List.eq_of_mem_replicate hb]
            exact ha₀
        · exact fun hnil => hmissing (List.append_eq_nil_iff.mp hnil).1
        · rw [List.flatMap_cons, hencode, List.append_assoc]
      · obtain ⟨ha, rfl⟩ := (c.decode_eq_some_iff _ _ _).mp hfirst
        have hrest : decodeItems c n rest = none := by
          rw [decodeItems, hfirst, Option.bind_some, Option.map_eq_none_iff] at hnone
          exact hnone
        obtain ⟨as, missing, hlength, hfits, hmissing, hencode⟩ := ih hrest
        refine ⟨a :: as, missing, by rw [List.length_cons, hlength], ?_, hmissing, ?_⟩
        · intro b hb
          rcases List.mem_cons.mp hb with rfl | hb
          · exact ha
          · exact hfits b hb
        · rw [List.flatMap_cons, hencode, List.append_assoc]

theorem refusesTruncated_vec (hc : c.RefusesTruncated) (hfits : ∃ a, c.Fits a) :
    (vec c).RefusesTruncated := by
  intro bs hnone
  obtain ⟨a₀, ha₀⟩ := hfits
  have hcount : ∀ n : UInt32, LittleEndian.bytes 4 n.toNat = u32.encode n := fun _ => rfl
  rcases hfirst : u32.decode bs with _ | ⟨n, rest⟩
  · -- the length is cut off
    obtain ⟨n, missing, -, hmissing, hencode⟩ := refusesTruncated_word bs hfirst
    refine ⟨List.replicate n.toNat a₀,
      missing ++ (List.replicate n.toNat a₀).flatMap c.encode, ⟨?_, ?_⟩, ?_, ?_⟩
    · rw [List.length_replicate]
      exact n.toNat_lt
    · intro b hb
      rw [List.eq_of_mem_replicate hb]
      exact ha₀
    · exact fun hnil => hmissing (List.append_eq_nil_iff.mp hnil).1
    · rw [encode_vec, List.length_replicate, hcount, u32, hencode, List.append_assoc]
  · obtain ⟨-, rfl⟩ := (u32.decode_eq_some_iff _ _ _).mp hfirst
    have hdecode : (vec c).decode (u32.encode n ++ rest) =
        (u32.decode (u32.encode n ++ rest)).bind fun p => decodeItems c p.1.toNat p.2 := rfl
    have hitems : decodeItems c n.toNat rest = none := by
      rw [hdecode, hfirst] at hnone
      exact hnone
    obtain ⟨as, missing, hlength, hall, hmissing, hencode⟩ :=
      truncated_of_decodeItems ha₀ hc hitems
    refine ⟨as, missing, ⟨?_, hall⟩, hmissing, ?_⟩
    · rw [hlength]
      exact n.toNat_lt
    · rw [encode_vec, hlength, hcount, hencode, List.append_assoc]

end Codec

/-! ## Tables -/

/-- An instruction: its tag, the format of its arguments, and what they stand for. -/
structure Variant (α : Type) where
  tag : List UInt8
  Args : Type
  codec : Codec Args
  make : Args → α

namespace Instructions

variable {ε α : Type}

/-- Look up the tag, and decode the arguments. -/
def parse (unknown : List UInt8 → ε) (malformed : ε) :
    List (Variant α) → List UInt8 → Except ε (α × List UInt8)
  | [], data => .error (unknown data)
  | v :: vs, data =>
      if data.take 8 = v.tag then
        match v.codec.decode (data.drop 8) with
        | some (args, rest) => .ok (v.make args, rest)
        | none => .error malformed
      else parse unknown malformed vs data

/-- The tags have eight bytes and are told apart. -/
structure WellTagged (vs : List (Variant α)) : Prop where
  length : ∀ v ∈ vs, v.tag.length = 8
  distinct : (vs.map Variant.tag).Nodup

variable {unknown : List UInt8 → ε} {malformed : ε} {vs : List (Variant α)} {data : List UInt8}

/-- A tag that is not in the table. -/
theorem parse_of_not_mem (h : data.take 8 ∉ vs.map Variant.tag) :
    parse unknown malformed vs data = .error (unknown data) := by
  induction vs with
  | nil => rfl
  | cons v vs ih =>
      rw [List.map_cons, List.mem_cons, not_or] at h
      rw [parse, if_neg h.1, ih h.2]

/-- A tag that is. -/
theorem parse_of_mem (hvs : WellTagged vs) {v : Variant α} (hv : v ∈ vs)
    (h : data.take 8 = v.tag) :
    parse unknown malformed vs data =
      match v.codec.decode (data.drop 8) with
      | some (args, rest) => .ok (v.make args, rest)
      | none => .error malformed := by
  induction vs with
  | nil => exact absurd hv (by simp)
  | cons w vs ih =>
      obtain ⟨hlength, hdistinct⟩ := hvs
      rw [List.map_cons, List.nodup_cons] at hdistinct
      rcases List.mem_cons.mp hv with rfl | hv
      · rw [parse, if_pos h]
      · have hne : data.take 8 ≠ w.tag := by
          intro heq
          apply hdistinct.1
          rw [← heq, h]
          exact List.mem_map_of_mem hv
        rw [parse, if_neg hne]
        exact ih ⟨fun u hu => hlength u (List.mem_cons_of_mem _ hu), hdistinct.2⟩ hv

/-- **What is accepted** is a tag of the table with its arguments, followed by anything. -/
theorem parse_eq_ok_iff (hvs : WellTagged vs) {a : α} {rest : List UInt8} :
    parse unknown malformed vs data = .ok (a, rest) ↔
      ∃ v ∈ vs, ∃ args, v.codec.Fits args ∧ a = v.make args ∧
        data = v.tag ++ v.codec.encode args ++ rest := by
  constructor
  · intro h
    by_cases hmem : data.take 8 ∈ vs.map Variant.tag
    · obtain ⟨v, hv, htag⟩ := List.mem_map.mp hmem
      rw [parse_of_mem hvs hv htag.symm] at h
      rcases hdecode : v.codec.decode (data.drop 8) with _ | ⟨args, rest'⟩
      · rw [hdecode] at h
        exact absurd h (by simp)
      · rw [hdecode] at h
        obtain ⟨rfl, rfl⟩ := Prod.mk.inj (Except.ok.inj h)
        obtain ⟨hfits, hdrop⟩ := (v.codec.decode_eq_some_iff _ _ _).mp hdecode
        refine ⟨v, hv, args, hfits, rfl, ?_⟩
        rw [List.append_assoc, ← hdrop, htag, List.take_append_drop]
    · rw [parse_of_not_mem hmem] at h
      exact absurd h (by simp)
  · rintro ⟨v, hv, args, hfits, rfl, rfl⟩
    have hlength := hvs.length v hv
    rw [List.append_assoc, parse_of_mem hvs hv (List.take_left' hlength),
      List.drop_left' hlength, v.codec.decode_encode_append hfits]

/-- **What is refused as malformed** has been cut off behind its tag. -/
theorem parse_eq_malformed_iff (hvs : WellTagged vs) (hne : unknown data ≠ malformed)
    (htruncated : ∀ v ∈ vs, v.codec.RefusesTruncated) :
    parse unknown malformed vs data = .error malformed ↔
      ∃ v ∈ vs, ∃ bs, data = v.tag ++ bs ∧ v.codec.Truncated bs := by
  constructor
  · intro h
    by_cases hmem : data.take 8 ∈ vs.map Variant.tag
    · obtain ⟨v, hv, htag⟩ := List.mem_map.mp hmem
      rw [parse_of_mem hvs hv htag.symm] at h
      rcases hdecode : v.codec.decode (data.drop 8) with _ | ⟨args, rest⟩
      · refine ⟨v, hv, data.drop 8, ?_, htruncated v hv _ hdecode⟩
        rw [htag, List.take_append_drop]
      · rw [hdecode] at h
        exact absurd h (by simp)
    · rw [parse_of_not_mem hmem] at h
      exact absurd (Except.error.inj h) hne
  · rintro ⟨v, hv, bs, rfl, hbs⟩
    have hlength := hvs.length v hv
    rw [parse_of_mem hvs hv (List.take_left' hlength), List.drop_left' hlength,
      Codec.decode_of_truncated hbs]

/-- **What is refused for another reason** begins with no tag of the table. -/
theorem parse_eq_unknown_iff (hvs : WellTagged vs) {e : ε} (hne : e ≠ malformed) :
    parse unknown malformed vs data = .error e ↔
      (∀ v ∈ vs, ¬ v.tag <+: data) ∧ unknown data = e := by
  constructor
  · intro h
    have htags : ∀ v ∈ vs, ¬ v.tag <+: data := by
      rintro v hv ⟨bs, rfl⟩
      have hlength := hvs.length v hv
      rw [parse_of_mem hvs hv (List.take_left' hlength)] at h
      split at h
      · exact absurd h (by simp)
      · exact hne (Except.error.inj h).symm
    refine ⟨htags, ?_⟩
    have hmem : data.take 8 ∉ vs.map Variant.tag := by
      intro hmem
      obtain ⟨v, hv, htag⟩ := List.mem_map.mp hmem
      exact htags v hv ⟨data.drop 8, by rw [htag, List.take_append_drop]⟩
    rw [parse_of_not_mem hmem] at h
    exact Except.error.inj h
  · rintro ⟨h, rfl⟩
    apply parse_of_not_mem
    intro hmem
    obtain ⟨v, hv, htag⟩ := List.mem_map.mp hmem
    exact h v hv ⟨data.drop 8, by rw [htag, List.take_append_drop]⟩

end Instructions
