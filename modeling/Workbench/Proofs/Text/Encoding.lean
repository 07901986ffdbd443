import Mathlib.Tactic.IntervalCases
import Workbench.Proofs.Text.Utf8

/-!
Texts as bytes. Reading the bytes of a text gives the text back, and all that is read without an error are the bytes of
a text.
-/

namespace Workbench.Text.Utf8

def encode (cs : List Char) : List UInt8 :=
  cs.flatMap String.utf8EncodeChar

def IsText (bs : List UInt8) : Prop :=
  ∃ cs, encode cs = bs

variable {bs rest : List UInt8} {b : UInt8} {c : Char} {cs : List Char} {more bits low high m n : Nat}

section Sequences

theorem encodeChar_one (h : c.toNat < 0x80)
    : ∃ b, String.utf8EncodeChar c = [b] ∧ b.toNat = c.toNat := by
  unfold String.utf8EncodeChar
  rw [Char.toNat] at h ⊢
  rw [if_pos (Nat.le_of_lt_succ h)]
  exact ⟨_, rfl, UInt8.toNat_ofNat_of_lt' (Nat.lt_trans h (by decide))⟩

theorem encodeChar_two (h : 0x80 ≤ c.toNat) (hlt : c.toNat < 0x800)
    : ∃ b₀ b₁, String.utf8EncodeChar c = [b₀, b₁] ∧ b₀.toNat = c.toNat / 64 + 0xc0
        ∧ b₁.toNat = c.toNat % 64 + 0x80 := by
  unfold String.utf8EncodeChar
  rw [Char.toNat] at h hlt ⊢
  rw [if_neg (by omega), if_pos (by omega)]
  refine ⟨_, _, rfl, ?_, ?_⟩
  all_goals
    rw [UInt8.toNat_ofNat']
    omega

theorem encodeChar_three (h : 0x800 ≤ c.toNat) (hlt : c.toNat < 0x10000)
    : ∃ b₀ b₁ b₂, String.utf8EncodeChar c = [b₀, b₁, b₂] ∧ b₀.toNat = c.toNat / 4096 + 0xe0
        ∧ b₁.toNat = c.toNat / 64 % 64 + 0x80 ∧ b₂.toNat = c.toNat % 64 + 0x80 := by
  unfold String.utf8EncodeChar
  rw [Char.toNat] at h hlt ⊢
  rw [if_neg (by omega), if_neg (by omega), if_pos (by omega)]
  refine ⟨_, _, _, rfl, ?_, ?_, ?_⟩
  all_goals
    rw [UInt8.toNat_ofNat']
    omega

theorem encodeChar_four (h : 0x10000 ≤ c.toNat)
    : ∃ b₀ b₁ b₂ b₃, String.utf8EncodeChar c = [b₀, b₁, b₂, b₃] ∧ b₀.toNat = c.toNat / 262144 + 0xf0
        ∧ b₁.toNat = c.toNat / 4096 % 64 + 0x80 ∧ b₂.toNat = c.toNat / 64 % 64 + 0x80
        ∧ b₃.toNat = c.toNat % 64 + 0x80 := by
  have hvalid : c.toNat.isValidChar := c.valid
  unfold Nat.isValidChar at hvalid
  unfold String.utf8EncodeChar
  rw [Char.toNat] at h hvalid ⊢
  rw [if_neg (by omega), if_neg (by omega), if_neg (by omega)]
  refine ⟨_, _, _, _, rfl, ?_, ?_, ?_, ?_⟩
  all_goals
    rw [UInt8.toNat_ofNat']
    omega

theorem Lead.ofByte?_two (h : 2 ≤ n) (hlt : n < 32) : ofByte? (n + 0xc0) = some ⟨1, n, 0x80, 0xbf⟩ := by
  unfold ofByte?
  rw [if_pos (by omega)]
  rw [Nat.add_sub_cancel]

theorem Lead.ofByte?_three (h : n < 16)
    : ofByte? (n + 0xe0)
        = some ⟨2, n, if n = 0 then 0xa0 else 0x80, if n = 13 then 0x9f else 0xbf⟩ := by
  -- The second byte keeps the number from being one of fewer bytes, and from being no character.
  interval_cases n <;> rfl

theorem Lead.ofByte?_four (h : n < 5)
    : ofByte? (n + 0xf0)
        = some ⟨3, n, if n = 0 then 0x90 else 0x80, if n = 4 then 0x8f else 0xbf⟩ := by
  interval_cases n <;> rfl

theorem second_three_iff
    : ((if m = 0 then 0xa0 else 0x80) ≤ n ∧ n ≤ if m = 13 then 0x9f else 0xbf)
        ↔ (0x80 ≤ n ∧ n ≤ 0xbf) ∧ (m = 0 → 0xa0 ≤ n) ∧ (m = 13 → n ≤ 0x9f) := by
  split <;> split <;> omega

theorem second_four_iff
    : ((if m = 0 then 0x90 else 0x80) ≤ n ∧ n ≤ if m = 4 then 0x8f else 0xbf)
        ↔ (0x80 ≤ n ∧ n ≤ 0xbf) ∧ (m = 0 → 0x90 ≤ n) ∧ (m = 4 → n ≤ 0x8f) := by
  split <;> split <;> omega

theorem Lead.exists_of_ofByte? {l : Lead} (h : ofByte? n = some l)
    : ∃ m, (2 ≤ m ∧ m < 32 ∧ n = m + 0xc0) ∨ (m < 16 ∧ n = m + 0xe0) ∨ (m < 5 ∧ n = m + 0xf0) := by
  have hrange : 0xc2 ≤ n ∧ n ≤ 0xf4 := by
    unfold ofByte? at h
    grind
  by_cases htwo : n < 0xe0
  · exact ⟨n - 0xc0, .inl (by omega)⟩
  · by_cases hthree : n < 0xf0
    · exact ⟨n - 0xe0, .inr (.inl (by omega))⟩
    · exact ⟨n - 0xf0, .inr (.inr (by omega))⟩

theorem pieces_of_lead {l : Lead} (h : Lead.ofByte? b.toNat = some l) (bs : List UInt8)
    : pieces (b :: bs)
        = (tail l.more l.bits l.low l.high bs).1 :: pieces (tail l.more l.bits l.low l.high bs).2 := by
  have hlarge : ¬ b.toNat < 0x80 := by
    unfold Lead.ofByte? at h
    grind
  rw [pieces]
  rw [if_neg hlarge]
  rw [h]

theorem tail_cons (hlow : low ≤ b.toNat) (hhigh : b.toNat ≤ high) (bs : List UInt8)
    : tail (more + 1) bits low high (b :: bs) = tail more (bits * 64 + (b.toNat - 0x80)) 0x80 0xbf bs := by
  rw [tail]
  rw [if_pos ⟨hlow, hhigh⟩]

theorem exists_of_tail_succ (h : (tail (more + 1) bits low high bs).1 = some c)
    : ∃ b rest, bs = b :: rest ∧ low ≤ b.toNat ∧ b.toNat ≤ high := by
  cases bs with
  | nil => contradiction
  | cons b rest =>
    rw [tail] at h
    split at h
    next hb => exact ⟨b, rest, rfl, hb.1, hb.2⟩
    next => contradiction

variable {b₀ b₁ b₂ b₃ : UInt8}

theorem pieces_two (hm : 2 ≤ m ∧ m < 32) (h₀ : b₀.toNat = m + 0xc0) (h₁ : 0x80 ≤ b₁.toNat ∧ b₁.toNat ≤ 0xbf)
    (bs : List UInt8)
    : pieces (b₀ :: b₁ :: bs) = some (Char.ofNat (m * 64 + (b₁.toNat - 0x80))) :: pieces bs := by
  have hlead := Lead.ofByte?_two hm.1 hm.2
  rw [← h₀] at hlead
  rw [pieces_of_lead hlead]
  dsimp only
  rw [tail_cons h₁.1 h₁.2]
  rw [tail]

theorem pieces_three (hm : m < 16) (h₀ : b₀.toNat = m + 0xe0)
    (h₁ : (0x80 ≤ b₁.toNat ∧ b₁.toNat ≤ 0xbf) ∧ (m = 0 → 0xa0 ≤ b₁.toNat) ∧ (m = 13 → b₁.toNat ≤ 0x9f))
    (h₂ : 0x80 ≤ b₂.toNat ∧ b₂.toNat ≤ 0xbf) (bs : List UInt8)
    : pieces (b₀ :: b₁ :: b₂ :: bs)
        = some (Char.ofNat ((m * 64 + (b₁.toNat - 0x80)) * 64 + (b₂.toNat - 0x80))) :: pieces bs := by
  have hlead := Lead.ofByte?_three hm
  have hrange := second_three_iff.2 h₁
  rw [← h₀] at hlead
  rw [pieces_of_lead hlead]
  dsimp only
  rw [tail_cons hrange.1 hrange.2]
  rw [tail_cons h₂.1 h₂.2]
  rw [tail]

theorem pieces_four (hm : m < 5) (h₀ : b₀.toNat = m + 0xf0)
    (h₁ : (0x80 ≤ b₁.toNat ∧ b₁.toNat ≤ 0xbf) ∧ (m = 0 → 0x90 ≤ b₁.toNat) ∧ (m = 4 → b₁.toNat ≤ 0x8f))
    (h₂ : 0x80 ≤ b₂.toNat ∧ b₂.toNat ≤ 0xbf) (h₃ : 0x80 ≤ b₃.toNat ∧ b₃.toNat ≤ 0xbf) (bs : List UInt8)
    : pieces (b₀ :: b₁ :: b₂ :: b₃ :: bs)
        = some (Char.ofNat (((m * 64 + (b₁.toNat - 0x80)) * 64 + (b₂.toNat - 0x80)) * 64 + (b₃.toNat - 0x80)))
          :: pieces bs := by
  have hlead := Lead.ofByte?_four hm
  have hrange := second_four_iff.2 h₁
  rw [← h₀] at hlead
  rw [pieces_of_lead hlead]
  dsimp only
  rw [tail_cons hrange.1 hrange.2]
  rw [tail_cons h₂.1 h₂.2]
  rw [tail_cons h₃.1 h₃.2]
  rw [tail]

end Sequences

theorem pieces_encodeChar (c : Char) (bs : List UInt8)
    : pieces (String.utf8EncodeChar c ++ bs) = some c :: pieces bs := by
  have hc : Char.ofNat c.toNat = c := Char.ofNat_toNat c
  have hvalid : c.toNat.isValidChar := c.valid
  unfold Nat.isValidChar at hvalid
  by_cases hone : c.toNat < 0x80
  · obtain ⟨b, hbytes, hb⟩ := encodeChar_one hone
    rw [hbytes]
    rw [List.singleton_append]
    rw [pieces]
    rw [if_pos (by omega)]
    rw [hb, hc]
  by_cases htwo : c.toNat < 0x800
  · obtain ⟨b₀, b₁, hbytes, h₀, h₁⟩ := encodeChar_two (Nat.le_of_not_lt hone) htwo
    have hn : c.toNat / 64 * 64 + (b₁.toNat - 0x80) = c.toNat := by omega
    rw [hbytes]
    rw [List.cons_append, List.singleton_append]
    rw [pieces_two (by omega) h₀ (by omega)]
    rw [hn, hc]
  by_cases hthree : c.toNat < 0x10000
  · obtain ⟨b₀, b₁, b₂, hbytes, h₀, h₁, h₂⟩ := encodeChar_three (Nat.le_of_not_lt htwo) hthree
    have hn : (c.toNat / 4096 * 64 + (b₁.toNat - 0x80)) * 64 + (b₂.toNat - 0x80) = c.toNat := by omega
    rw [hbytes]
    rw [List.cons_append, List.cons_append, List.singleton_append]
    rw [pieces_three (by omega) h₀ (by omega) (by omega)]
    rw [hn, hc]
  · obtain ⟨b₀, b₁, b₂, b₃, hbytes, h₀, h₁, h₂, h₃⟩ := encodeChar_four (Nat.le_of_not_lt hthree)
    have hn : ((c.toNat / 262144 * 64 + (b₁.toNat - 0x80)) * 64 + (b₂.toNat - 0x80)) * 64 + (b₃.toNat - 0x80)
        = c.toNat := by omega
    rw [hbytes]
    rw [List.cons_append, List.cons_append, List.cons_append, List.singleton_append]
    rw [pieces_four (by omega) h₀ (by omega) (by omega) (by omega)]
    rw [hn, hc]

section Converse

variable {b₀ : UInt8} {ps : List (Option Char)}

theorem encodeChar_of_two (hm : 2 ≤ m ∧ m < 32) (h₀ : b₀.toNat = m + 0xc0)
    (h : pieces (b₀ :: bs) = some c :: ps)
    : ∃ rest, b₀ :: bs = String.utf8EncodeChar c ++ rest ∧ ps = pieces rest := by
  have hlead := Lead.ofByte?_two hm.1 hm.2
  rw [← h₀] at hlead
  have htail := h
  rw [pieces_of_lead hlead] at htail
  obtain ⟨b₁, rest, rfl, h₁⟩ := exists_of_tail_succ (List.cons.inj htail).1
  dsimp only at h₁
  rw [pieces_two hm h₀ h₁] at h
  obtain ⟨hc, hps⟩ := List.cons.inj h
  have hn : c.toNat = m * 64 + (b₁.toNat - 0x80) := by
    rw [← Option.some.inj hc]
    exact Unicode.toNat_ofNat_of_valid (by unfold Nat.isValidChar; omega)
  obtain ⟨a₀, a₁, hbytes, ha₀, ha₁⟩ := encodeChar_two (c := c) (by omega) (by omega)
  have heq₀ : a₀ = b₀ := UInt8.toNat_inj.1 (by omega)
  have heq₁ : a₁ = b₁ := UInt8.toNat_inj.1 (by omega)
  refine ⟨rest, ?_, hps.symm⟩
  rw [hbytes, heq₀, heq₁]
  rfl

theorem encodeChar_of_three (hm : m < 16) (h₀ : b₀.toNat = m + 0xe0)
    (h : pieces (b₀ :: bs) = some c :: ps)
    : ∃ rest, b₀ :: bs = String.utf8EncodeChar c ++ rest ∧ ps = pieces rest := by
  have hlead := Lead.ofByte?_three hm
  rw [← h₀] at hlead
  have htail := h
  rw [pieces_of_lead hlead] at htail
  have hsome := (List.cons.inj htail).1
  obtain ⟨b₁, bs₁, rfl, hrange⟩ := exists_of_tail_succ hsome
  rw [tail_cons hrange.1 hrange.2] at hsome
  have h₁ := second_three_iff.1 hrange
  obtain ⟨b₂, rest, rfl, h₂⟩ := exists_of_tail_succ hsome
  rw [pieces_three hm h₀ h₁ h₂] at h
  obtain ⟨hc, hps⟩ := List.cons.inj h
  have hn : c.toNat = (m * 64 + (b₁.toNat - 0x80)) * 64 + (b₂.toNat - 0x80) := by
    rw [← Option.some.inj hc]
    exact Unicode.toNat_ofNat_of_valid (by unfold Nat.isValidChar; omega)
  obtain ⟨a₀, a₁, a₂, hbytes, ha₀, ha₁, ha₂⟩ := encodeChar_three (c := c) (by omega) (by omega)
  have heq₀ : a₀ = b₀ := UInt8.toNat_inj.1 (by omega)
  have heq₁ : a₁ = b₁ := UInt8.toNat_inj.1 (by omega)
  have heq₂ : a₂ = b₂ := UInt8.toNat_inj.1 (by omega)
  refine ⟨rest, ?_, hps.symm⟩
  rw [hbytes, heq₀, heq₁, heq₂]
  rfl

theorem encodeChar_of_four (hm : m < 5) (h₀ : b₀.toNat = m + 0xf0)
    (h : pieces (b₀ :: bs) = some c :: ps)
    : ∃ rest, b₀ :: bs = String.utf8EncodeChar c ++ rest ∧ ps = pieces rest := by
  have hlead := Lead.ofByte?_four hm
  rw [← h₀] at hlead
  have htail := h
  rw [pieces_of_lead hlead] at htail
  have hsome := (List.cons.inj htail).1
  obtain ⟨b₁, bs₁, rfl, hrange⟩ := exists_of_tail_succ hsome
  rw [tail_cons hrange.1 hrange.2] at hsome
  have h₁ := second_four_iff.1 hrange
  obtain ⟨b₂, bs₂, rfl, h₂⟩ := exists_of_tail_succ hsome
  rw [tail_cons h₂.1 h₂.2] at hsome
  obtain ⟨b₃, rest, rfl, h₃⟩ := exists_of_tail_succ hsome
  rw [pieces_four hm h₀ h₁ h₂ h₃] at h
  obtain ⟨hc, hps⟩ := List.cons.inj h
  have hn : c.toNat = ((m * 64 + (b₁.toNat - 0x80)) * 64 + (b₂.toNat - 0x80)) * 64 + (b₃.toNat - 0x80) := by
    rw [← Option.some.inj hc]
    exact Unicode.toNat_ofNat_of_valid (by unfold Nat.isValidChar; omega)
  obtain ⟨a₀, a₁, a₂, a₃, hbytes, ha₀, ha₁, ha₂, ha₃⟩ := encodeChar_four (c := c) (by omega)
  have heq₀ : a₀ = b₀ := UInt8.toNat_inj.1 (by omega)
  have heq₁ : a₁ = b₁ := UInt8.toNat_inj.1 (by omega)
  have heq₂ : a₂ = b₂ := UInt8.toNat_inj.1 (by omega)
  have heq₃ : a₃ = b₃ := UInt8.toNat_inj.1 (by omega)
  refine ⟨rest, ?_, hps.symm⟩
  rw [hbytes, heq₀, heq₁, heq₂, heq₃]
  rfl

theorem exists_of_pieces_eq_cons (h : pieces bs = some c :: ps)
    : ∃ rest, bs = String.utf8EncodeChar c ++ rest ∧ ps = pieces rest := by
  cases bs with
  | nil =>
    rw [pieces] at h
    contradiction
  | cons b bs =>
    by_cases hone : b.toNat < 0x80
    · rw [pieces] at h
      rw [if_pos hone] at h
      obtain ⟨hc, hps⟩ := List.cons.inj h
      have hn : c.toNat = b.toNat := by
        rw [← Option.some.inj hc]
        exact Unicode.toNat_ofNat_of_valid (.inl (by omega))
      obtain ⟨a, hbytes, ha⟩ := encodeChar_one (c := c) (by omega)
      have heq : a = b := UInt8.toNat_inj.1 (by omega)
      refine ⟨bs, ?_, hps.symm⟩
      rw [hbytes, heq]
      rfl
    · cases hlead : Lead.ofByte? b.toNat with
      | none =>
        rw [pieces] at h
        rw [if_neg hone] at h
        rw [hlead] at h
        cases (List.cons.inj h).1
      | some l =>
        obtain ⟨m, hm | hm | hm⟩ := Lead.exists_of_ofByte? hlead
        · exact encodeChar_of_two ⟨hm.1, hm.2.1⟩ hm.2.2 h
        · exact encodeChar_of_three hm.1 hm.2 h
        · exact encodeChar_of_four hm.1 hm.2 h

end Converse

@[simp]
theorem encode_nil : encode [] = [] := by
  rfl

theorem encode_cons (c : Char) (cs : List Char) : encode (c :: cs) = String.utf8EncodeChar c ++ encode cs := by
  rfl

theorem pieces_eq_map_some_iff : pieces bs = cs.map some ↔ bs = encode cs := by
  induction cs generalizing bs with
  | nil =>
    constructor
    · intro h
      cases bs with
      | nil => rfl
      | cons b bs =>
        rw [pieces] at h
        split at h
        · contradiction
        · split at h
          · contradiction
          · contradiction
    · rintro rfl
      rw [encode_nil]
      rw [pieces]
      rfl
  | cons c cs ih =>
    rw [List.map_cons]
    rw [encode_cons]
    constructor
    · intro h
      obtain ⟨rest, rfl, hrest⟩ := exists_of_pieces_eq_cons h
      rw [ih.1 hrest.symm]
    · rintro rfl
      rw [pieces_encodeChar]
      rw [ih.2 rfl]

theorem mapM_id_eq_some_iff {ps : List (Option Char)} : ps.mapM id = some cs ↔ ps = cs.map some := by
  induction ps generalizing cs with
  | nil => cases cs <;> simp
  | cons p ps ih =>
    rw [List.mapM_cons]
    cases p with
    | none => cases cs <;> simp
    | some c =>
      cases cs with
      | nil => cases ps.mapM id <;> simp
      | cons d ds =>
        rw [List.map_cons, List.cons.injEq, Option.some.injEq]
        rw [← ih]
        cases ps.mapM id <;> simp

theorem decode?_eq_some_iff : decode? bs = some cs ↔ bs = encode cs := by
  unfold decode?
  rw [mapM_id_eq_some_iff]
  exact pieces_eq_map_some_iff

theorem decodeLossy_encode (cs : List Char) : decodeLossy (encode cs) = cs := by
  unfold decodeLossy
  rw [pieces_eq_map_some_iff.2 rfl]
  rw [List.map_map]
  exact List.map_id cs

theorem feed_mem_encode_iff : 0x0a ∈ encode cs ↔ '\n' ∈ cs := by
  constructor
  · intro h
    obtain ⟨before, rest, hbytes⟩ := List.append_of_mem h
    rw [← decodeLossy_encode cs]
    rw [hbytes]
    rw [decodeLossy_append_feed]
    exact List.mem_append_right _ List.mem_cons_self
  · intro h
    exact List.mem_flatMap.2 ⟨'\n', h, by decide⟩

theorem isSome_decode?_iff : (decode? bs).isSome ↔ IsText bs := by
  rw [Option.isSome_iff_exists]
  simp only [decode?_eq_some_iff]
  exact exists_congr fun _ => eq_comm

instance : DecidablePred IsText := fun _ => decidable_of_iff _ isSome_decode?_iff

theorem decode?_of_not_isText (h : ¬ IsText bs) : decode? bs = none := by
  rw [← isSome_decode?_iff] at h
  exact Option.not_isSome_iff_eq_none.1 h

theorem decode?_comp_encode : decode? ∘ encode = some := by
  funext text
  exact decode?_eq_some_iff.2 rfl

end Workbench.Text.Utf8
