import Mathlib.Algebra.Group.Nat.Defs
import TruthTables.Text.Utf8

/-!
# Reading UTF-8 back

The core library writes a character of several bytes as a lead byte and a tail of bytes with six
bits each.  The lead byte is one that starts a character, and it expects the tail that follows
(`exists_lead`): it announces its length, holds the bits in front of it, and does not forbid its
first byte.  Nothing is expected of the bytes after that one but six bits, so reading goes on to the
end of the character (`foldlM_tail`), and from one character to the next (`decode_toUTF8`).
-/

namespace TruthTables.Text.Utf8

variable {v count i : Nat} {cs : List Char} {c : Char} {part : Lead}

/-! ### The tail of a character -/

def tailByte (v count : Nat) : UInt8 := UInt8.ofNat (v / 64 ^ count % 64 + 0x80)

def tail (v : Nat) : Nat → List UInt8
  | 0 => []
  | count + 1 => tailByte v count :: tail v count

theorem toNat_ofNat_of_le {n : Nat} (h : n ≤ 0xFF) : (UInt8.ofNat n).toNat = n :=
  UInt8.toNat_ofNat_of_lt' (Nat.lt_succ_of_le h)

theorem toNat_tailByte (v count : Nat) : (tailByte v count).toNat = v / 64 ^ count % 64 + 0x80 :=
  toNat_ofNat_of_le (by omega)

/-- What has been read of a number expects the rest: a tail with one byte more than `count`. -/
structure Lead.Expects (part : Lead) (v count : Nat) : Prop where
  owed : part.owed = count + 1
  bits : part.bits = v / 64 ^ (count + 1)
  low : part.low ≤ (tailByte v count).toNat
  high : (tailByte v count).toNat ≤ part.high

theorem expects_mk {b : UInt8} {low high bits : Nat} (hbits : bits = v / 64 ^ (count + 1))
    (hlow : low ≤ v / 64 ^ count % 64 + 0x80) (hhigh : v / 64 ^ count % 64 + 0x80 ≤ high) :
    Lead.Expects ⟨b, i, count + 1, low, high, bits⟩ v count :=
  ⟨rfl, hbits, by rwa [toNat_tailByte], by rwa [toNat_tailByte]⟩

theorem Lead.Expects.bits_eq (h : part.Expects v count) :
    part.bits * 64 + ((tailByte v count).toNat - 0x80) = v / 64 ^ count := by
  rw [h.bits, toNat_tailByte, Nat.add_sub_cancel, Nat.pow_succ, ← Nat.div_div_eq_div_mul,
    Nat.div_add_mod']

theorem Lead.Expects.step_last (h : part.Expects v 0) :
    Progress.step ⟨i, cs, some part⟩ (tailByte v 0) = .ok ⟨i + 1, Char.ofNat v :: cs, none⟩ := by
  simp only [Progress.step]
  rw [if_pos ⟨h.low, h.high⟩, if_pos (Nat.le_of_eq h.owed), h.bits_eq, Nat.pow_zero, Nat.div_one]

theorem Lead.Expects.exists_step (h : part.Expects v (count + 1)) (i : Nat) (cs : List Char) :
    ∃ next : Lead, Progress.step ⟨i, cs, some part⟩ (tailByte v (count + 1)) =
      .ok ⟨i + 1, cs, some next⟩ ∧ next.Expects v count := by
  have howed : ¬ part.owed ≤ 1 := by rw [h.owed]; omega
  refine ⟨⟨part.lead, part.first, count + 1, 0x80, 0xBF, v / 64 ^ (count + 1)⟩, ?_,
    expects_mk rfl (by omega) (by omega)⟩
  simp only [Progress.step]
  rw [if_pos ⟨h.low, h.high⟩, if_neg howed, h.bits_eq, h.owed, Nat.add_sub_cancel]

/-- **The tail that is expected completes the character.** -/
theorem foldlM_tail (i : Nat) (cs : List Char) (h : part.Expects v count) :
    ∃ j, (tail v (count + 1)).foldlM Progress.step ⟨i, cs, some part⟩ =
      .ok ⟨j, Char.ofNat v :: cs, none⟩ := by
  induction count generalizing i part with
  | zero =>
    refine ⟨i + 1, ?_⟩
    rw [tail, List.foldlM_cons, h.step_last]
    rfl
  | succ count ih =>
    obtain ⟨next, hstep, hnext⟩ := h.exists_step i cs
    obtain ⟨j, hj⟩ := ih (i + 1) hnext
    refine ⟨j, ?_⟩
    rw [tail, List.foldlM_cons, hstep]
    exact hj

/-! ### The lead byte of a character -/

theorem exists_lead_two (i : Nat) (hlow : 0x80 ≤ v) (hhigh : v ≤ 0x7FF) : ∃ part,
    Lead.ofByte? i (UInt8.ofNat (v / 64 % 0x20 + 0xC0)) = some part ∧ part.Expects v 0 := by
  have hn : (UInt8.ofNat (v / 64 % 0x20 + 0xC0)).toNat = v / 64 + 0xC0 :=
    (toNat_ofNat_of_le (by omega)).trans (by omega)
  rw [Lead.ofByte?, hn, if_pos (by omega)]
  exact ⟨_, rfl, expects_mk (by omega) (by omega) (by omega)⟩

theorem exists_lead_three (i : Nat) (hlow : 0x800 ≤ v) (hhigh : v ≤ 0xFFFF)
    (hvalid : v < 0xD800 ∨ 0xDFFF < v) : ∃ part,
    Lead.ofByte? i (UInt8.ofNat (v / 4096 % 0x10 + 0xE0)) = some part ∧ part.Expects v 1 := by
  have hn : (UInt8.ofNat (v / 4096 % 0x10 + 0xE0)).toNat = v / 4096 + 0xE0 :=
    (toNat_ofNat_of_le (by omega)).trans (by omega)
  rw [Lead.ofByte?, hn, if_neg (by omega)]
  -- the first bits are zero, those of the surrogates, or others
  by_cases hzero : v / 4096 + 0xE0 = 0xE0
  · rw [if_pos hzero]
    exact ⟨_, rfl, expects_mk (by omega) (by omega) (by omega)⟩
  rw [if_neg hzero]
  by_cases hsurrogate : v / 4096 + 0xE0 = 0xED
  · rw [if_pos hsurrogate]
    exact ⟨_, rfl, expects_mk (by omega) (by omega) (by omega)⟩
  · rw [if_neg hsurrogate, if_pos (by omega)]
    exact ⟨_, rfl, expects_mk (by omega) (by omega) (by omega)⟩

theorem exists_lead_four (i : Nat) (hlow : 0xFFFF < v) (hhigh : v < 0x110000) : ∃ part,
    Lead.ofByte? i (UInt8.ofNat (v / 262144 % 8 + 0xF0)) = some part ∧ part.Expects v 2 := by
  have hn : (UInt8.ofNat (v / 262144 % 8 + 0xF0)).toNat = v / 262144 + 0xF0 :=
    (toNat_ofNat_of_le (by omega)).trans (by omega)
  rw [Lead.ofByte?, hn, if_neg (by omega), if_neg (by omega), if_neg (by omega), if_neg (by omega)]
  -- the first bits are zero, less than the greatest, or the greatest
  by_cases hzero : v / 262144 + 0xF0 = 0xF0
  · rw [if_pos hzero]
    exact ⟨_, rfl, expects_mk (by omega) (by omega) (by omega)⟩
  rw [if_neg hzero]
  by_cases hgreatest : v / 262144 + 0xF0 = 0xF4
  · rw [if_neg (by omega), if_pos hgreatest]
    exact ⟨_, rfl, expects_mk (by omega) (by omega) (by omega)⟩
  · rw [if_pos (by omega)]
    exact ⟨_, rfl, expects_mk (by omega) (by omega) (by omega)⟩

/-- **The lead byte of a character expects the tail that follows it.** -/
theorem exists_lead (i : Nat) (h : 0x80 ≤ c.toNat) : ∃ b count part,
    String.utf8EncodeChar c = b :: tail c.toNat (count + 1) ∧ Lead.ofByte? i b = some part ∧
      part.Expects c.toNat count := by
  have hvalid : c.toNat < 0xD800 ∨ 0xDFFF < c.toNat ∧ c.toNat < 0x110000 := c.valid
  have hval : c.val.toNat = c.toNat := rfl
  simp only [String.utf8EncodeChar, hval]
  generalize c.toNat = v at *
  have hfirst : v / 64 ^ 0 = v := Nat.div_one v
  rw [if_neg (by omega)]
  by_cases htwo : v ≤ 0x7FF
  · obtain ⟨part, hbyte, hpart⟩ := exists_lead_two i h htwo
    refine ⟨_, 0, part, ?_, hbyte, hpart⟩
    rw [if_pos htwo, tail, tailByte, hfirst]
    rfl
  rw [if_neg htwo]
  by_cases hthree : v ≤ 0xFFFF
  · obtain ⟨part, hbyte, hpart⟩ := exists_lead_three i (by omega) hthree (by omega)
    refine ⟨_, 1, part, ?_, hbyte, hpart⟩
    rw [if_pos hthree, tail, tail, tailByte, tailByte, hfirst]
    rfl
  · obtain ⟨part, hbyte, hpart⟩ := exists_lead_four (v := v) i (by omega) (by omega)
    refine ⟨_, 2, part, ?_, hbyte, hpart⟩
    rw [if_neg hthree, tail, tail, tail, tailByte, tailByte, tailByte, hfirst]
    rfl

theorem ofByte?_eq_none {b : UInt8} (h : b.toNat < 0x80) : Lead.ofByte? i b = none := by
  rw [Lead.ofByte?]
  iterate 7 rw [if_neg (by omega)]

/-! ### Texts -/

/-- **The bytes of a character are read as that character.** -/
theorem foldlM_utf8EncodeChar (i : Nat) (cs : List Char) (c : Char) : ∃ j,
    (String.utf8EncodeChar c).foldlM Progress.step ⟨i, cs, none⟩ = .ok ⟨j, c :: cs, none⟩ := by
  by_cases hsmall : c.toNat ≤ 0x7F
  · have hbyte : (UInt8.ofNat c.toNat).toNat = c.toNat := toNat_ofNat_of_le (by omega)
    have hstep : Progress.step ⟨i, cs, none⟩ (UInt8.ofNat c.toNat) =
        .ok ⟨i + 1, c :: cs, none⟩ := by
      simp only [Progress.step]
      rw [hbyte, if_pos (by omega), Char.ofNat_toNat]
    have hencode : String.utf8EncodeChar c = [UInt8.ofNat c.toNat] := if_pos hsmall
    refine ⟨i + 1, ?_⟩
    rw [hencode, List.foldlM_cons, hstep]
    rfl
  · obtain ⟨b, count, part, hencode, hpart, hexpects⟩ := exists_lead (c := c) i (by omega)
    have hlarge : ¬ b.toNat < 0x80 := by
      intro hlt
      rw [ofByte?_eq_none hlt] at hpart
      cases hpart
    have hstep : Progress.step ⟨i, cs, none⟩ b = .ok ⟨i + 1, cs, some part⟩ := by
      simp only [Progress.step]
      rw [if_neg hlarge, hpart]
    obtain ⟨j, hj⟩ := foldlM_tail (i + 1) cs hexpects
    refine ⟨j, ?_⟩
    rw [Char.ofNat_toNat] at hj
    rw [hencode, List.foldlM_cons, hstep]
    exact hj

theorem foldlM_flatMap_utf8EncodeChar (ds : List Char) : ∀ (i : Nat) (cs : List Char), ∃ j,
    (ds.flatMap String.utf8EncodeChar).foldlM Progress.step ⟨i, cs, none⟩ =
      .ok ⟨j, ds.reverse ++ cs, none⟩ := by
  induction ds with
  | nil => exact fun i cs => ⟨i, rfl⟩
  | cons d ds ih =>
    intro i cs
    obtain ⟨j, hj⟩ := foldlM_utf8EncodeChar i cs d
    obtain ⟨k, hk⟩ := ih j (d :: cs)
    refine ⟨k, ?_⟩
    rw [List.flatMap_cons, List.foldlM_append, hj, List.reverse_cons, List.append_assoc]
    exact hk

/-- **Every text is read back from its bytes.** -/
theorem decode_toUTF8 (s : String) : decode s.toUTF8.data.toList = .ok s.toList := by
  have hbytes : s.toUTF8.data.toList = s.toList.flatMap String.utf8EncodeChar := by
    rw [String.toUTF8_eq_toByteArray, ← String.utf8Encode_toList, List.utf8Encode,
      List.toList_data_toByteArray]
  obtain ⟨j, hj⟩ := foldlM_flatMap_utf8EncodeChar s.toList 0 []
  rw [List.append_nil] at hj
  rw [decode, hbytes, hj]
  show Except.ok s.toList.reverse.reverse = _
  rw [List.reverse_reverse]

end TruthTables.Text.Utf8
