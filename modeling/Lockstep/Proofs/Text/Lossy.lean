import Lockstep.Proofs.Text.Utf8
import Mathlib.Data.List.Basic

/-!
# Reading octets that are not UTF-8

A lenient reading keeps every character that is there and puts U+FFFD in the place of each piece
that is malformed. `Mended` is the relation between such octets and what is read from them. So the
octets are UTF-8 exactly if what is read from them encodes to them again, and otherwise U+FFFD is
among it.

For this the octets at which `Front.of` finds a character have to be those of that character, which
is the converse of `exists_front`.
-/

namespace Lockstep.Utf8

variable {a b : UInt8} {rest octets : List UInt8} {s : List Char} {width : Nat}

/-! ## Continuation octets -/

/-- The octet continues a character and begins none. -/
def IsTail (b : UInt8) : Prop := 0x80 ≤ b ∧ b ≤ 0xBF

theorem IsTail.exists_tailOctet (h : IsTail b) : ∃ t < 64, b = tailOctet t := by
  obtain ⟨hlow, hhigh⟩ := h
  rw [UInt8.le_iff_toNat_le] at hlow hhigh
  change 0x80 ≤ b.toNat at hlow
  change b.toNat ≤ 0xBF at hhigh
  refine ⟨b.toNat - 0x80, by omega, UInt8.toNat_inj.mp ?_⟩
  rw [toNat_tailOctet]
  omega

/-- All that reading continuation octets can come to: as many as are owed are there and make up the
character, or one is missing, or the octets end before. -/
theorem tails_cases (width bits owed : Nat) (octets : List UInt8) :
    (∃ (ts : List Nat) (tail : List UInt8), octets = ts.map tailOctet ++ tail ∧
      ts.length = owed ∧ (∀ t ∈ ts, t < 64) ∧
      Front.tails width bits owed octets =
        .char (Char.ofNat (ts.foldl (fun v t ↦ v * 64 + t) bits)) (width + owed)) ∨
    (∃ ts tail : List UInt8, octets = ts ++ tail ∧ (∀ b ∈ ts, IsTail b) ∧
      Front.tails width bits owed octets = .malformed (width + ts.length)) ∨
    (∀ b ∈ octets, IsTail b) ∧ Front.tails width bits owed octets = .cut := by
  induction octets generalizing width bits owed with
  | nil =>
    cases owed with
    | zero => exact .inl ⟨[], [], rfl, rfl, by simp, rfl⟩
    | succ owed => exact .inr (.inr ⟨by simp, rfl⟩)
  | cons b rest ih =>
    cases owed with
    | zero => exact .inl ⟨[], b :: rest, rfl, rfl, by simp, rfl⟩
    | succ owed =>
      by_cases hb : IsTail b
      · obtain ⟨t, ht, rfl⟩ := hb.exists_tailOctet
        rw [tails_tailOctet, Nat.mod_eq_of_lt ht]
        rcases ih (width + 1) (bits * 64 + t) owed with
          ⟨ts, tail, rfl, rfl, hts, h⟩ | ⟨ts, tail, rfl, hts, h⟩ | ⟨hts, h⟩
        · refine .inl ⟨t :: ts, tail, rfl, rfl, List.forall_mem_cons.mpr ⟨ht, hts⟩, ?_⟩
          rw [h, List.foldl_cons, Nat.add_assoc, Nat.add_comm 1]
        · refine .inr (.inl ⟨tailOctet t :: ts, tail, rfl,
            List.forall_mem_cons.mpr ⟨hb, hts⟩, ?_⟩)
          rw [h, List.length_cons, Nat.add_assoc, Nat.add_comm 1]
        · exact .inr (.inr ⟨List.forall_mem_cons.mpr ⟨hb, hts⟩, h⟩)
      · refine .inr (.inl ⟨[], b :: rest, rfl, by simp, ?_⟩)
        rw [Front.tails]
        exact if_neg hb

/-! ## Leads -/

/-- The first octets of characters of two, three and four octets. -/
theorem ofOctet?_cases {lead : Lead} (h : Lead.ofOctet? a = some lead) :
    (∃ n, 2 ≤ n ∧ n < 0x20 ∧ a = UInt8.ofNat (n + 0xC0) ∧ lead = ⟨1, 0x80, 0xBF, n⟩) ∨
    (∃ n, n < 0x10 ∧ a = UInt8.ofNat (n + 0xE0) ∧
      lead = ⟨2, if n = 0 then 0xA0 else 0x80, if n = 0xD then 0x9F else 0xBF, n⟩) ∨
    ∃ n, n < 5 ∧ a = UInt8.ofNat (n + 0xF0) ∧
      lead = ⟨3, if n = 0 then 0x90 else 0x80, if n = 4 then 0x8F else 0xBF, n⟩ := by
  have hoctet : ∀ base ≤ a.toNat, a = UInt8.ofNat (a.toNat - base + base) := by
    intro base hle
    rw [Nat.sub_add_cancel hle, UInt8.ofNat_toNat]
  by_cases htwo : a.toNat < 0xE0
  · have hle : 0xC2 ≤ a.toNat := by
      refine Nat.le_of_not_lt fun hlt ↦ ?_
      rw [Lead.ofOctet?, if_pos (UInt8.lt_iff_toNat_lt.mpr hlt)] at h
      cases h
    have ha := hoctet 0xC0 (by omega)
    rw [ha, ofOctet?_two _ (by omega) (by omega)] at h
    exact .inl ⟨_, by omega, by omega, ha, (Option.some.inj h).symm⟩
  by_cases hthree : a.toNat < 0xF0
  · have ha := hoctet 0xE0 (by omega)
    rw [ha, ofOctet?_three _ (by omega)] at h
    exact .inr (.inl ⟨_, by omega, ha, (Option.some.inj h).symm⟩)
  by_cases hfour : a.toNat < 0xF5
  · have ha := hoctet 0xF0 (by omega)
    rw [ha, ofOctet?_four _ (by omega)] at h
    exact .inr (.inr ⟨_, by omega, ha, (Option.some.inj h).symm⟩)
  · have hnone : ∀ n < 0xB, Lead.ofOctet? (UInt8.ofNat (n + 0xF5)) = none := by decide
    have hlt : a.toNat < 0x100 := a.toNat_lt
    rw [hoctet 0xF5 (by omega), hnone _ (by omega)] at h
    cases h

/-- The first continuation octet that a lead admits is one. -/
theorem isTail_of_ofOctet? {lead : Lead} (h : Lead.ofOctet? a = some lead)
    (hb : lead.low ≤ b ∧ b ≤ lead.high) : IsTail b := by
  have hle : 0x80 ≤ lead.low ∧ lead.high ≤ 0xBF := by
    rcases ofOctet?_cases h with ⟨n, -, -, -, rfl⟩ | ⟨n, -, -, rfl⟩ | ⟨n, -, -, rfl⟩
    · exact ⟨UInt8.le_refl _, UInt8.le_refl _⟩
    all_goals dsimp only; constructor <;> split <;> decide
  exact ⟨UInt8.le_trans hle.1 hb.1, UInt8.le_trans hb.2 hle.2⟩

/-! ## Characters -/

theorem toNat_ofNat {v : Nat} (h : v < 0xD800 ∨ 0xDFFF < v ∧ v < 0x110000) :
    (Char.ofNat v).val.toNat = v := by
  rw [Char.ofNat, dif_pos h]
  rfl

theorem utf8EncodeChar_two {n t : Nat} (hn : 2 ≤ n) (hn' : n < 0x20) (ht : t < 64) :
    String.utf8EncodeChar (Char.ofNat (n * 64 + t)) = [UInt8.ofNat (n + 0xC0), tailOctet t] := by
  have hv : (Char.ofNat (n * 64 + t)).val.toNat = n * 64 + t := toNat_ofNat (by omega)
  have hlead : (n * 64 + t) / 64 % 0x20 = n := by omega
  have hlast : (n * 64 + t) % 64 = t % 64 := by omega
  unfold String.utf8EncodeChar
  dsimp only
  rw [hv, if_neg (by omega), if_pos (by omega), hlead, hlast]
  rfl

theorem utf8EncodeChar_three {n t u : Nat} (hn : n < 0x10) (ht : t < 64) (hu : u < 64)
    (hlow : n = 0 → 0x20 ≤ t) (hhigh : n = 0xD → t < 0x20) :
    String.utf8EncodeChar (Char.ofNat ((n * 64 + t) * 64 + u)) =
      [UInt8.ofNat (n + 0xE0), tailOctet t, tailOctet u] := by
  have hv : (Char.ofNat ((n * 64 + t) * 64 + u)).val.toNat = (n * 64 + t) * 64 + u :=
    toNat_ofNat (by omega)
  have hlead : ((n * 64 + t) * 64 + u) / 4096 % 0x10 = n := by omega
  have hmiddle : ((n * 64 + t) * 64 + u) / 64 % 64 = t % 64 := by omega
  have hlast : ((n * 64 + t) * 64 + u) % 64 = u % 64 := by omega
  unfold String.utf8EncodeChar
  dsimp only
  rw [hv, if_neg (by omega), if_neg (by omega), if_pos (by omega), hlead, hmiddle, hlast]
  rfl

theorem utf8EncodeChar_four {n t u w : Nat} (hn : n < 5) (ht : t < 64) (hu : u < 64) (hw : w < 64)
    (hlow : n = 0 → 0x10 ≤ t) (hhigh : n = 4 → t < 0x10) :
    String.utf8EncodeChar (Char.ofNat (((n * 64 + t) * 64 + u) * 64 + w)) =
      [UInt8.ofNat (n + 0xF0), tailOctet t, tailOctet u, tailOctet w] := by
  have hv : (Char.ofNat (((n * 64 + t) * 64 + u) * 64 + w)).val.toNat =
      ((n * 64 + t) * 64 + u) * 64 + w := toNat_ofNat (by omega)
  have hlead : (((n * 64 + t) * 64 + u) * 64 + w) / 262144 % 0x08 = n := by omega
  have hsecond : (((n * 64 + t) * 64 + u) * 64 + w) / 4096 % 64 = t % 64 := by omega
  have hthird : (((n * 64 + t) * 64 + u) * 64 + w) / 64 % 64 = u % 64 := by omega
  have hlast : (((n * 64 + t) * 64 + u) * 64 + w) % 64 = w % 64 := by omega
  unfold String.utf8EncodeChar
  dsimp only
  rw [hv, if_neg (by omega), if_neg (by omega), if_neg (by omega), hlead, hsecond, hthird, hlast]
  rfl

/-- A lead, a continuation octet that it admits, and as many more as it demands are the octets of a
character. -/
theorem utf8EncodeChar_of_lead {lead : Lead} (h : Lead.ofOctet? a = some lead) {t : Nat}
    (ht : t < 64) (hlow : lead.low.toNat ≤ t + 0x80) (hhigh : t + 0x80 ≤ lead.high.toNat)
    {ts : List Nat} (hlength : ts.length = lead.tails - 1) (hts : ∀ u ∈ ts, u < 64) :
    String.utf8EncodeChar
        (Char.ofNat (ts.foldl (fun v t ↦ v * 64 + t) (lead.bits * 64 + t))) =
      a :: tailOctet t :: ts.map tailOctet := by
  rcases ofOctet?_cases h with ⟨n, hn, hn', rfl, rfl⟩ | ⟨n, hn, rfl, rfl⟩ | ⟨n, hn, rfl, rfl⟩
  · obtain rfl := List.length_eq_zero_iff.mp hlength
    exact utf8EncodeChar_two hn hn' ht
  · obtain ⟨u, rfl⟩ := List.length_eq_one_iff.mp hlength
    refine utf8EncodeChar_three hn ht (hts u List.mem_cons_self) ?_ ?_
    · rintro rfl
      change 0xA0 ≤ t + 0x80 at hlow
      omega
    · rintro rfl
      change t + 0x80 ≤ 0x9F at hhigh
      omega
  · obtain ⟨u, w, rfl⟩ := List.length_eq_two.mp hlength
    refine utf8EncodeChar_four hn ht (hts u List.mem_cons_self)
      (hts w (List.mem_cons_of_mem _ List.mem_cons_self)) ?_ ?_
    · rintro rfl
      change 0x90 ≤ t + 0x80 at hlow
      omega
    · rintro rfl
      change t + 0x80 ≤ 0x8F at hhigh
      omega

/-! ## What stands at the front -/

/-- All that can stand at the front of octets: those of a character; or an octet and some
continuation octets that no octet after them completes; or such octets up to the end. -/
theorem of_cases (a : UInt8) (rest : List UInt8) :
    (∃ c more tail, rest = more ++ tail ∧ String.utf8EncodeChar c = a :: more ∧
      Front.of a rest = .char c (more.length + 1)) ∨
    (∃ ts tail, rest = ts ++ tail ∧ (∀ b ∈ ts, IsTail b) ∧
      Front.of a rest = .malformed (ts.length + 1)) ∨
    (∀ b ∈ rest, IsTail b) ∧ Front.of a rest = .cut := by
  unfold Front.of
  by_cases ha : a < 0x80
  · rw [if_pos ha]
    have hlt : a.toNat < 0x80 := UInt8.lt_iff_toNat_lt.mp ha
    refine .inl ⟨_, [], rest, rfl, ?_, rfl⟩
    unfold String.utf8EncodeChar
    dsimp only
    rw [toNat_ofNat (.inl (by omega)), if_pos (Nat.le_of_lt_succ hlt), UInt8.ofNat_toNat]
  rw [if_neg ha]
  cases hlead : Lead.ofOctet? a with
  | none => exact .inr (.inl ⟨[], rest, rfl, by simp, rfl⟩)
  | some lead =>
    cases rest with
    | nil => exact .inr (.inr ⟨by simp, rfl⟩)
    | cons b rest =>
      dsimp only
      by_cases hb : lead.low ≤ b ∧ b ≤ lead.high
      · have htail := isTail_of_ofOctet? hlead hb
        obtain ⟨t, ht, rfl⟩ := htail.exists_tailOctet
        rw [if_pos hb, tailOctet_mod, Nat.mod_eq_of_lt ht]
        rw [le_tailOctet, tailOctet_le, Nat.mod_eq_of_lt ht] at hb
        rcases tails_cases 2 (lead.bits * 64 + t) (lead.tails - 1) rest with
          ⟨ts, tail, rfl, hlength, hts, h⟩ | ⟨ts, tail, rfl, hts, h⟩ | ⟨hts, h⟩
        · refine .inl ⟨_, tailOctet t :: ts.map tailOctet, tail, rfl,
            utf8EncodeChar_of_lead hlead ht hb.1 hb.2 hlength hts, ?_⟩
          rw [h, List.length_cons, List.length_map, hlength, Nat.add_comm 2]
        · refine .inr (.inl ⟨tailOctet t :: ts, tail, rfl,
            List.forall_mem_cons.mpr ⟨htail, hts⟩, ?_⟩)
          rw [h, List.length_cons, Nat.add_comm 2]
        · exact .inr (.inr ⟨List.forall_mem_cons.mpr ⟨htail, hts⟩, h⟩)
      · rw [if_neg hb]
        exact .inr (.inl ⟨[], b :: rest, rfl, by simp, rfl⟩)

/-- No character begins where none is found. -/
theorem not_prefix_of_front (h : ∀ c width, Front.of a rest ≠ .char c width) (c : Char) :
    ¬ String.utf8EncodeChar c <+: a :: rest := by
  rintro ⟨tail, htail⟩
  obtain ⟨a', more, hc, hfront⟩ := exists_front c
  rw [hc, List.cons_append] at htail
  obtain ⟨rfl, rfl⟩ := List.cons.inj htail
  exact h c _ (hfront tail)

/-! ## Lenient reading -/

/-- The characters are those of the octets, but for pieces with which no character begins: an octet
and continuation octets behind it, as many as there may be. In the place of each piece there is
U+FFFD. -/
inductive Mended : List UInt8 → List Char → Prop
  | nil : Mended [] []
  | kept {octets : List UInt8} {s : List Char} (c : Char) (h : Mended octets s) :
      Mended (String.utf8EncodeChar c ++ octets) (c :: s)
  | replaced {a : UInt8} {ts octets : List UInt8} {s : List Char} (hts : ∀ b ∈ ts, IsTail b)
      (hnone : ∀ c, ¬ String.utf8EncodeChar c <+: a :: (ts ++ octets)) (h : Mended octets s) :
      Mended (a :: (ts ++ octets)) (replacement :: s)

/-- A lenient reading mends the octets. -/
theorem mended_lossy (octets : List UInt8) : Mended octets (lossy octets) := by
  match octets with
  | [] => exact .nil
  | a :: rest =>
    rw [lossy, lossyFrom]
    rcases of_cases a rest with
      ⟨c, more, tail, hrest, hc, h⟩ | ⟨ts, tail, hrest, hts, h⟩ | ⟨hts, h⟩
    · have htail := mended_lossy tail
      rw [h, hrest]
      dsimp only
      rw [Nat.add_sub_cancel, lossyFrom_skip, ← List.cons_append, ← hc]
      exact .kept c htail
    · have htail := mended_lossy tail
      have hnone : ∀ c, ¬ String.utf8EncodeChar c <+: a :: rest :=
        not_prefix_of_front (by simp [h])
      rw [h]
      dsimp only
      rw [hrest] at hnone ⊢
      rw [Nat.add_sub_cancel, lossyFrom_skip]
      exact .replaced hts hnone htail
    · rw [h]
      have hnone : ∀ c, ¬ String.utf8EncodeChar c <+: a :: rest :=
        not_prefix_of_front (by simp [h])
      rw [← List.append_nil rest] at hnone ⊢
      exact .replaced hts hnone .nil
termination_by octets.length
decreasing_by all_goals rw [hrest, List.length_cons, List.length_append]; omega

/-- Octets that needed no mending are those of the characters. -/
theorem Mended.eq_or_mem (h : Mended octets s) : octets = encode s ∨ replacement ∈ s := by
  induction h with
  | nil => exact .inl rfl
  | kept c _ ih =>
    rcases ih with rfl | hmem
    · exact .inl (encode_cons ..).symm
    · exact .inr (List.mem_cons_of_mem _ hmem)
  | replaced => exact .inr List.mem_cons_self

theorem isValidUTF8_iff : octets.toByteArray.IsValidUTF8 ↔ encode (lossy octets) = octets := by
  constructor
  · rintro ⟨s, hs⟩
    obtain rfl : octets = encode s := List.toByteArray_inj.mp hs
    rw [lossy_encode]
  · intro h
    rw [← h]
    exact isValidUTF8_encode _

/-- Octets that are not UTF-8 are not what is read from them, in which there is U+FFFD. -/
theorem replacement_mem_lossy (h : ¬ octets.toByteArray.IsValidUTF8) :
    replacement ∈ lossy octets :=
  (mended_lossy octets).eq_or_mem.resolve_left fun he ↦ h (isValidUTF8_iff.mpr he.symm)

end Lockstep.Utf8
