import Lockstep.Text.Utf8

/-!
# Reading what was written

Both readings give back the characters whose octets are read. So octets determine the characters
that they encode, and a lenient reading is one of well-formed octets as soon as its characters are
written again.

It all rests on `exists_front`: octets that begin with those of a character have it at their front,
whatever follows.
-/

namespace Lockstep.Utf8

/-! ## Continuation octets -/

/-- The octet that continues a character with the last six bits of `n`. -/
def tailOctet (n : Nat) : UInt8 := UInt8.ofNat (n % 64 + 0x80)

theorem toNat_tailOctet (n : Nat) : (tailOctet n).toNat = n % 64 + 0x80 :=
  UInt8.toNat_ofNat_of_lt' (Nat.lt_trans (m := 0xC0) (by omega) (by decide))

theorem tailOctet_mod (n : Nat) : (tailOctet n).toNat % 64 = n % 64 := by
  rw [toNat_tailOctet]
  omega

theorem le_tailOctet {low : UInt8} {n : Nat} : low ≤ tailOctet n ↔ low.toNat ≤ n % 64 + 0x80 := by
  rw [UInt8.le_iff_toNat_le, toNat_tailOctet]

theorem tailOctet_le {high : UInt8} {n : Nat} :
    tailOctet n ≤ high ↔ n % 64 + 0x80 ≤ high.toNat := by
  rw [UInt8.le_iff_toNat_le, toNat_tailOctet]

theorem tailOctet_mem (n : Nat) : 0x80 ≤ tailOctet n ∧ tailOctet n ≤ 0xBF := by
  rw [le_tailOctet, tailOctet_le]
  exact ⟨Nat.le_add_left .., Nat.le_of_lt_succ (Nat.add_lt_add_right (Nat.mod_lt _ (by decide)) _)⟩

theorem tails_tailOctet (width bits owed n : Nat) (rest : List UInt8) :
    Front.tails width bits (owed + 1) (tailOctet n :: rest) =
      Front.tails (width + 1) (bits * 64 + n % 64) owed rest := by
  rw [Front.tails, if_pos (tailOctet_mem n), tailOctet_mod]

/-- The first continuation octet of a character is in the range that its lead demands. -/
theorem of_tailOctet {a : UInt8} {lead : Lead} (h : Lead.ofOctet? a = some lead) {n : Nat}
    (hlow : lead.low.toNat ≤ n % 64 + 0x80) (hhigh : n % 64 + 0x80 ≤ lead.high.toNat)
    (rest : List UInt8) :
    Front.of a (tailOctet n :: rest) =
      Front.tails 2 (lead.bits * 64 + n % 64) (lead.tails - 1) rest := by
  have ha : ¬ a < 0x80 := by
    intro ha
    have hnone : Lead.ofOctet? a = none := if_pos (UInt8.lt_trans ha (by decide))
    cases h.symm.trans hnone
  unfold Front.of
  rw [if_neg ha, h]
  dsimp only
  rw [if_pos ⟨le_tailOctet.mpr hlow, tailOctet_le.mpr hhigh⟩, tailOctet_mod]

/-! ## Leads -/

theorem ofOctet?_two : ∀ n < 0x20, 2 ≤ n →
    Lead.ofOctet? (UInt8.ofNat (n + 0xC0)) = some ⟨1, 0x80, 0xBF, n⟩ := by
  decide

theorem ofOctet?_three : ∀ n < 0x10,
    Lead.ofOctet? (UInt8.ofNat (n + 0xE0)) =
      some ⟨2, if n = 0 then 0xA0 else 0x80, if n = 0xD then 0x9F else 0xBF, n⟩ := by
  decide

theorem ofOctet?_four : ∀ n < 5,
    Lead.ofOctet? (UInt8.ofNat (n + 0xF0)) =
      some ⟨3, if n = 0 then 0x90 else 0x80, if n = 4 then 0x8F else 0xBF, n⟩ := by
  decide

/-! ## One character -/

variable {v : Nat}

theorem of_one (h : v ≤ 0x7F) (rest : List UInt8) :
    Front.of (UInt8.ofNat v) rest = .char (Char.ofNat v) 1 := by
  have htoNat : (UInt8.ofNat v).toNat = v :=
    UInt8.toNat_ofNat_of_lt' (Nat.lt_of_le_of_lt h (by decide))
  have hlt : UInt8.ofNat v < 0x80 := by
    rw [UInt8.lt_iff_toNat_lt, htoNat]
    exact Nat.lt_succ_of_le h
  unfold Front.of
  rw [if_pos hlt, htoNat]

theorem of_two (h : 0x7F < v) (h' : v ≤ 0x7FF) (rest : List UInt8) :
    Front.of (UInt8.ofNat (v / 64 % 0x20 + 0xC0)) (tailOctet v :: rest) =
      .char (Char.ofNat v) 2 := by
  have hlead := ofOctet?_two (v / 64 % 0x20) (by omega) (by omega)
  have hbits : v / 64 % 0x20 * 64 + v % 64 = v := by omega
  obtain ⟨hlow, hhigh⟩ := tailOctet_mem v
  rw [of_tailOctet hlead (le_tailOctet.mp hlow) (tailOctet_le.mp hhigh)]
  dsimp only
  rw [hbits, Front.tails]

theorem of_three (h : 0x7FF < v) (h' : v < 0xD800 ∨ 0xDFFF < v) (h'' : v ≤ 0xFFFF)
    (rest : List UInt8) :
    Front.of (UInt8.ofNat (v / 4096 % 0x10 + 0xE0)) (tailOctet (v / 64) :: tailOctet v :: rest) =
      .char (Char.ofNat v) 3 := by
  have hlead := ofOctet?_three (v / 4096 % 0x10) (by omega)
  have hbits : (v / 4096 % 0x10 * 64 + v / 64 % 64) * 64 + v % 64 = v := by omega
  rw [of_tailOctet hlead]
  · dsimp only
    rw [tails_tailOctet, hbits, Front.tails]
  -- Neither a character of fewer octets nor a surrogate has these octets.
  · dsimp only
    split
    · change 0xA0 ≤ _
      omega
    · exact Nat.le_add_left ..
  · dsimp only
    split
    · change _ ≤ 0x9F
      omega
    · change _ ≤ 0xBF
      omega

theorem of_four (h : 0xFFFF < v) (h' : v < 0x110000) (rest : List UInt8) :
    Front.of (UInt8.ofNat (v / 262144 % 0x08 + 0xF0))
        (tailOctet (v / 4096) :: tailOctet (v / 64) :: tailOctet v :: rest) =
      .char (Char.ofNat v) 4 := by
  have hlead := ofOctet?_four (v / 262144 % 0x08) (by omega)
  have hbits : ((v / 262144 % 0x08 * 64 + v / 4096 % 64) * 64 + v / 64 % 64) * 64 + v % 64 = v := by
    omega
  rw [of_tailOctet hlead]
  · dsimp only
    rw [tails_tailOctet, tails_tailOctet, hbits, Front.tails]
  -- Neither a character of fewer octets nor a number beyond all code points has these octets.
  · dsimp only
    split
    · change 0x90 ≤ _
      omega
    · exact Nat.le_add_left ..
  · dsimp only
    split
    · change _ ≤ 0x8F
      omega
    · change _ ≤ 0xBF
      omega

/-- Octets that begin with those of a character have it at their front. -/
theorem exists_front (c : Char) : ∃ a more, String.utf8EncodeChar c = a :: more ∧
    ∀ rest, Front.of a (more ++ rest) = .char c (more.length + 1) := by
  have hvalid : c.val.toNat < 0xD800 ∨ 0xDFFF < c.val.toNat ∧ c.val.toNat < 0x110000 := c.valid
  have hback : Char.ofNat c.val.toNat = c := Char.ofNat_toNat c
  unfold String.utf8EncodeChar
  dsimp only
  generalize c.val.toNat = v at hvalid hback
  subst hback
  split
  · exact ⟨_, [], rfl, fun rest ↦ of_one ‹_› rest⟩
  split
  · exact ⟨_, [tailOctet v], rfl, fun rest ↦ of_two (by omega) ‹_› rest⟩
  split
  · exact ⟨_, [tailOctet (v / 64), tailOctet v], rfl,
      fun rest ↦ of_three (by omega) (by omega) ‹_› rest⟩
  · exact ⟨_, [tailOctet (v / 4096), tailOctet (v / 64), tailOctet v], rfl,
      fun rest ↦ of_four (by omega) (by omega) rest⟩

/-- An octet below 0x80 is a character of its own. -/
theorem eq_of_mem_utf8EncodeChar {b : UInt8} {c : Char} (hb : b < 0x80)
    (h : b ∈ String.utf8EncodeChar c) : c = Char.ofNat b.toNat := by
  have hother {n : Nat} (hn : 0x80 ≤ n) (hn' : n < 0x100) : b ≠ UInt8.ofNat n := by
    rintro rfl
    rw [UInt8.lt_iff_toNat_lt, UInt8.toNat_ofNat_of_lt' hn'] at hb
    exact Nat.not_lt_of_le hn hb
  have hback : c = Char.ofNat c.val.toNat := (Char.ofNat_toNat c).symm
  unfold String.utf8EncodeChar at h
  dsimp only at h
  generalize c.val.toNat = v at h hback
  split at h
  · obtain rfl := List.mem_singleton.mp h
    rw [UInt8.toNat_ofNat_of_lt' (Nat.lt_of_le_of_lt ‹_› (by decide)), hback]
  -- Of the other characters no octet is below 0x80.
  split at h
  · simp only [List.mem_cons, List.not_mem_nil, or_false] at h
    rcases h with h | h <;> exact absurd h (hother (by omega) (by omega))
  split at h
  · simp only [List.mem_cons, List.not_mem_nil, or_false] at h
    rcases h with h | h | h <;> exact absurd h (hother (by omega) (by omega))
  · simp only [List.mem_cons, List.not_mem_nil, or_false] at h
    rcases h with h | h | h | h <;> exact absurd h (hother (by omega) (by omega))

/-! ## Texts -/

theorem encode_cons (c : Char) (s : List Char) :
    encode (c :: s) = String.utf8EncodeChar c ++ encode s := rfl

@[simp] theorem encode_append (s s' : List Char) : encode (s ++ s') = encode s ++ encode s' :=
  List.flatMap_append

/-- An octet below 0x80 is among those of a text only as a character of its own. -/
theorem mem_of_mem_encode {b : UInt8} {s : List Char} (hb : b < 0x80) (h : b ∈ encode s) :
    Char.ofNat b.toNat ∈ s := by
  obtain ⟨c, hc, hmem⟩ := List.mem_flatMap.mp h
  rwa [← eq_of_mem_utf8EncodeChar hb hmem]

/-- Octets that were read before are passed over. -/
theorem decodeFrom_skip (index : Nat) (front rest : List UInt8) :
    decodeFrom index front.length (front ++ rest) =
      decodeFrom (index + front.length) 0 rest := by
  induction front generalizing index with
  | nil => rfl
  | cons b front ih =>
    rw [List.cons_append, List.length_cons, decodeFrom, ih, Nat.add_assoc, Nat.add_comm 1]

theorem lossyFrom_skip (front rest : List UInt8) :
    lossyFrom front.length (front ++ rest) = lossyFrom 0 rest := by
  induction front with
  | nil => rfl
  | cons b front ih => rw [List.cons_append, List.length_cons, lossyFrom, ih]

theorem decodeFrom_encode (index : Nat) (s : List Char) :
    decodeFrom index 0 (encode s) = .ok s := by
  induction s generalizing index with
  | nil => rfl
  | cons c s ih =>
    obtain ⟨a, more, hc, hfront⟩ := exists_front c
    rw [encode_cons, hc, List.cons_append, decodeFrom, hfront]
    dsimp only
    rw [Nat.add_sub_cancel, decodeFrom_skip, ih]
    rfl

/-- A strict reading of written characters accepts them and gives them back. -/
theorem decode_encode (s : List Char) : decode (encode s) = .ok s := decodeFrom_encode 0 s

/-- A lenient reading gives back characters that are written before other octets, and goes on with
these. -/
theorem lossy_encode_append (s : List Char) (octets : List UInt8) :
    lossy (encode s ++ octets) = s ++ lossy octets := by
  induction s with
  | nil => rfl
  | cons c s ih =>
    obtain ⟨a, more, hc, hfront⟩ := exists_front c
    rw [encode_cons, hc, List.append_assoc, List.cons_append, lossy, lossyFrom, hfront]
    dsimp only
    rw [Nat.add_sub_cancel, lossyFrom_skip]
    exact congrArg (c :: ·) ih

/-- A lenient reading of written characters gives them back, without a replacement. -/
theorem lossy_encode (s : List Char) : lossy (encode s) = s := by
  calc lossy (encode s) = lossy (encode s ++ []) := by rw [List.append_nil]
    _ = s ++ lossy [] := lossy_encode_append s []
    _ = s := List.append_nil s

/-- Octets determine the characters that they encode. -/
theorem encode_injective : Function.Injective encode :=
  Function.LeftInverse.injective lossy_encode

theorem isValidUTF8_encode (s : List Char) : (encode s).toByteArray.IsValidUTF8 := ⟨s, rfl⟩

/-- Octets that are not well formed are lost with the first reading, and no more with further
ones. -/
example : lossy [0x61, 0xE2, 0x82, 0xC0] = ['a', '\uFFFD', '\uFFFD'] ∧
    lossy (encode ['a', '\uFFFD', '\uFFFD']) = ['a', '\uFFFD', '\uFFFD'] := by
  decide

end Lockstep.Utf8
