import Lockstep.Proofs.Number.Digits
import Lockstep.Proofs.Text.Pieces
import Lockstep.Url.Ipv4

/-!
# IPv4 addresses read back

Whatever is read as an address fits in 32 bits, and the four octets that are written of it are read
as the same address.
-/

namespace Lockstep.Ipv4

variable {s : List Char} {address : Nat}

/-! ## Bounds -/

theorem foldl_octets_lt {ns : List Nat} (h : ∀ n ∈ ns, n < 256) (start : Nat) :
    ns.foldl (fun a n ↦ a * 256 + n) start < (start + 1) * 256 ^ ns.length := by
  induction ns generalizing start with
  | nil => simp
  | cons n ns ih =>
    obtain ⟨hn, hns⟩ := List.forall_mem_cons.mp h
    calc ns.foldl (fun a n ↦ a * 256 + n) (start * 256 + n)
        < (start * 256 + n + 1) * 256 ^ ns.length := ih hns _
      _ ≤ ((start + 1) * 256) * 256 ^ ns.length := Nat.mul_le_mul_right _ (by omega)
      _ = (start + 1) * 256 ^ (ns.length + 1) := by rw [Nat.mul_assoc, Nat.pow_succ']

theorem lt_of_ofNumbers? {ns : List Nat} (h : ofNumbers? ns = some address) :
    address < 256 ^ 4 := by
  unfold ofNumbers? at h
  split at h
  · cases h
  · rename_i last before _
    dsimp only at h
    split at h
    · rename_i hfits
      obtain ⟨hlength, hlast, hbefore⟩ := hfits
      cases h
      have hoctets : ∀ n ∈ before.reverse, n < 256 := fun n hn ↦
        of_decide_eq_true (List.all_eq_true.mp hbefore n (List.mem_reverse.mp hn))
      have hfold := foldl_octets_lt hoctets 0
      rw [Nat.zero_add, Nat.one_mul, List.length_reverse] at hfold
      calc _ * 256 ^ (4 - before.length) + last
          < (before.reverse.foldl (fun a n ↦ a * 256 + n) 0 + 1) * 256 ^ (4 - before.length) := by
            rw [Nat.add_mul, Nat.one_mul]
            exact Nat.add_lt_add_left hlast _
        _ ≤ 256 ^ before.length * 256 ^ (4 - before.length) := Nat.mul_le_mul_right _ hfold
        _ = 256 ^ 4 := by rw [← Nat.pow_add, Nat.add_sub_cancel' (Nat.le_of_lt hlength)]
    · cases h

/-- An address fits in 32 bits. -/
theorem lt_of_parse? (h : parse? s = some address) : address < 256 ^ 4 := by
  obtain ⟨numbers, -, h⟩ := Option.bind_eq_some_iff.mp h
  exact lt_of_ofNumbers? h

/-! ## The text of an address -/

/-- The octets of an address, the most significant first. -/
def octets (address : Nat) : List Nat :=
  [address / 0x1000000, address / 0x10000 % 256, address / 256 % 256, address % 256]

theorem octets_lt (h : address < 256 ^ 4) : ∀ n ∈ octets address, n < 256 := by
  unfold octets
  simp only [List.forall_mem_cons]
  refine ⟨?_, ?_, ?_, ?_, nofun⟩ <;> omega

/-- The text of an address is made of digits and full stops. -/
theorem mem_text {c : Char} (h : c ∈ text address) : c = '.' ∨ ∃ d < 10, c = Nat.digitChar d := by
  rcases Text.mem_join h with h | ⟨p, hp, hc⟩
  · exact .inl h
  · obtain ⟨n, -, rfl⟩ := List.mem_map.mp hp
    exact .inr (Digits.exists_of_mem_toDigits (by decide) hc)

theorem ne_dot_of_mem_toDigits {n : Nat} {c : Char} (h : c ∈ Nat.toDigits 10 n) : c ≠ '.' :=
  Digits.ne_of_mem_toDigits (by decide) (by decide) (by decide) h

theorem pieces_text (address : Nat) :
    Text.pieces (· = '.') (text address) = (octets address).map (Nat.toDigits 10) := by
  refine Text.pieces_join nofun (fun p hp c hc ↦ ?_) (decide_eq_true rfl)
  obtain ⟨n, -, rfl⟩ := List.mem_map.mp hp
  exact decide_eq_false (ne_dot_of_mem_toDigits hc)

theorem text_ne_nil (address : Nat) : text address ≠ [] := by
  intro h
  have hpieces := pieces_text address
  rw [h] at hpieces
  cases congrArg List.length hpieces

theorem parts_text (address : Nat) :
    parts (text address) = (octets address).map (Nat.toDigits 10) := by
  unfold parts
  rw [pieces_text]
  exact if_neg fun h ↦ Nat.toDigits_ne_nil (Option.some.inj h)

/-- The text of an address ends with a number, so it is read as an address. -/
theorem isNumeric_text (address : Nat) : isNumeric (text address) = true := by
  have hdigits : (Nat.toDigits 10 (address % 256)).all Char.isDigit = true :=
    List.all_eq_true.mpr fun c hc ↦ Nat.isDigit_of_mem_toDigits (by decide) (by decide) hc
  unfold isNumeric
  rw [parts_text]
  change (decide (Nat.toDigits 10 (address % 256) ≠ []) &&
    (Nat.toDigits 10 (address % 256)).all Char.isDigit || _) = true
  rw [decide_eq_true Nat.toDigits_ne_nil, hdigits]
  rfl

/-- An octet is written without a zero before it, which would make it octal. -/
theorem number?_toDigits : ∀ n < 256, number? (Nat.toDigits 10 n) = some n := by decide +kernel

theorem ofNumbers?_octets (h : address < 256 ^ 4) : ofNumbers? (octets address) = some address := by
  have hlt := octets_lt h
  have hvalue : ((address / 0x1000000) * 256 + address / 0x10000 % 256) * 256 +
      address / 256 % 256 = address / 256 := by omega
  unfold octets at hlt ⊢
  simp only [List.forall_mem_cons] at hlt
  obtain ⟨h₀, h₁, h₂, h₃, -⟩ := hlt
  unfold ofNumbers?
  simp only [List.reverse_cons, List.reverse_nil, List.nil_append, List.cons_append,
    List.length_cons, List.length_nil, List.all_cons, List.all_nil, List.foldl_cons,
    List.foldl_nil, Nat.zero_mul, Nat.zero_add, hvalue]
  rw [if_pos ⟨by decide, h₃, by simp [h₀, h₁, h₂]⟩]
  exact congrArg some (Nat.div_add_mod' address 256)

theorem parse?_text (h : address < 256 ^ 4) : parse? (text address) = some address := by
  have hnumbers :
      ((octets address).map (Nat.toDigits 10)).mapM number? = some (octets address) := by
    rw [Text.mapM_eq_some_iff, List.map_map]
    exact List.map_congr_left fun n hn ↦ number?_toDigits n (octets_lt h n hn)
  unfold parse?
  rw [parts_text, hnumbers]
  exact ofNumbers?_octets h

end Lockstep.Ipv4
