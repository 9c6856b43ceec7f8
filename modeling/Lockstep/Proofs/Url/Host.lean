import Lockstep.Proofs.Idna.Domain
import Lockstep.Proofs.Text.Utf8
import Lockstep.Proofs.Url.Ipv4
import Lockstep.Proofs.Url.Ipv6
import Lockstep.Url.Host

/-!
# Hosts read back

The text of a host that was read is read as the same host. A name was put in ASCII, where it stays;
an address is written in full, in the one way that is chosen for it.
-/

namespace Lockstep

/-! ## Octets without percent signs -/

theorem Percent.decode_of_none {octets : List UInt8} (h : 0x25 ∉ octets) :
    decode octets = octets := by
  fun_induction decode octets with
  | case1 a b c rest high low _ hlow =>
    split at hlow
    · subst a
      exact absurd List.mem_cons_self h
    · cases hlow
  | case2 a b c rest _ ih => rw [ih (fun hmem ↦ h (List.mem_cons_of_mem a hmem))]
  | case3 => rfl

namespace Host

variable {s : List Char} {h : Host}

/-! ## Names -/

/-- A plain name that stays as it is when it is put in ASCII. -/
theorem nameText_of_isPlain (hascii : Idna.toAscii? s = some s) (hplain : ∀ c ∈ s, Idna.IsPlain c)
    (hne : s ≠ []) : nameText s = .ok s := by
  have hpercent : 0x25 ∉ Utf8.encode s := by
    intro hmem
    have := (hplain _ (Utf8.mem_of_mem_encode (by decide) hmem)).allowed
    exact absurd this (by decide)
  unfold nameText
  rw [Percent.decode_of_none hpercent, Utf8.decode_encode]
  dsimp only
  rw [hascii]
  split
  · cases ‹_›
  · cases ‹_›
    exact absurd rfl hne
  · cases ‹_›
    rfl

theorem isPlain_of_nameText {name : List Char} (hname : nameText s = .ok name) :
    Idna.toAscii? name = some name ∧ (∀ c ∈ name, Idna.IsPlain c) ∧ name ≠ [] := by
  unfold nameText at hname
  split at hname
  · cases hname
  split at hname
  · cases hname
  · cases hname
  · rename_i hne hascii
    cases hname
    obtain ⟨hsame, hplain⟩ := Idna.toAscii?_ascii hascii
    exact ⟨hsame, hplain, hne⟩

theorem bracketed?_of_isPlain (hplain : ∀ c ∈ s, Idna.IsPlain c) : bracketed? s = none := by
  unfold bracketed?
  split
  · exact absurd (hplain '[' List.mem_cons_self).allowed (by decide)
  · rfl

/-! ## What is read -/

/-- What a host that was read is like. -/
inductive IsRead : Host → Prop
  | domain {name : List Char} (ascii : Idna.toAscii? name = some name)
    (plain : ∀ c ∈ name, Idna.IsPlain c) (ne_nil : name ≠ [])
    (numeric : Ipv4.isNumeric name = false) : IsRead (domain name)
  | ipv4 {address : Nat} (lt : address < 256 ^ 4) : IsRead (ipv4 address)
  | ipv6 {numbers : List Nat} (address : Ipv6.IsAddress numbers) : IsRead (ipv6 numbers)

theorem isAddress_of_bracketed? {numbers : List Nat} (hread : bracketed? s = some (.ok numbers)) :
    Ipv6.IsAddress numbers := by
  unfold bracketed? at hread
  split at hread
  · replace hread := Option.some.inj hread
    split at hread
    · rename_i ns hns
      cases hread
      split at hns
      · exact Ipv6.isAddress_of_parse? hns
      · cases hns
    · cases hread
  · cases hread

theorem isRead_of_parse (hread : parse s = .ok h) : IsRead h := by
  unfold parse at hread
  split at hread
  · rename_i hr
    obtain ⟨numbers, rfl, rfl⟩ := Halt.map_eq_ok.mp hread
    exact .ipv6 (isAddress_of_bracketed? hr)
  · obtain ⟨name, hname, hread⟩ := Halt.bind_eq_ok.mp hread
    obtain ⟨hascii, hplain, hne⟩ := isPlain_of_nameText hname
    split at hread
    · split at hread
      · rename_i address haddress
        cases hread
        exact .ipv4 (Ipv4.lt_of_parse? haddress)
      · cases hread
    · cases hread
      exact .domain hascii hplain hne (Bool.eq_false_iff.mpr ‹_›)

theorem text_ne_nil (hread : IsRead h) : h.text ≠ [] := by
  cases hread with
  | domain _ _ hne => exact hne
  | ipv4 => exact Ipv4.text_ne_nil _
  | ipv6 => exact nofun

/-! ## Reading the text -/

theorem isPlain_decimal : ∀ d < 10, Idna.IsPlain (Nat.digitChar d) ∧ Nat.digitChar d ≠ 'x' := by
  decide

theorem isPlain_of_mem_ipv4 {address : Nat} {c : Char} (hc : c ∈ Ipv4.text address) :
    Idna.IsPlain c := by
  rcases Ipv4.mem_text hc with rfl | ⟨d, hd, rfl⟩
  · decide
  · exact (isPlain_decimal d hd).1

/-- An address is in ASCII as it stands: no label of it begins as Punycode does. -/
theorem toAscii?_ipv4 (address : Nat) :
    Idna.toAscii? (Ipv4.text address) = some (Ipv4.text address) := by
  let label (n : Nat) : Idna.Label := ⟨Nat.toDigits 10 n, Nat.toDigits 10 n⟩
  have hdecimal {n : Nat} {c : Char} (hc : c ∈ Nat.toDigits 10 n) :
      Idna.IsPlain c ∧ c ≠ 'x' := by
    obtain ⟨d, hd, rfl⟩ := Digits.exists_of_mem_toDigits (by decide) hc
    exact isPlain_decimal d hd
  have hlabels : (Text.pieces (· = '.') (Ipv4.text address)).map Idna.Label.ofSpelling? =
      ((Ipv4.octets address).map label).map some := by
    rw [Ipv4.pieces_text, List.map_map, List.map_map]
    exact List.map_congr_left fun n _ ↦ Idna.ofSpelling?_of_isPlain (fun c hc ↦ (hdecimal hc).1)
      fun hx ↦ (hdecimal hx).2 rfl
  have hrule : Idna.KeepsRule ((Ipv4.octets address).map label) := by
    refine Idna.keepsRule_of_isPlain fun l hl c hc ↦ ?_
    obtain ⟨n, -, rfl⟩ := List.mem_map.mp hl
    exact (hdecimal hc).1
  exact Idna.toAscii?_of_isPlain (fun c ↦ isPlain_of_mem_ipv4) hlabels hrule

theorem parse_ipv4 {address : Nat} (hlt : address < 256 ^ 4) :
    parse (ipv4 address).text = .ok (ipv4 address) := by
  have hplain : ∀ c ∈ Ipv4.text address, Idna.IsPlain c := fun c ↦ isPlain_of_mem_ipv4
  have hname : nameText (Ipv4.text address) = .ok (Ipv4.text address) :=
    nameText_of_isPlain (toAscii?_ipv4 address) hplain (Ipv4.text_ne_nil address)
  change parse (Ipv4.text address) = _
  rw [parse, bracketed?_of_isPlain hplain]
  dsimp only
  rw [hname]
  change (if _ then _ else _) = _
  rw [if_pos (Ipv4.isNumeric_text address), Ipv4.parse?_text hlt]
  rfl

theorem parse_ipv6 {numbers : List Nat} (haddress : Ipv6.IsAddress numbers) :
    parse (ipv6 numbers).text = .ok (ipv6 numbers) := by
  change parse ('[' :: (Ipv6.text numbers ++ [']'])) = _
  rw [parse, bracketed?]
  dsimp only
  rw [List.getLast?_concat, if_pos rfl, List.dropLast_concat, Ipv6.parse?_text haddress]
  rfl

/-- The text of a host that was read is read as the same host. -/
theorem parse_text (hread : IsRead h) : parse h.text = .ok h := by
  cases hread with
  | domain hascii hplain hne hnumeric =>
    rw [text, parse, bracketed?_of_isPlain hplain]
    dsimp only
    rw [nameText_of_isPlain hascii hplain hne]
    change (if _ then _ else _) = _
    rw [if_neg (by rw [hnumeric]; decide)]
    rfl
  | ipv4 hlt => exact parse_ipv4 hlt
  | ipv6 haddress => exact parse_ipv6 haddress

end Host

end Lockstep
