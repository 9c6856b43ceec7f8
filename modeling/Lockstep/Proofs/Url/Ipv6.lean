import Lockstep.Proofs.Number.Digits
import Lockstep.Proofs.Text.Pieces
import Lockstep.Url.Ipv6
import Mathlib.Data.List.TakeWhile

/-!
# IPv6 addresses read back

Whatever is read as an address are eight numbers of 16 bits, and the text of eight such numbers is
read as the same numbers. The two colons in it stand for as many zeros as are missing, which are
those of the longest row.
-/

namespace Lockstep.Ipv6

variable {s : List Char} {ns : List Nat} {n : Nat}

/-! ## Bounds -/

/-- The numbers that make up an address. -/
structure IsAddress (ns : List Nat) : Prop where
  length_eq : ns.length = 8
  lt : ∀ n ∈ ns, n < 0x10000

theorem lt_of_group? (h : group? s = some n) : n < 0x10000 := by
  unfold group? at h
  split at h
  · exact Nat.lt_of_lt_of_le (Digits.lt_of_read? h) (Nat.pow_le_pow_right (n := 16) (by decide) ‹_›)
  · cases h

theorem lt_of_octet? (h : octet? s = some n) : n < 256 := by
  obtain ⟨m, -, h⟩ := Option.bind_eq_some_iff.mp h
  split at h
  · rename_i hm
    cases h
    exact hm.1
  · cases h

theorem lt_of_embedded? (h : embedded? s = some ns) : ∀ n ∈ ns, n < 0x10000 := by
  obtain ⟨octets, hoctets, h⟩ := Option.bind_eq_some_iff.mp h
  have hlt : ∀ n ∈ octets, n < 256 := by
    intro n hn
    obtain ⟨p, -, hp⟩ := List.mem_map.mp (Text.mapM_eq_some_iff.mp hoctets ▸ List.mem_map_of_mem hn)
    exact lt_of_octet? hp
  split at h
  · cases h
    simp only [List.forall_mem_cons] at hlt ⊢
    obtain ⟨ha, hb, hc, hd, -⟩ := hlt
    exact ⟨by omega, by omega, nofun⟩
  · cases h

theorem lt_of_numbers? {isEnd : Bool} {fields : List (List Char)}
    (h : numbers? isEnd fields = some ns) : ∀ n ∈ ns, n < 0x10000 := by
  fun_induction numbers? isEnd fields generalizing ns with
  | case1 =>
    cases h
    exact nofun
  | case2 => exact lt_of_embedded? h
  | case3 => cases h
  | case4 s _ =>
    obtain ⟨n, hn, rfl⟩ := Option.map_eq_some_iff.mp h
    exact List.forall_mem_singleton.mpr (lt_of_group? hn)
  | case5 s rest _ ih =>
    obtain ⟨n, hn, h⟩ := Option.bind_eq_some_iff.mp h
    obtain ⟨ms, hms, h⟩ := Option.bind_eq_some_iff.mp h
    cases h
    exact List.forall_mem_cons.mpr ⟨lt_of_group? hn, ih hms⟩

theorem isAddress_of_parse? (h : parse? s = some ns) : IsAddress ns := by
  obtain ⟨fields, -, h⟩ := Option.bind_eq_some_iff.mp h
  dsimp only at h
  split at h
  · obtain ⟨ms, hms, h⟩ := Option.bind_eq_some_iff.mp h
    split at h
    · cases h
      exact ⟨‹_›, lt_of_numbers? hms⟩
    · cases h
  · obtain ⟨front, hfront, h⟩ := Option.bind_eq_some_iff.mp h
    obtain ⟨back, hback, h⟩ := Option.bind_eq_some_iff.mp h
    split at h
    · cases h
      refine ⟨?_, fun n hn ↦ ?_⟩
      · rw [List.length_append, List.length_append, List.length_replicate]
        omega
      · rw [List.mem_append, List.mem_append] at hn
        rcases hn with (hn | hn) | hn
        · exact lt_of_numbers? hfront n hn
        · rw [List.eq_of_mem_replicate hn]
          decide
        · exact lt_of_numbers? hback n hn
    · cases h

/-! ## The longest row of zeros -/

/-- What stands before the longest row, the zeros of the row, and what stands after it. -/
theorem eq_append_longestZeros (ns : List Nat) :
    ns = ns.take (longestZeros ns).1 ++ List.replicate (longestZeros ns).2 0 ++
      ns.drop ((longestZeros ns).1 + (longestZeros ns).2) := by
  induction ns with
  | nil => rfl
  | cons n rest ih =>
    unfold longestZeros
    dsimp only
    split
    · have hrow : (n :: rest).takeWhile (· = 0) = List.replicate (zeros (n :: rest)) 0 :=
        List.eq_replicate_iff.mpr ⟨rfl, fun m hm ↦ by
          simpa using List.mem_takeWhile_imp hm⟩
      rw [List.take_zero, List.nil_append, Nat.zero_add, ← hrow]
      exact (List.prefix_iff_eq_append.mp (List.takeWhile_prefix _)).symm
    · rw [List.take_succ_cons, Nat.add_right_comm, List.drop_succ_cons, List.cons_append,
        List.cons_append, ← ih]

/-! ## Fields -/

/-- The fields of a row of numbers. -/
def fieldsOf (ns : List Nat) : List (List Char) := ns.map (Nat.toDigits 16)

theorem ne_nil_of_mem_fieldsOf {p : List Char} (h : p ∈ fieldsOf ns) : p ≠ [] := by
  obtain ⟨n, -, rfl⟩ := List.mem_map.mp h
  exact Nat.toDigits_ne_nil

theorem group?_toDigits (h : n < 0x10000) : group? (Nat.toDigits 16 n) = some n := by
  have hlength : (Nat.toDigits 16 n).length ≤ 4 :=
    (Nat.length_toDigits_le_iff (by decide) (by decide)).mpr h
  rw [group?, if_pos hlength, Digits.read?_toDigits (by decide) (by decide)]

theorem numbers?_fieldsOf (isEnd : Bool) (h : ∀ n ∈ ns, n < 0x10000) :
    numbers? isEnd (fieldsOf ns) = some ns := by
  induction ns with
  | nil => rfl
  | cons n ns ih =>
    obtain ⟨hn, hns⟩ := List.forall_mem_cons.mp h
    cases ns with
    | nil =>
      have hdot : ¬(Nat.toDigits 16 n).contains '.' = true := by
        rw [List.contains_iff_mem]
        exact fun hmem ↦ Digits.ne_of_mem_toDigits (by decide) (by decide) (by decide) hmem rfl
      change numbers? isEnd [Nat.toDigits 16 n] = _
      rw [numbers?, if_neg hdot, group?_toDigits hn]
      rfl
    | cons m ms =>
      change numbers? isEnd (Nat.toDigits 16 n :: Nat.toDigits 16 m :: fieldsOf ms) = _
      rw [numbers?, group?_toDigits hn]
      · change ((numbers? isEnd (fieldsOf (m :: ms))).bind _) = _
        rw [ih hns]
        rfl
      · exact nofun

theorem ne_colon_of_mem_fieldsOf {p : List Char} (hp : p ∈ fieldsOf ns) :
    ∀ c ∈ p, decide (c = ':') = false := by
  obtain ⟨n, -, rfl⟩ := List.mem_map.mp hp
  exact fun c hc ↦
    decide_eq_false (Digits.ne_of_mem_toDigits (by decide) (by decide) (by decide) hc)

/-- The pieces of a text with these fields. It has one empty piece if it has no fields. -/
def piecesOf (fields : List (List Char)) : List (List Char) := if fields = [] then [[]] else fields

theorem reverse_piecesOf (fields : List (List Char)) :
    (piecesOf fields).reverse = piecesOf fields.reverse := by
  unfold piecesOf
  simp only [List.reverse_eq_nil_iff, apply_ite List.reverse, List.reverse_singleton]

theorem pieces_groups (ns : List Nat) :
    Text.pieces (· = ':') (groups ns) = piecesOf (fieldsOf ns) := by
  unfold piecesOf
  split
  · rw [groups, show ns.map (Nat.toDigits 16) = [] from ‹_›]
    rfl
  · exact Text.pieces_join ‹_› (fun p ↦ ne_colon_of_mem_fieldsOf) (decide_eq_true rfl)

theorem pieces_groups_append (ns : List Nat) (rest : List Char) :
    Text.pieces (· = ':') (groups ns ++ ':' :: rest) =
      piecesOf (fieldsOf ns) ++ Text.pieces (· = ':') rest := by
  unfold piecesOf
  split
  · rw [groups, show ns.map (Nat.toDigits 16) = [] from ‹_›]
    rfl
  · exact Text.pieces_join_append ‹_› (fun p ↦ ne_colon_of_mem_fieldsOf) (decide_eq_true rfl) rest

/-! ## Two colons -/

variable {fields : List (List Char)}

theorem openStart?_of_ne_nil (h : ∀ p ∈ fields, p ≠ []) : openStart? fields = some fields := by
  unfold openStart?
  split
  · exact absurd rfl (h [] List.mem_cons_self)
  · exact absurd rfl (h [] List.mem_cons_self)
  · rfl

/-- Where no field stands before two colons, the empty piece at the start is left out. -/
theorem openStart?_piecesOf (h : ∀ p ∈ fields, p ≠ []) (rest : List (List Char)) :
    openStart? (piecesOf fields ++ [] :: rest) = some (fields ++ [] :: rest) := by
  cases fields with
  | nil => rfl
  | cons p fields =>
    rw [piecesOf, if_neg (List.cons_ne_nil p fields)]
    cases p with
    | nil => exact absurd rfl (h [] List.mem_cons_self)
    | cons c p => rfl

theorem openEnds?_of_ne_nil (h : ∀ p ∈ fields, p ≠ []) : openEnds? fields = some fields := by
  unfold openEnds?
  rw [openStart?_of_ne_nil h, Option.bind_eq_bind, Option.bind_some,
    openStart?_of_ne_nil fun p hp ↦ h p (List.mem_reverse.mp hp)]
  exact congrArg some (List.reverse_reverse fields)

theorem openEnds?_piecesOf {back : List (List Char)} (h : ∀ p ∈ fields, p ≠ [])
    (hback : ∀ p ∈ back, p ≠ []) :
    openEnds? (piecesOf fields ++ [] :: piecesOf back) = some (fields ++ [] :: back) := by
  have hreverse (front : List (List Char)) : (front ++ [] :: piecesOf back).reverse =
      piecesOf back.reverse ++ [] :: front.reverse := by
    rw [List.reverse_append, List.reverse_cons, reverse_piecesOf, List.append_assoc]
    rfl
  unfold openEnds?
  rw [openStart?_piecesOf h, Option.bind_eq_bind, Option.bind_some, hreverse,
    openStart?_piecesOf fun p hp ↦ hback p (List.mem_reverse.mp hp)]
  refine congrArg some ?_
  rw [List.reverse_append, List.reverse_cons, List.reverse_reverse, List.reverse_reverse,
    List.append_assoc]
  rfl

/-! ## Reading the text -/

/-- The text of an address is made of digits and colons. -/
theorem mem_text {c : Char} (h : c ∈ text ns) : c = ':' ∨ ∃ d < 16, c = Nat.digitChar d := by
  have hgroups {ms : List Nat} (h : c ∈ groups ms) : c = ':' ∨ ∃ d < 16, c = Nat.digitChar d := by
    rcases Text.mem_join h with h | ⟨p, hp, hc⟩
    · exact .inl h
    · obtain ⟨n, -, rfl⟩ := List.mem_map.mp hp
      exact .inr (Digits.exists_of_mem_toDigits (by decide) hc)
  unfold text at h
  dsimp only at h
  split at h
  · exact hgroups h
  · rw [List.mem_append, List.mem_append] at h
    rcases h with (h | h) | h
    · exact hgroups h
    · exact .inl (by simpa using h)
    · exact hgroups h

theorem parse?_groups (h : IsAddress ns) : parse? (groups ns) = some ns := by
  have hne : fieldsOf ns ≠ [] := by
    intro hnil
    have := h.length_eq
    rw [List.map_eq_nil_iff.mp hnil] at this
    cases this
  have hnumbers := numbers?_fieldsOf true h.lt
  unfold parse?
  rw [pieces_groups, piecesOf, if_neg hne, openEnds?_of_ne_nil fun p ↦ ne_nil_of_mem_fieldsOf,
    Option.bind_eq_bind, Option.bind_some]
  dsimp only
  have hall : ∀ p ∈ fieldsOf ns, decide (p ≠ []) = true := fun p hp ↦
    decide_eq_true (ne_nil_of_mem_fieldsOf hp)
  rw [List.takeWhile_eq_self_iff.mpr hall, List.dropWhile_eq_nil_iff.mpr hall]
  dsimp only
  rw [hnumbers, Option.bind_eq_bind, Option.bind_some]
  exact if_pos h.length_eq

/-- The two colons are read as the zeros that are missing. -/
theorem parse?_gap {front back : List Nat} {gap : Nat} (hgap : 0 < gap)
    (h : IsAddress (front ++ List.replicate gap 0 ++ back)) :
    parse? (groups front ++ [':', ':'] ++ groups back) =
      some (front ++ List.replicate gap 0 ++ back) := by
  have hlength : front.length + gap + back.length = 8 := by
    rw [← h.length_eq, List.length_append, List.length_append, List.length_replicate]
  have hfront : numbers? false (fieldsOf front) = some front := numbers?_fieldsOf false fun n hn ↦
    h.lt n (List.mem_append_left _ (List.mem_append_left _ hn))
  have hback : numbers? true (fieldsOf back) = some back := numbers?_fieldsOf true fun n hn ↦
    h.lt n (List.mem_append_right _ hn)
  have hall : ∀ p ∈ fieldsOf front, decide (p ≠ []) = true := fun p hp ↦
    decide_eq_true (ne_nil_of_mem_fieldsOf hp)
  have hpieces : Text.pieces (· = ':') (groups front ++ [':', ':'] ++ groups back) =
      piecesOf (fieldsOf front) ++ [] :: piecesOf (fieldsOf back) := by
    rw [List.append_assoc, List.cons_append, pieces_groups_append, List.singleton_append,
      Text.pieces, if_pos (decide_eq_true rfl), pieces_groups]
  unfold parse?
  rw [hpieces, openEnds?_piecesOf (fun p ↦ ne_nil_of_mem_fieldsOf) fun p ↦ ne_nil_of_mem_fieldsOf,
    Option.bind_eq_bind, Option.bind_some]
  dsimp only
  rw [List.takeWhile_append_of_pos hall, List.dropWhile_append_of_pos hall,
    List.takeWhile_cons_of_neg (by simp), List.dropWhile_cons_of_neg (by simp), List.append_nil]
  dsimp only
  rw [hfront, hback]
  refine (if_pos (?_ : front.length + back.length ≤ 7)).trans ?_
  · omega
  · rw [show 8 - (front.length + back.length) = gap by omega]
    rfl

theorem parse?_text (h : IsAddress ns) : parse? (text ns) = some ns := by
  have hns := eq_append_longestZeros ns
  unfold text
  dsimp only
  split
  · exact parse?_groups h
  · rw [hns] at h
    exact (parse?_gap (by omega) h).trans (congrArg some hns.symm)

/-- Of two rows of zeros equally long the first is left out. -/
example : text [0x2001, 0xDB8, 0, 0, 1, 0, 0, 1] = "2001:db8::1:0:0:1".toList := by decide

end Lockstep.Ipv6
