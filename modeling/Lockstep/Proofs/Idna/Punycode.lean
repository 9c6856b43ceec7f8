import Lockstep.Idna.Punycode
import Mathlib.Data.List.InsertIdx
import Mathlib.Data.List.TakeWhile

/-!
# Punycode read back

Reading gives back the text that was written. Each insertion lies ahead of the one before it, in the
order of characters and, for one character, of places; so the difference between the two is a number
that leads from the one to the other, and the digits of a number say themselves where it ends.
-/

namespace Lockstep.Punycode

/-! ## Digits -/

theorem digit?_digitChar : ∀ d < 36, digit? (digitChar d) = some d := by decide

/-- The characters of a number are digits. -/
theorem exists_of_mem_writeNumber {bias k n : Nat} {c : Char} (h : c ∈ writeNumber bias k n) :
    ∃ d < 36, c = digitChar d := by
  fun_induction writeNumber bias k n with
  | case1 k n t hlt =>
    have := threshold_le bias k
    exact ⟨n, by omega, List.mem_singleton.mp h⟩
  | case2 k n t hge ih =>
    have := one_le_threshold bias k
    have := threshold_le bias k
    rcases List.mem_cons.mp h with rfl | h
    · refine ⟨_, ?_, rfl⟩
      have := Nat.mod_lt (n - t) (y := 36 - t) (by omega)
      omega
    · exact ih h

/-- A number is read, whatever stands after it. -/
theorem readNumber?_writeNumber (bias k n factor sum : Nat) (rest : List Char) :
    readNumber? bias k factor sum (writeNumber bias k n ++ rest) =
      some (sum + n * factor, rest) := by
  fun_induction writeNumber bias k n generalizing factor sum with
  | case1 k n t hlt =>
    have := threshold_le bias k
    rw [List.singleton_append, readNumber?, digit?_digitChar n (by omega)]
    exact if_pos hlt
  | case2 k n t hge ih =>
    have hlow := one_le_threshold bias k
    have hhigh := threshold_le bias k
    have hmod := Nat.mod_lt (n - t) (y := 36 - t) (by omega)
    have hsplit : t + (n - t) % (36 - t) + (n - t) / (36 - t) * (36 - t) = n := by
      have := Nat.mod_add_div' (n - t) (36 - t)
      omega
    rw [List.cons_append, readNumber?, digit?_digitChar _ (by omega)]
    refine (if_neg (Nat.not_lt_of_le (Nat.le_add_right ..))).trans ?_
    rw [ih, Nat.add_assoc, Nat.mul_comm factor, ← Nat.mul_assoc, ← Nat.add_mul, hsplit]

/-! ## Insertions -/

/-- The place and the character of `x` come before those of `y`. -/
def Insertion.Before (x y : Insertion) : Prop :=
  x.char.toNat < y.char.toNat ∨ x.char.toNat = y.char.toNat ∧ x.place < y.place

theorem Insertion.Before.trans {x y z : Insertion} (hxy : x.Before y) (hyz : y.Before z) :
    x.Before z := by
  unfold Before at *
  omega

theorem lastGreatest_eq_none {s : List Char} (h : lastGreatest s = none) :
    ∀ c ∈ s, c.toNat < 0x80 := by
  induction s with
  | nil => exact nofun
  | cons c rest ih =>
    unfold lastGreatest at h
    split at h
    · cases h
    · rename_i hrest
      split at h
      · exact List.forall_mem_cons.mpr ⟨‹_›, ih hrest⟩
      · cases h

theorem le_char_of_lastGreatest {s : List Char} {x : Insertion} (h : lastGreatest s = some x) :
    0x80 ≤ x.char.toNat := by
  induction s generalizing x with
  | nil => cases h
  | cons c rest ih =>
    unfold lastGreatest at h
    split at h
    · rename_i y hy
      have hle := ih hy
      split at h
      · cases h
        exact hle
      · rename_i hgt
        cases h
        exact Nat.le_trans hle (Nat.le_of_not_le hgt)
    · split at h
      · cases h
      · cases h
        exact Nat.le_of_not_lt ‹_›

/-- No character is greater than the greatest, nor does an equal one stand behind it. -/
theorem before_or_eq_lastGreatest {s : List Char} {x : Insertion} (h : lastGreatest s = some x)
    {i : Nat} {c : Char} (hc : s[i]? = some c) :
    c.toNat < x.char.toNat ∨ c.toNat = x.char.toNat ∧ i ≤ x.place := by
  induction s generalizing x i with
  | nil => cases hc
  | cons d rest ih =>
    unfold lastGreatest at h
    split at h
    · rename_i y hy
      cases h
      cases i with
      | zero =>
        obtain rfl : d = c := by simpa using hc
        split
        · rename_i hle
          change d.toNat ≤ y.char.toNat at hle
          dsimp only
          omega
        · exact .inr ⟨rfl, Nat.le_refl _⟩
      | succ i =>
        have hlater := ih hy (i := i) (by simpa using hc)
        split
        · dsimp only
          omega
        · rename_i hgt
          have : y.char.toNat < d.toNat := Nat.lt_of_not_le hgt
          dsimp only
          omega
    · rename_i hrest
      split at h
      · cases h
      · rename_i hd
        cases h
        cases i with
        | zero =>
          obtain rfl : d = c := by simpa using hc
          exact .inr ⟨rfl, Nat.le_refl _⟩
        | succ i =>
          have := lastGreatest_eq_none hrest c (List.mem_of_getElem? (by simpa using hc))
          dsimp only
          omega

/-- What is inserted last of a text comes after what is inserted last of the text without it. -/
theorem before_lastGreatest {s : List Char} {x y : Insertion} (hx : lastGreatest s = some x)
    (hy : lastGreatest (s.eraseIdx x.place) = some y) : y.Before x := by
  have hchar := getElem?_lastGreatest hy
  rw [List.getElem?_eraseIdx] at hchar
  unfold Insertion.Before
  split at hchar
  · have := before_or_eq_lastGreatest hx hchar
    omega
  · have := before_or_eq_lastGreatest hx hchar
    omega

/-- The text with all characters put in, one after the other. -/
def inserted (text : List Char) (xs : List Insertion) : List Char :=
  xs.foldl (fun text x ↦ text.insertIdx x.place x.char) text

/-- The insertions lead from ASCII characters of the text to the text, in ascending order, and each
finds its place. -/
structure Spells (basic : List Char) (xs : List Insertion) (s : List Char) : Prop where
  ascii : ∀ c ∈ basic, c ∈ s ∧ c.toNat < 0x80
  inserted_eq : inserted basic xs = s
  length_eq : s.length = basic.length + xs.length
  ahead : ∀ x ∈ xs, 0x80 ≤ x.char.toNat
  ordered : xs.Pairwise Insertion.Before
  fits : ∀ i x, xs[i]? = some x → x.place ≤ basic.length + i

theorem insertions_of_none {s : List Char} (h : lastGreatest s = none) :
    insertions s = (s, []) := by
  rw [insertions]
  split
  · rfl
  · rename_i hsome
    rw [h] at hsome
    cases hsome

theorem insertions_of_some {s : List Char} {x : Insertion} (h : lastGreatest s = some x) :
    insertions s = ((insertions (s.eraseIdx x.place)).1,
      (insertions (s.eraseIdx x.place)).2 ++ [x]) := by
  rw [insertions]
  split
  · rename_i hnone
    rw [h] at hnone
    cases hnone
  · rename_i y hsome
    obtain rfl := Option.some.inj (h.symm.trans hsome)
    rfl

theorem before_of_mem_insertions {s : List Char} {x y : Insertion} (hx : lastGreatest s = some x)
    (hordered : (insertions (s.eraseIdx x.place)).2.Pairwise Insertion.Before)
    (hy : y ∈ (insertions (s.eraseIdx x.place)).2) : y.Before x := by
  cases hlast : lastGreatest (s.eraseIdx x.place) with
  | none =>
    rw [insertions_of_none hlast] at hy
    cases hy
  | some z =>
    have hz := before_lastGreatest hx hlast
    rw [insertions_of_some hlast, List.mem_append, List.mem_singleton] at hy
    rw [insertions_of_some hlast, List.pairwise_append] at hordered
    rcases hy with hy | rfl
    · exact (hordered.2.2 y hy z (List.mem_singleton_self z)).trans hz
    · exact hz

theorem insertions_spells (s : List Char) : Spells (insertions s).1 (insertions s).2 s := by
  fun_induction insertions s with
  | case1 s hnone =>
    exact ⟨fun c hc ↦ ⟨hc, lastGreatest_eq_none hnone c hc⟩, rfl, rfl, nofun, .nil, nofun⟩
  | case2 s x hx r ih =>
    have hlt := place_lt_length hx
    have hlength : (s.eraseIdx x.place).length + 1 = s.length := by
      rw [List.length_eraseIdx_of_lt hlt]
      omega
    have hchar : s[x.place] = x.char :=
      Option.some.inj ((List.getElem?_eq_getElem hlt).symm.trans (getElem?_lastGreatest hx))
    refine ⟨fun c hc ↦ ?_, ?_, ?_, fun y hy ↦ ?_, ?_, fun i y hy ↦ ?_⟩
    · obtain ⟨hmem, hascii⟩ := ih.ascii c hc
      exact ⟨List.mem_of_mem_eraseIdx hmem, hascii⟩
    · have hbefore := ih.inserted_eq
      unfold inserted at hbefore ⊢
      rw [List.foldl_append, hbefore, List.foldl_cons, List.foldl_nil, ← hchar,
        List.insertIdx_eraseIdx_getElem]
    · rw [List.length_append, ← Nat.add_assoc, ← ih.length_eq, ← hlength]
      rfl
    · rcases List.mem_append.mp hy with hy | hy
      · exact ih.ahead y hy
      · obtain rfl := List.mem_singleton.mp hy
        exact le_char_of_lastGreatest hx
    · refine List.pairwise_append.mpr ⟨ih.ordered, List.pairwise_singleton .., fun y hy z hz ↦ ?_⟩
      obtain rfl := List.mem_singleton.mp hz
      exact before_of_mem_insertions hx ih.ordered hy
    · rw [List.getElem?_append] at hy
      split at hy
      · exact ih.fits i y hy
      · have hi := (List.getElem?_eq_some_iff.mp hy).1
        rw [List.length_singleton] at hi
        rw [show i - r.2.length = 0 by omega] at hy
        cases hy
        have hcount : (s.eraseIdx x.place).length = r.1.length + r.2.length := ih.length_eq
        change x.place ≤ r.1.length + i
        omega

/-! ## Differences -/

/-- An insertion that lies ahead is where the difference leads. -/
theorem locate_difference {p : Progress} {x : Insertion} (hplace : p.place ≤ p.length)
    (hahead : p.code < x.char.toNat ∨ p.code = x.char.toNat ∧ p.place ≤ x.place)
    (hfits : x.place ≤ p.length) : p.locate (p.difference x) = (x.char.toNat, x.place) := by
  have hsum : p.place + p.difference x =
      x.place + (p.length + 1) * (x.char.toNat - p.code) := by
    unfold Progress.difference
    rw [Nat.mul_comm (p.length + 1)]
    rcases hahead with hlt | ⟨heq, hle⟩
    · have := Nat.le_mul_of_pos_left (p.length + 1) (Nat.sub_pos_of_lt hlt)
      omega
    · rw [heq, Nat.sub_self, Nat.zero_mul]
      omega
  unfold Progress.locate
  dsimp only
  rw [hsum, Nat.add_mul_div_left _ _ (Nat.succ_pos _), Nat.add_mul_mod_self_left,
    Nat.div_eq_of_lt (Nat.lt_succ_of_le hfits), Nat.mod_eq_of_lt (Nat.lt_succ_of_le hfits)]
  exact Prod.ext (by dsimp only; omega) rfl

theorem readInsertions?_of_number {p : Progress} {text s after : List Char} {d : Nat}
    (h : readNumber? p.bias 36 1 0 s = some (d, after)) :
    readInsertions? p text s =
      if (p.locate d).1.isValidChar then
        readInsertions? (p.next d (p.locate d).1 (p.locate d).2)
          (text.insertIdx (p.locate d).2 (Char.ofNat (p.locate d).1)) after
      else none := by
  cases s with
  | nil => cases h
  | cons c rest =>
    rw [readInsertions?]
    split
    · rename_i hnone
      cases h.symm.trans hnone
    · rename_i d' after' hsome
      obtain ⟨rfl, rfl⟩ := Prod.mk.inj (Option.some.inj (h.symm.trans hsome))
      rfl

/-- Reading puts the characters in again: each insertion lies ahead of where the text stands. -/
theorem readInsertions?_writeInsertions (xs : List Insertion) (p : Progress) (text : List Char)
    (hlength : text.length = p.length) (hplace : p.place ≤ p.length)
    (hahead : ∀ x ∈ xs, p.code < x.char.toNat ∨ p.code = x.char.toNat ∧ p.place ≤ x.place)
    (hordered : xs.Pairwise Insertion.Before)
    (hfits : ∀ i x, xs[i]? = some x → x.place ≤ p.length + i) :
    readInsertions? p text (writeInsertions p xs) = some (inserted text xs) := by
  induction xs generalizing p text with
  | nil => rw [writeInsertions, readInsertions?]; rfl
  | cons x xs ih =>
    obtain ⟨hx, hxs⟩ := List.pairwise_cons.mp hordered
    have hfit : x.place ≤ p.length := hfits 0 x rfl
    have hlocate := locate_difference hplace (hahead x List.mem_cons_self) hfit
    have hnumber := readNumber?_writeNumber p.bias 36 (p.difference x) 1 0
      (writeInsertions (p.next (p.difference x) x.char.toNat x.place) xs)
    rw [Nat.zero_add, Nat.mul_one] at hnumber
    rw [writeInsertions, readInsertions?_of_number hnumber, hlocate]
    dsimp only
    rw [if_pos (show x.char.toNat.isValidChar from x.char.valid), Char.ofNat_toNat]
    refine ih _ _ ?_ (Nat.succ_le_succ hfit) (fun y hy ↦ ?_) hxs fun i y hy ↦ ?_
    · rw [List.length_insertIdx_of_le_length (hlength ▸ hfit), hlength]
      rfl
    · exact hx y hy
    · have := hfits (i + 1) y hy
      change y.place ≤ p.length + 1 + i
      omega

/-! ## The parts of a written text -/

/-- What is written of insertions are digits. -/
theorem exists_of_mem_writeInsertions {p : Progress} {xs : List Insertion} {c : Char}
    (h : c ∈ writeInsertions p xs) : ∃ d < 36, c = digitChar d := by
  induction xs generalizing p with
  | nil => cases h
  | cons x xs ih =>
    rcases List.mem_append.mp h with h | h
    · exact exists_of_mem_writeNumber h
    · exact ih h

theorem ne_hyphen_of_mem_writeInsertions {p : Progress} {xs : List Insertion} {c : Char}
    (h : c ∈ writeInsertions p xs) : c ≠ '-' := by
  obtain ⟨d, hd, rfl⟩ := exists_of_mem_writeInsertions h
  exact (by decide : ∀ d < 36, digitChar d ≠ '-') d hd

theorem splitLast_of_none {s : List Char} (h : ∀ c ∈ s, c ≠ '-') : splitLast s = ([], s) := by
  have htail : (s.reverse.takeWhile (· ≠ '-')).reverse = s := by
    rw [List.takeWhile_eq_self_iff.mpr fun c hc ↦ decide_eq_true (h c (List.mem_reverse.mp hc)),
      List.reverse_reverse]
  unfold splitLast
  rw [htail]
  dsimp only
  rw [Nat.sub_self]
  rfl

theorem splitLast_append {front tail : List Char} (hfront : front ≠ [])
    (htail : ∀ c ∈ tail, c ≠ '-') : splitLast (front ++ '-' :: tail) = (front, tail) := by
  have hlast : ((front ++ '-' :: tail).reverse.takeWhile (· ≠ '-')).reverse = tail := by
    rw [List.reverse_append, List.reverse_cons, List.append_assoc,
      List.takeWhile_append_of_pos fun c hc ↦
        decide_eq_true (htail c (List.mem_reverse.mp hc)), List.singleton_append,
      List.takeWhile_cons_of_neg (by simp), List.append_nil, List.reverse_reverse]
  have hhead : (front ++ '-' :: tail).take ((front ++ '-' :: tail).length - tail.length) =
      front ++ ['-'] := by
    rw [List.append_cons, List.length_append, Nat.add_sub_cancel, List.take_left]
  unfold splitLast
  dsimp only
  rw [hlast, hhead, if_neg, List.dropLast_concat]
  rw [List.length_append, List.length_singleton]
  have := List.length_pos_iff.mpr hfront
  omega

theorem splitLast_encode (s : List Char) : splitLast (encode s) =
    ((insertions s).1, writeInsertions (.start (insertions s).1.length) (insertions s).2) := by
  unfold encode
  dsimp only
  split
  · rename_i hempty
    rw [List.nil_append, splitLast_of_none fun c ↦ ne_hyphen_of_mem_writeInsertions,
      List.isEmpty_iff.mp hempty]
  · rename_i hne
    rw [List.append_assoc, List.singleton_append, splitLast_append
      (fun hnil ↦ hne (List.isEmpty_iff.mpr hnil)) fun c ↦ ne_hyphen_of_mem_writeInsertions]

/-- The characters of a written text are ASCII: its own, hyphens, and digits. -/
theorem mem_encode {s : List Char} {c : Char} (h : c ∈ encode s) :
    (c ∈ s ∧ c.toNat < 0x80) ∨ c = '-' ∨ ∃ d < 36, c = digitChar d := by
  rcases List.mem_append.mp h with h | h
  · split at h
    · cases h
    · rcases List.mem_append.mp h with h | h
      · exact .inl ((insertions_spells s).ascii c h)
      · exact .inr (.inl (List.mem_singleton.mp h))
  · exact .inr (.inr (exists_of_mem_writeInsertions h))

/-- Reading gives back the text that was written. -/
theorem decode?_encode (s : List Char) : decode? (encode s) = some s := by
  have hspells := insertions_spells s
  unfold decode?
  rw [splitLast_encode]
  dsimp only
  rw [readInsertions?_writeInsertions _ _ _ rfl (Nat.zero_le _) (fun x hx ↦ ?_) hspells.ordered
    hspells.fits, hspells.inserted_eq]
  have := hspells.ahead x hx
  change 0x80 < _ ∨ 0x80 = _ ∧ 0 ≤ _
  omega

example : encode ['b', 'ü', 'c', 'h', 'e', 'r'] = "bcher-kva".toList := by decide +kernel

end Lockstep.Punycode
