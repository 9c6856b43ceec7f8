import Lockstep.Idna.Domain
import Lockstep.Proofs.Idna.Punycode
import Lockstep.Proofs.Text.Pieces

/-!
# Names in ASCII are settled

A name that was put in ASCII is left as it is when it is put in ASCII again: each label is read
back as the label that it was made of, so the rule for both directions is kept as it was before.
-/

namespace Lockstep.Idna

variable {s name : List Char} {c : Char}

/-! ## Plain characters -/

/-- What a name in ASCII is made of. -/
structure IsPlain (c : Char) : Prop where
  ascii : c.toNat < 0x80
  kept : action c = .keep
  allowed : isForbidden c = false

instance (c : Char) : Decidable (IsPlain c) :=
  decidable_of_iff (c.toNat < 0x80 ∧ action c = .keep ∧ isForbidden c = false)
    ⟨fun h ↦ ⟨h.1, h.2.1, h.2.2⟩, fun h ↦ ⟨h.ascii, h.kept, h.allowed⟩⟩

theorem isPlain_of_mem_aceStart (hc : c ∈ aceStart) : IsPlain c ∧ c ≠ '.' := by
  replace hc : c ∈ ['x', 'n', '-', '-'] := hc
  simp only [List.mem_cons, List.not_mem_nil, or_false, or_self] at hc
  rcases hc with rfl | rfl | rfl <;> decide

theorem isPlain_digitChar : ∀ d < 36,
    IsPlain (Punycode.digitChar d) ∧ Punycode.digitChar d ≠ '.' := by decide

theorem isAscii_of_isPlain (h : ∀ c ∈ s, IsPlain c) : isAscii s = true :=
  List.all_eq_true.mpr fun c hc ↦ decide_eq_true (h c hc).ascii

theorem mapText?_of_kept (h : ∀ c ∈ s, action c = .keep) : mapText? s = some s := by
  induction s with
  | nil => rfl
  | cons c s ih =>
    obtain ⟨hc, hs⟩ := List.forall_mem_cons.mp h
    rw [mapText?, hc]
    dsimp only
    rw [ih hs]
    rfl

theorem normalize_of_isPlain (h : ∀ c ∈ s, IsPlain c) : normalize s = s :=
  if_pos (isAscii_of_isPlain h)

/-! ## Labels -/

/-- A label that is not in ASCII yet is put so; any other is left as it is. -/
theorem ofSpelling?_cases {l : Label} (h : Label.ofSpelling? s = some l) :
    (isAscii s = true ∧ l.ascii = s) ∨
      (isAscii s = false ∧ isValid s = true ∧ l = ⟨s, aceStart ++ Punycode.encode s⟩) := by
  unfold Label.ofSpelling? at h
  split at h
  · split at h
    · obtain ⟨meaning, -, h⟩ := Option.bind_eq_some_iff.mp h
      dsimp only at h
      split at h
      · cases h
        exact .inl ⟨‹_›, rfl⟩
      · cases h
    · cases h
  · split at h
    · cases h
      exact .inl ⟨‹_›, rfl⟩
    · split at h
      · cases h
        exact .inr ⟨Bool.eq_false_iff.mpr ‹_›, ‹_›, rfl⟩
      · cases h

theorem ofSpelling?_of_aceStart {t : List Char} (hascii : isAscii (aceStart ++ t) = true) :
    Label.ofSpelling? (aceStart ++ t) = (Punycode.decode? t).bind fun meaning ↦
      if !isAscii meaning && isValid meaning then some ⟨meaning, aceStart ++ t⟩ else none := by
  unfold Label.ofSpelling?
  rw [if_pos (List.isPrefixOf_iff_prefix.mpr (List.prefix_append ..)), if_pos hascii,
    List.drop_left]
  rfl

/-- A label is in ASCII, and lies within one label still. -/
theorem isPlain_of_mem_ascii {l : Label} (h : Label.ofSpelling? s = some l)
    (hs : ∀ c ∈ s, action c = .keep ∧ isForbidden c = false ∧ c ≠ '.') (hc : c ∈ l.ascii) :
    IsPlain c ∧ c ≠ '.' := by
  rcases ofSpelling?_cases h with ⟨hascii, hl⟩ | ⟨-, -, rfl⟩
  · rw [hl] at hc
    obtain ⟨hkept, hallowed, hdot⟩ := hs c hc
    exact ⟨⟨of_decide_eq_true (List.all_eq_true.mp hascii c hc), hkept, hallowed⟩, hdot⟩
  · rcases List.mem_append.mp hc with hc | hc
    · exact isPlain_of_mem_aceStart hc
    rcases Punycode.mem_encode hc with ⟨hmem, hascii⟩ | rfl | ⟨d, hd, rfl⟩
    · obtain ⟨hkept, hallowed, hdot⟩ := hs c hmem
      exact ⟨⟨hascii, hkept, hallowed⟩, hdot⟩
    · decide
    · exact isPlain_digitChar d hd

/-- A label in ASCII is read as the label that it was made of. -/
theorem ofSpelling?_ascii {l : Label} (h : Label.ofSpelling? s = some l)
    (hl : ∀ c ∈ l.ascii, IsPlain c) : Label.ofSpelling? l.ascii = some l := by
  rcases ofSpelling?_cases h with ⟨-, hascii⟩ | ⟨hascii, hvalid, rfl⟩
  · rwa [hascii]
  · rw [ofSpelling?_of_aceStart (isAscii_of_isPlain hl), Punycode.decode?_encode,
      Option.bind_some, if_pos (by rw [hascii, hvalid]; rfl)]

/-- A label of plain characters that does not begin as Punycode does stands for itself. -/
theorem ofSpelling?_of_isPlain (hs : ∀ c ∈ s, IsPlain c) (hace : 'x' ∉ s) :
    Label.ofSpelling? s = some ⟨s, s⟩ := by
  have hprefix : ¬aceStart.isPrefixOf s = true := fun h ↦
    hace ((List.isPrefixOf_iff_prefix.mp h).subset (by decide))
  rw [Label.ofSpelling?, if_neg hprefix, if_pos (isAscii_of_isPlain hs)]

/-! ## Names -/

/-- The labels of a name keep the rule for both directions, if it concerns them. -/
def KeepsRule (labels : List Label) : Prop :=
  ((labels.map Label.meaning).any (·.any isRightToLeft) &&
    !(labels.map Label.meaning).all keepsDirection) = false

/-- No name of labels that stand for ASCII is written from right to left. -/
theorem keepsRule_of_isPlain {labels : List Label}
    (h : ∀ l ∈ labels, ∀ c ∈ l.meaning, IsPlain c) : KeepsRule labels := by
  have hnone : (labels.map Label.meaning).any (·.any isRightToLeft) = false := by
    rw [List.any_eq_false]
    intro meaning hmeaning hany
    obtain ⟨l, hl, rfl⟩ := List.mem_map.mp hmeaning
    obtain ⟨c, hc, hright⟩ := List.any_eq_true.mp hany
    have hbeyond := of_decide_eq_true (Bool.and_eq_true_iff.mp hright).1
    exact Nat.not_lt_of_le hbeyond (h l hl c hc).ascii
  unfold KeepsRule
  rw [hnone]
  rfl

/-- What it takes for a name to be put in ASCII. -/
theorem toAscii?_eq_some {ascii : List Char} (h : toAscii? name = some ascii) :
    ∃ spelled labels, (∀ c ∈ spelled, action c = .keep ∧ isForbidden c = false) ∧
      (Text.pieces (· = '.') spelled).map Label.ofSpelling? = labels.map some ∧
      KeepsRule labels ∧ ascii = Text.join '.' (labels.map Label.ascii) := by
  unfold toAscii? at h
  obtain ⟨mapped, -, h⟩ := Option.bind_eq_some_iff.mp h
  dsimp only at h
  split at h
  · cases h
  rename_i hspelled
  obtain ⟨labels, hlabels, h⟩ := Option.bind_eq_some_iff.mp h
  split at h
  · cases h
  rename_i hrule
  cases h
  refine ⟨normalize mapped, labels, fun c hc ↦ ?_, Text.mapM_eq_some_iff.mp hlabels,
    Bool.eq_false_iff.mpr hrule, rfl⟩
  have := fun hany ↦ hspelled (List.any_eq_true.mpr ⟨c, hc, hany⟩)
  simpa [and_comm] using this

/-- A name whose characters are plain is put in ASCII label by label. -/
theorem toAscii?_of_isPlain {labels : List Label} (hname : ∀ c ∈ name, IsPlain c)
    (hlabels : (Text.pieces (· = '.') name).map Label.ofSpelling? = labels.map some)
    (hrule : KeepsRule labels) : toAscii? name = some (Text.join '.' (labels.map Label.ascii)) := by
  have hspelled : ¬(name.any fun c ↦ isForbidden c || action c ≠ .keep) = true := by
    rw [Bool.not_eq_true, List.any_eq_false]
    intro c hc
    rw [(hname c hc).allowed, (hname c hc).kept]
    decide
  unfold toAscii?
  rw [mapText?_of_kept fun c hc ↦ (hname c hc).kept, Option.bind_eq_bind, Option.bind_some,
    normalize_of_isPlain hname]
  dsimp only
  rw [if_neg hspelled, Text.mapM_eq_some_iff.mpr hlabels, Option.bind_eq_bind, Option.bind_some]
  exact if_neg (Bool.not_eq_true _ ▸ hrule)

/-- A name in ASCII is made of plain characters, and is left as it is. -/
theorem toAscii?_ascii {ascii : List Char} (h : toAscii? name = some ascii) :
    toAscii? ascii = some ascii ∧ ∀ c ∈ ascii, IsPlain c := by
  obtain ⟨spelled, labels, hspelled, hlabels, hrule, rfl⟩ := toAscii?_eq_some h
  -- Each label comes from a piece of what was spelled.
  have hpiece {l : Label} (hl : l ∈ labels) :
      ∃ p ∈ Text.pieces (· = '.') spelled, Label.ofSpelling? p = some l :=
    List.mem_map.mp (hlabels ▸ List.mem_map_of_mem hl)
  have hplain {l : Label} (hl : l ∈ labels) : ∀ c ∈ l.ascii, IsPlain c ∧ c ≠ '.' := by
    obtain ⟨p, hp, hspell⟩ := hpiece hl
    refine fun c hc ↦ isPlain_of_mem_ascii hspell (fun d hd ↦ ?_) hc
    obtain ⟨hmem, hdot⟩ := Text.mem_of_mem_pieces hp hd
    obtain ⟨hkept, hallowed⟩ := hspelled d hmem
    exact ⟨hkept, hallowed, of_decide_eq_false hdot⟩
  have hname : ∀ c ∈ Text.join '.' (labels.map Label.ascii), IsPlain c := by
    intro c hc
    rcases Text.mem_join hc with rfl | ⟨p, hp, hc⟩
    · decide
    · obtain ⟨l, hl, rfl⟩ := List.mem_map.mp hp
      exact (hplain hl c hc).1
  have hne : labels.map Label.ascii ≠ [] := by
    intro hnil
    rw [List.map_eq_nil_iff.mp hnil, List.map_nil] at hlabels
    exact Text.pieces_ne_nil _ _ (List.map_eq_nil_iff.mp hlabels)
  refine ⟨toAscii?_of_isPlain hname ?_ hrule, hname⟩
  rw [Text.pieces_join hne (fun p hp c hc ↦ ?_) (decide_eq_true rfl), List.map_map]
  · refine List.map_congr_left fun l hl ↦ ?_
    obtain ⟨p, -, hspell⟩ := hpiece hl
    exact ofSpelling?_ascii hspell fun c hc ↦ (hplain hl c hc).1
  · obtain ⟨l, hl, rfl⟩ := List.mem_map.mp hp
    exact decide_eq_false (hplain hl c hc).2

end Lockstep.Idna
