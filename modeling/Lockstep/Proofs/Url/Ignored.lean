import Lockstep.Proofs.Url

/-!
# Parts of a URL that are not read

Blanks at the ends of a URL and line ends in it are left out before anything else is read of it. Of
a `ws` URL the user information and the fragment are passed over then. So they may as well be
missing, if only no blank comes to stand at an end where it stood within the URL before.
-/

namespace Lockstep.Url

variable {s front rest : List Char} {c : Char} {l : Location}

/-! ## Reading up to a character -/

theorem takeWhile_append_cons {p : Char → Bool} (hc : p c = false) (front rest : List Char) :
    (front ++ c :: rest).takeWhile p = front.takeWhile p := by
  rw [List.takeWhile_append, List.takeWhile_cons_of_neg (by rw [hc]; decide), List.append_nil]
  split
  · exact ((List.takeWhile_prefix p).eq_of_length ‹_›).symm
  · rfl

theorem dropWhile_append_cons {p : Char → Bool} (hc : p c = false) (front rest : List Char) :
    (front ++ c :: rest).dropWhile p = front.dropWhile p ++ c :: rest := by
  rw [List.dropWhile_append, List.dropWhile_cons_of_neg (by rw [hc]; decide)]
  split
  · rename_i hempty
    rw [List.isEmpty_iff.mp hempty, List.nil_append]
  · rfl

/-! ## Blanks and line ends -/

/-- What is left out at the ends of a URL. -/
def isBlank (c : Char) : Bool := c.toNat ≤ 0x20

/-- What is not left out within a URL. -/
def isKept (c : Char) : Bool := !(c = '\t' || c = '\n' || c = '\r')

theorem isKept_of_not_isBlank (h : isBlank c = false) : isKept c = true := by
  have hne {d : Char} (hd : isBlank d = true) : c ≠ d := by
    rintro rfl
    cases h.symm.trans hd
  rw [isKept, decide_eq_false (hne (by decide)), decide_eq_false (hne (by decide)),
    decide_eq_false (hne (by decide))]
  rfl

/-- What is read of the beginning of a URL. -/
def cleanStart (s : List Char) : List Char := (s.dropWhile isBlank).filter isKept

/-- What is read of the end of a URL. -/
def cleanEnd (s : List Char) : List Char := (s.reverse.dropWhile isBlank).reverse.filter isKept

theorem clean_eq (s : List Char) : clean s = cleanEnd (s.dropWhile isBlank) := rfl

theorem cleanEnd_append_cons (hc : isBlank c = false) (front rest : List Char) :
    cleanEnd (front ++ c :: rest) = front.filter isKept ++ c :: cleanEnd rest := by
  rw [cleanEnd, cleanEnd, List.reverse_append, List.reverse_cons, List.append_assoc,
    List.singleton_append, dropWhile_append_cons hc, List.reverse_append, List.reverse_cons,
    List.reverse_reverse, List.append_assoc, List.singleton_append, List.filter_append,
    List.filter_cons_of_pos (isKept_of_not_isBlank hc)]

/-- A character that is not blank parts a URL into its beginning and its end. -/
theorem clean_append_cons (hc : isBlank c = false) (front rest : List Char) :
    clean (front ++ c :: rest) = cleanStart front ++ c :: cleanEnd rest := by
  rw [clean_eq, dropWhile_append_cons hc, cleanEnd_append_cons hc]
  rfl

/-- The text ends with no blank, line ends aside. -/
def EndsVisibly (s : List Char) : Prop :=
  ∀ c, (s.filter isKept).getLast? = some c → isBlank c = false

theorem EndsVisibly.of_append (h : EndsVisibly (front ++ rest)) : EndsVisibly rest := by
  intro c hc
  refine h c ?_
  rw [List.filter_append, List.getLast?_append, hc]
  rfl

theorem cleanEnd_of_endsVisibly (h : EndsVisibly s) : cleanEnd s = s.filter isKept := by
  have hsplit : (s.reverse.dropWhile isBlank).reverse ++
      (s.reverse.takeWhile isBlank).reverse = s := by
    rw [← List.reverse_append, List.takeWhile_append_dropWhile, List.reverse_reverse]
  -- Whatever is trimmed was left out already: otherwise the last of it would be visible.
  have hnone : (s.reverse.takeWhile isBlank).reverse.filter isKept = [] := by
    by_contra hne
    have hlast := List.getLast_mem hne
    rw [List.mem_filter, List.mem_reverse] at hlast
    have hvisible : isBlank _ = false :=
      (hsplit ▸ h).of_append _ (List.getLast?_eq_some_getLast hne)
    cases hvisible.symm.trans (List.mem_takeWhile_imp hlast.1)
  calc cleanEnd s = (s.reverse.dropWhile isBlank).reverse.filter isKept ++ [] := by
        rw [List.append_nil, cleanEnd]
    _ = s.filter isKept := by rw [← hnone, ← List.filter_append, hsplit]

theorem clean_of_endsVisibly (h : EndsVisibly s) : clean s = cleanStart s := by
  have hsplit := List.takeWhile_append_dropWhile (p := isBlank) (l := s)
  exact cleanEnd_of_endsVisibly (hsplit ▸ h).of_append

/-- A text without blanks is read as it stands. -/
theorem clean_of_lt (h : ∀ c ∈ s, 0x20 < c.toNat) : clean s = s := by
  have hvisible : ∀ c ∈ s, isBlank c = false := fun c hc ↦
    decide_eq_false (Nat.not_le_of_lt (h c hc))
  have hstart : s.dropWhile isBlank = s := by
    cases s with
    | nil => rfl
    | cons c s => exact List.dropWhile_cons_of_neg (by rw [hvisible c List.mem_cons_self]; decide)
  rw [clean_of_endsVisibly fun c hc ↦
    hvisible c (List.mem_filter.mp (List.mem_of_getLast? hc)).1, cleanStart, hstart]
  exact List.filter_eq_self.mpr fun c hc ↦ isKept_of_not_isBlank (hvisible c hc)

/-! ## What is read of a `ws` URL -/

/-- A scheme begins with a letter and ends at a colon. -/
theorem scheme?_eq_some {scheme : List Char} : scheme? s = some (scheme, rest) ↔
    (∃ c ∈ s.head?, c.isAlpha = true) ∧ s.dropWhile isSchemeChar = ':' :: rest ∧
      scheme = (s.takeWhile isSchemeChar).map Char.toLower := by
  constructor
  · intro h
    unfold scheme? at h
    split at h
    · rename_i c tail after hdrop
      split at h
      · cases h
        exact ⟨⟨c, rfl, ‹_›⟩, hdrop, rfl⟩
      · cases h
    · cases h
  · rintro ⟨⟨c, hhead, halpha⟩, hdrop, rfl⟩
    cases s with
    | nil => cases hhead
    | cons d tail =>
      cases hhead
      unfold scheme?
      rw [hdrop]
      exact if_pos halpha

theorem parse_of_scheme (h : scheme? (clean s) = some ("ws".toList, rest)) :
    parse s = ws <$> special (rest.dropWhile Path.isSlash) := by
  have hkind : SchemeKind.of "ws".toList = .special := by decide
  unfold parse
  rw [h]
  dsimp only
  rw [hkind]
  change (special (rest.dropWhile Path.isSlash) >>= fun location ↦ .ok (ws location)) = _
  cases special (rest.dropWhile Path.isSlash) <;> rfl

/-- A `ws` URL is one with that scheme and what makes up a special URL after it. -/
theorem parse_eq_ws : parse s = .ok (.ws l) ↔ ∃ rest,
    scheme? (clean s) = some ("ws".toList, rest) ∧
      special (rest.dropWhile Path.isSlash) = .ok l := by
  constructor
  · intro h
    unfold parse at h
    split at h
    · cases h
    rename_i scheme rest hscheme
    split at h
    · obtain ⟨location, hspecial, hvalue⟩ := Halt.bind_eq_ok.mp h
      replace hvalue := Except.ok.inj hvalue
      split at hvalue
      · subst scheme
        cases hvalue
        exact ⟨rest, hscheme, hspecial⟩
      · cases hvalue
    -- Without a special scheme only faults are looked for.
    · obtain ⟨_, -, h⟩ := Halt.bind_eq_ok.mp h
      cases h
    · split at h
      · obtain ⟨_, -, h⟩ := Halt.bind_eq_ok.mp h
        cases h
      · cases h
  · rintro ⟨rest, hscheme, hspecial⟩
    rw [parse_of_scheme hscheme, hspecial]
    rfl

theorem isRead_of_parse (h : parse s = .ok (.ws l)) : l.IsRead := by
  obtain ⟨rest, -, hspecial⟩ := parse_eq_ws.mp h
  exact isRead_of_special hspecial

/-- A special URL begins with its authority, which is not empty. -/
theorem exists_cons_of_special (h : special s = .ok l) :
    ∃ c rest, s = c :: rest ∧ endsAuthority true c = false := by
  obtain ⟨p, hname, -⟩ := special_eq_ok.mp h
  cases s with
  | nil => exact absurd rfl hname
  | cons c rest =>
    refine ⟨c, rest, rfl, Bool.eq_false_iff.mpr fun hends ↦ hname ?_⟩
    rw [siteOf, List.takeWhile_cons_of_neg (by rw [hends]; decide)]
    rfl

/-- No slash is left before what ends no authority. -/
theorem dropWhile_isSlash_cons (hc : endsAuthority true c = false) (rest : List Char) :
    (c :: rest).dropWhile Path.isSlash = c :: rest := by
  obtain ⟨hslash, -, -, hback⟩ := endsAuthority_eq_false.mp hc
  refine List.dropWhile_cons_of_neg ?_
  rw [Path.isSlash, decide_eq_false hslash, decide_eq_false hback]
  decide

theorem dropWhile_isSlash_of_special (h : special s = .ok l) :
    s.dropWhile Path.isSlash = s := by
  obtain ⟨c, rest, rfl, hc⟩ := exists_cons_of_special h
  exact dropWhile_isSlash_cons hc rest

/-- The text of a location after its scheme is read as the same location. -/
theorem parse_text (hread : l.IsRead) : parse ("ws://".toList ++ l.text) = .ok (.ws l) := by
  have hlt : ∀ c ∈ "ws://".toList ++ l.text, 0x20 < c.toNat := by
    intro c hc
    rcases List.mem_append.mp hc with hc | hc
    · replace hc : c ∈ ['w', 's', ':', '/', '/'] := hc
      simp only [List.mem_cons, List.not_mem_nil, or_false, or_self] at hc
      rcases hc with rfl | rfl | rfl | rfl <;> decide
    · exact lt_of_mem_text hread hc
  refine parse_eq_ws.mpr ⟨'/' :: '/' :: l.text, ?_, ?_⟩
  · rw [clean_of_lt hlt]
    rfl
  · rw [List.dropWhile_cons_of_pos (by decide), List.dropWhile_cons_of_pos (by decide),
      dropWhile_isSlash_of_special (special_text hread), special_text hread]

/-! ## Fragments -/

theorem scheme?_hash {scheme after : List Char} (front rest : List Char) :
    scheme? (front ++ '#' :: rest) = some (scheme, after) ↔
      ∃ before, scheme? front = some (scheme, before) ∧ after = before ++ '#' :: rest := by
  simp only [scheme?_eq_some]
  rw [takeWhile_append_cons (by decide), dropWhile_append_cons (by decide)]
  constructor
  · rintro ⟨halpha, hdrop, hscheme⟩
    rcases List.append_eq_cons_iff.mp hdrop with ⟨-, hhash⟩ | ⟨before, hbefore, hafter⟩
    · cases hhash
    · refine ⟨before, ⟨?_, hbefore, hscheme⟩, hafter⟩
      cases front with
      | nil => cases hbefore
      | cons c front => exact halpha
  · rintro ⟨before, ⟨⟨c, hhead, halpha⟩, hbefore, hscheme⟩, rfl⟩
    refine ⟨⟨c, ?_, halpha⟩, ?_, hscheme⟩
    · cases front with
      | nil => cases hhead
      | cons d front => exact hhead
    · rw [hbefore]
      rfl

/-- Nothing is read of a special URL beyond a number sign. -/
theorem special_hash (front rest : List Char) : special (front ++ '#' :: rest) = special front := by
  refine special_congr ?_ ?_
  · rw [siteOf, siteOf, takeWhile_append_cons (by decide)]
  · rw [resourceOf, resourceOf, dropWhile_append_cons (by decide), pathAndQuery, pathAndQuery,
      takeWhile_append_cons (by decide)]

/-- What is read of a URL with a fragment is read of what stands before it. -/
theorem parse_hash (front rest : List Char) : parse (front ++ '#' :: rest) = .ok (.ws l) ↔
    ∃ after, scheme? (cleanStart front) = some ("ws".toList, after) ∧
      special (after.dropWhile Path.isSlash) = .ok l := by
  rw [parse_eq_ws, clean_append_cons (by decide)]
  simp only [scheme?_hash]
  constructor
  · rintro ⟨after, ⟨before, hscheme, rfl⟩, hspecial⟩
    rw [dropWhile_append_cons (by decide), special_hash] at hspecial
    exact ⟨before, hscheme, hspecial⟩
  · rintro ⟨before, hscheme, hspecial⟩
    refine ⟨_, ⟨before, hscheme, rfl⟩, ?_⟩
    rwa [dropWhile_append_cons (by decide), special_hash]

theorem parse_fragment (front rest : List Char) :
    parse (front ++ '#' :: rest) = .ok (.ws l) ↔ parse (front ++ ['#']) = .ok (.ws l) :=
  (parse_hash front rest).trans (parse_hash front []).symm

/-- A URL that ends with no blank may end before the fragment. -/
theorem parse_front (h : EndsVisibly front) (rest : List Char) :
    parse (front ++ '#' :: rest) = .ok (.ws l) ↔ parse front = .ok (.ws l) := by
  rw [parse_hash, parse_eq_ws, clean_of_endsVisibly h]

/-! ## User information -/

theorem scheme?_colon {scheme after : List Char} (hfront : ':' ∉ front)
    (h : scheme? (front ++ ':' :: rest) = some (scheme, after)) :
    after = rest ∧ ∀ rest', scheme? (front ++ ':' :: rest') = some (scheme, rest') := by
  rw [scheme?_eq_some, takeWhile_append_cons (by decide), dropWhile_append_cons (by decide)] at h
  obtain ⟨halpha, hdrop, hscheme⟩ := h
  rcases List.append_eq_cons_iff.mp hdrop with ⟨hnil, hcolon⟩ | ⟨before, hbefore, -⟩
  · refine ⟨(List.cons.inj hcolon).2.symm, fun rest' ↦ ?_⟩
    rw [scheme?_eq_some, takeWhile_append_cons (by decide), dropWhile_append_cons (by decide), hnil]
    refine ⟨?_, rfl, hscheme⟩
    cases front <;> exact halpha
  · exact absurd ((List.dropWhile_sublist _).subset (hbefore ▸ List.mem_cons_self)) hfront

/-- Nothing is read of a special URL before an at sign that stands in the authority. -/
theorem special_user {user : List Char} (huser : ∀ c ∈ user, endsAuthority true c = false)
    (site : List Char) : special (user ++ '@' :: site) = special site := by
  have hall : ∀ c ∈ user, (!endsAuthority true c) = true := fun c hc ↦ by
    rw [huser c hc]
    rfl
  refine special_congr ?_ ?_
  · rw [siteOf, siteOf, splitUser_snd, splitUser_snd, List.takeWhile_append_of_pos hall,
      List.takeWhile_cons_of_pos (by decide), List.reverse_append, List.reverse_cons,
      List.append_assoc, List.singleton_append, takeWhile_append_cons (by decide)]
  · rw [resourceOf, resourceOf, List.dropWhile_append_of_pos hall,
      List.dropWhile_cons_of_pos (by decide)]

theorem cleanEnd_append (h : cleanEnd rest ≠ []) (front : List Char) :
    cleanEnd (front ++ rest) = front.filter isKept ++ cleanEnd rest := by
  rw [cleanEnd, List.reverse_append, List.dropWhile_append]
  split
  · rename_i hempty
    refine absurd ?_ h
    rw [cleanEnd, List.isEmpty_iff.mp hempty]
    rfl
  · rw [List.reverse_append, List.reverse_reverse, List.filter_append]
    rfl

/-- What is read of a URL with user information is read of it without. -/
theorem parse_user {before slashes user site : List Char} (hbefore : ':' ∉ before)
    (hslashes : ∀ c ∈ slashes, isKept c = true → Path.isSlash c = true)
    (huser : ∀ c ∈ user, endsAuthority true c = false)
    (h : parse (before ++ ':' :: (slashes ++ user ++ '@' :: site)) = .ok (.ws l)) :
    parse (before ++ ':' :: (slashes ++ site)) = .ok (.ws l) := by
  have hstart : ':' ∉ cleanStart before := fun hmem ↦
    hbefore ((List.dropWhile_sublist _).subset (List.mem_filter.mp hmem).1)
  have hkept : ∀ c ∈ slashes.filter isKept, Path.isSlash c = true := fun c hc ↦
    hslashes c (List.mem_filter.mp hc).1 (List.mem_filter.mp hc).2
  have huser' : ∀ c ∈ user.filter isKept, endsAuthority true c = false := fun c hc ↦
    huser c (List.mem_filter.mp hc).1
  rw [parse_eq_ws, clean_append_cons (by decide), cleanEnd_append_cons (by decide),
    List.filter_append, List.append_assoc] at h
  obtain ⟨after, hscheme, hspecial⟩ := h
  obtain ⟨rfl, hother⟩ := scheme?_colon hstart hscheme
  have hfront : (user.filter isKept ++ '@' :: cleanEnd site).dropWhile Path.isSlash =
      user.filter isKept ++ '@' :: cleanEnd site := by
    cases hu : user.filter isKept with
    | nil => exact dropWhile_isSlash_cons (by decide) _
    | cons c rest => exact dropWhile_isSlash_cons (huser' c (hu ▸ List.mem_cons_self)) _
  rw [List.dropWhile_append_of_pos hkept, hfront, special_user huser'] at hspecial
  obtain ⟨c, rest, hsite, -⟩ := exists_cons_of_special hspecial
  rw [parse_eq_ws, clean_append_cons (by decide), cleanEnd_append (by rw [hsite]; exact nofun)]
  refine ⟨_, hother _, ?_⟩
  rw [List.dropWhile_append_of_pos hkept, dropWhile_isSlash_of_special hspecial, hspecial]

/-! ## Schemes -/

/-- A URL is one of another scheme exactly if it is read and `ws` is not what is written. -/
theorem parse_eq_foreign : (∃ scheme, parse s = .ok (.foreign scheme)) ↔
    (∃ url, parse s = .ok url) ∧ ∀ rest, scheme? (clean s) ≠ some ("ws".toList, rest) := by
  constructor
  · rintro ⟨scheme, hparse⟩
    refine ⟨⟨_, hparse⟩, fun rest hscheme ↦ ?_⟩
    rw [parse_of_scheme hscheme] at hparse
    obtain ⟨l, -, h⟩ := Halt.map_eq_ok.mp hparse
    cases h
  · rintro ⟨⟨url, hparse⟩, hscheme⟩
    cases url with
    | ws l =>
      obtain ⟨rest, hws, -⟩ := parse_eq_ws.mp hparse
      exact absurd hws (hscheme rest)
    | foreign scheme => exact ⟨scheme, hparse⟩

end Lockstep.Url
