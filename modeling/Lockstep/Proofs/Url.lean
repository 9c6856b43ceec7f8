import Lockstep.Proofs.Url.Host
import Lockstep.Proofs.Url.Path
import Lockstep.Url

/-!
# URLs read back

What a `ws` URL says can be written out again: the host, the port even if it is the implied one, the
path and the query. What is written is read as saying the same.
-/

namespace Lockstep

/-! ## Locations -/

namespace Location

variable {l : Location}

/-- The query with its question mark. -/
def queryText : Option (List Char) → List Char
  | some q => '?' :: q
  | none => []

/-- The path and the query, as a request names them. -/
def resource (l : Location) : List Char := l.path ++ queryText l.query

/-- The host and the port. The port is written even if it is the implied one. -/
def authority (l : Location) : List Char :=
  l.host.text ++ ':' :: Nat.toDigits 10 (l.port.getD Url.impliedPort).toNat

/-- The location as it stands after the scheme and two slashes. -/
def text (l : Location) : List Char := l.authority ++ l.resource

/-- What a location that was read is like. -/
structure IsRead (l : Location) : Prop where
  host : l.host.IsRead
  port : l.port ≠ some Url.impliedPort
  path : ∃ closed last, l.path = Path.text closed last ∧ ∀ p ∈ last :: closed, Path.IsSettled p
  query : ∀ q, l.query = some q → ∀ c ∈ q, Percent.IsKept Path.specialInQuery c

end Location

namespace Url

variable {s : List Char} {c : Char} {l : Location}

/-! ## Authorities -/

theorem endsAuthority_eq_false :
    endsAuthority true c = false ↔ c ≠ '/' ∧ c ≠ '?' ∧ c ≠ '#' ∧ c ≠ '\\' := by
  simp [endsAuthority, and_assoc]

/-- A character that ends no authority, and is neither blank nor an at sign. -/
def IsSiteChar (c : Char) : Prop := 0x20 < c.toNat ∧ c ≠ '@' ∧ endsAuthority true c = false

instance (c : Char) : Decidable (IsSiteChar c) := inferInstanceAs (Decidable (_ ∧ _ ∧ _))

theorem ne_of_isForbidden (h : Idna.IsPlain c) {d : Char} (hd : Idna.isForbidden d = true) :
    c ≠ d := by
  rintro rfl
  cases h.allowed.symm.trans hd

theorem isSiteChar_of_isPlain (h : Idna.IsPlain c) : IsSiteChar c := by
  refine ⟨?_, ne_of_isForbidden h (by decide), endsAuthority_eq_false.mpr
    ⟨ne_of_isForbidden h (by decide), ne_of_isForbidden h (by decide),
      ne_of_isForbidden h (by decide), ne_of_isForbidden h (by decide)⟩⟩
  by_contra hlow
  have hforbidden : Idna.isForbidden c = true := by
    rw [Idna.isForbidden, decide_eq_true (Nat.le_of_not_lt hlow)]
    rfl
  cases h.allowed.symm.trans hforbidden

theorem isSiteChar_digitChar : ∀ d < 16, IsSiteChar (Nat.digitChar d) := by decide

theorem isSiteChar_of_mem_host {h : Host} (hread : h.IsRead) (hc : c ∈ h.text) : IsSiteChar c := by
  cases hread with
  | domain _ hplain => exact isSiteChar_of_isPlain (hplain c hc)
  | ipv4 => exact isSiteChar_of_isPlain (Host.isPlain_of_mem_ipv4 hc)
  | ipv6 =>
    simp only [Host.text, List.mem_append, List.mem_cons, List.not_mem_nil, or_false] at hc
    rcases hc with (rfl | hc) | rfl
    · decide
    · rcases Ipv6.mem_text hc with rfl | ⟨d, hd, rfl⟩
      · decide
      · exact isSiteChar_digitChar d hd
    · decide

/-- Of an authority the part after the last at sign remains. -/
theorem splitUser_snd (s : List Char) :
    (splitUser s).2 = (s.reverse.takeWhile (· ≠ '@')).reverse := by
  unfold splitUser
  dsimp only
  split
  · rename_i hlength
    have hfront := List.takeWhile_prefix (l := s.reverse) (· ≠ '@')
    rw [hfront.eq_of_length (by simpa using hlength), List.reverse_reverse]
  · rfl

theorem splitHost_of_isPlain (hs : ∀ c ∈ s, Idna.IsPlain c) (rest : List Char) :
    splitHost false (s ++ ':' :: rest) = (s, ':' :: rest) := by
  induction s with
  | nil => rfl
  | cons c s ih =>
    obtain ⟨hc, hs⟩ := List.forall_mem_cons.mp hs
    rw [List.cons_append, splitHost, if_neg fun h ↦ ne_of_isForbidden hc (by decide) h.1,
      if_neg (ne_of_isForbidden hc (by decide)), if_neg (ne_of_isForbidden hc (by decide)), ih hs]

/-- Within brackets a colon ends no host. -/
theorem splitHost_bracketed (hs : ∀ c ∈ s, c ≠ ']') (rest : List Char) :
    splitHost true (s ++ ']' :: rest) =
      (s ++ ']' :: (splitHost false rest).1, (splitHost false rest).2) := by
  induction s with
  | nil => rfl
  | cons c s ih =>
    obtain ⟨hc, hs⟩ := List.forall_mem_cons.mp hs
    rw [List.cons_append, splitHost, if_neg fun h ↦ h.2 rfl, if_neg hc, ite_self, ih hs]
    rfl

/-- The text of a host ends at the colon after it. -/
theorem splitHost_text {h : Host} (hread : h.IsRead) (rest : List Char) :
    splitHost false (h.text ++ ':' :: rest) = (h.text, ':' :: rest) := by
  cases hread with
  | domain _ hplain => exact splitHost_of_isPlain hplain rest
  | ipv4 => exact splitHost_of_isPlain (fun c ↦ Host.isPlain_of_mem_ipv4) rest
  | @ipv6 numbers =>
    have hclosing : ∀ c ∈ Ipv6.text numbers, c ≠ ']' := by
      intro c hc
      rcases Ipv6.mem_text hc with rfl | ⟨d, hd, rfl⟩
      · decide
      · exact (by decide : ∀ d < 16, Nat.digitChar d ≠ ']') d hd
    rw [Host.text, List.cons_append, List.cons_append, List.append_assoc, List.singleton_append,
      splitHost, if_neg (by decide), if_pos rfl, splitHost_bracketed hclosing]
    rfl

/-! ## Ports -/

/-- A number that fits is read as a port. -/
theorem portFrom_of_readFrom? {value n : Nat} (h : Digits.readFrom? 10 value s = some n)
    (hn : n < UInt16.size) : portFrom value s = .ok n := by
  induction s generalizing value with
  | nil =>
    cases h
    rfl
  | cons c s ih =>
    obtain ⟨d, hd, h⟩ := Option.bind_eq_some_iff.mp h
    split at h
    · rename_i hlt
      obtain ⟨hdigit, hvalue⟩ := Digits.isDigit_of_digit? hd hlt
      have hle := Digits.le_of_readFrom? (by decide) h
      rw [portFrom, if_pos hdigit]
      dsimp only
      rw [hvalue, if_pos (Nat.lt_of_le_of_lt hle hn)]
      exact ih h
    · cases h

theorem port_toDigits (p : UInt16) : port (':' :: Nat.toDigits 10 p.toNat) = .ok (some p) := by
  have hdecimal : Digits.readFrom? 10 0 (Nat.toDigits 10 p.toNat) = some p.toNat :=
    Digits.readFrom?_toDigits (by decide) (by decide) p.toNat
  have hread := portFrom_of_readFrom? hdecimal p.toNat_lt
  cases hdigits : Nat.toDigits 10 p.toNat with
  | nil => exact absurd hdigits Nat.toDigits_ne_nil
  | cons c digits =>
    rw [port, ← hdigits, hread]
    change Except.ok (some (UInt16.ofNat p.toNat)) = _
    rw [UInt16.ofNat_toNat]

/-! ## Paths and queries -/

theorem isKept_of_mem_query {q : List Char} (hc : c ∈ Percent.encode Path.specialInQuery q) :
    Percent.IsKept Path.specialInQuery c := by
  rcases Percent.mem_encode hc with ⟨-, hkept⟩ | rfl | ⟨n, hn, rfl⟩
  · exact hkept
  · decide
  · exact (by decide : ∀ n < 16, Percent.IsKept Path.specialInQuery (Percent.upperDigit n)) n hn

/-- The path of a URL consists of settled segments. -/
theorem exists_path (s : List Char) : ∃ closed last, (pathAndQuery s).1 = Path.text closed last ∧
    ∀ p ∈ last :: closed, Path.IsSettled p := by
  unfold pathAndQuery
  refine Path.exists_ofSegments nofun fun p hp ↦ ?_
  obtain ⟨q, hq, rfl⟩ := List.mem_map.mp hp
  exact Path.isPlain_encode fun c hc ↦ (Text.mem_of_mem_pieces hq hc).2

theorem isKept_of_query {q : List Char} (h : (pathAndQuery s).2 = some q) :
    ∀ c ∈ q, Percent.IsKept Path.specialInQuery c := by
  unfold pathAndQuery at h
  dsimp only at h
  split at h
  · cases h
    exact fun c ↦ isKept_of_mem_query
  · cases h

/-- What a rooted path and a query are read as. -/
theorem pathAndQuery_cons {path : List Char} {query : Option (List Char)}
    (hpath : ∀ c ∈ path, c ≠ '#' ∧ c ≠ '?') (hquery : ∀ q, query = some q → ∀ c ∈ q, c ≠ '#') :
    pathAndQuery ('/' :: path ++ Location.queryText query) =
      (Path.ofSegments [] ((Text.pieces Path.isSlash path).map (Percent.encode Path.special)),
        query.map (Percent.encode Path.specialInQuery)) := by
  have hhash : ∀ c ∈ '/' :: path, decide (c ≠ '#') = true :=
    List.forall_mem_cons.mpr ⟨by decide, fun c hc ↦ decide_eq_true (hpath c hc).1⟩
  have hmark : ∀ c ∈ '/' :: path, decide (c ≠ '?') = true :=
    List.forall_mem_cons.mpr ⟨by decide, fun c hc ↦ decide_eq_true (hpath c hc).2⟩
  unfold pathAndQuery
  dsimp only
  rw [List.takeWhile_append_of_pos hhash]
  cases query with
  | none =>
    rw [Location.queryText, List.takeWhile_nil, List.append_nil,
      List.takeWhile_eq_self_iff.mpr hmark, List.dropWhile_eq_nil_iff.mpr hmark]
    rfl
  | some q =>
    have hq : ∀ c ∈ q, decide (c ≠ '#') = true := fun c hc ↦ decide_eq_true (hquery q rfl c hc)
    rw [Location.queryText, List.takeWhile_cons_of_pos (by decide),
      List.takeWhile_eq_self_iff.mpr hq, List.takeWhile_append_of_pos hmark,
      List.dropWhile_append_of_pos hmark, List.takeWhile_cons_of_neg (by decide),
      List.dropWhile_cons_of_neg (by decide), List.append_nil]
    rfl

/-- The path and the query of a location are read as they stand. -/
theorem pathAndQuery_resource (hread : l.IsRead) : pathAndQuery l.resource = (l.path, l.query) := by
  obtain ⟨closed, last, hpath, hsettled⟩ := hread.path
  have hkept : ∀ c ∈ (Path.text closed last).tail, c ≠ '#' ∧ c ≠ '?' := by
    intro c hc
    have hc := Path.isKept_of_mem_text hsettled (List.mem_of_mem_tail hc)
    exact ⟨hc.ne (by decide), hc.ne (by decide)⟩
  have hquery : ∀ q, l.query = some q → ∀ c ∈ q, c ≠ '#' := fun q hq c hc ↦
    (hread.query q hq c hc).ne (by decide)
  have hencode : l.query.map (Percent.encode Path.specialInQuery) = l.query := by
    cases hq : l.query with
    | none => rfl
    | some q => exact congrArg some (Percent.encode_of_isKept (hread.query q hq))
  have hread := pathAndQuery_cons hkept hquery
  rw [Path.ofSegments_text hsettled, hencode] at hread
  rw [Location.resource, hpath]
  exact hread

/-- A resource holds neither blanks nor the start of a fragment. -/
theorem isResourceChar_of_mem (hread : l.IsRead) (hc : c ∈ l.resource) :
    0x20 < c.toNat ∧ c ≠ '#' := by
  obtain ⟨closed, last, hpath, hsettled⟩ := hread.path
  rcases List.mem_append.mp hc with hc | hc
  · rw [hpath] at hc
    have hc := Path.isKept_of_mem_text hsettled hc
    exact ⟨hc.lt (by decide), hc.ne (by decide)⟩
  · cases hq : l.query with
    | none =>
      rw [hq] at hc
      cases hc
    | some q =>
      rw [hq] at hc
      rcases List.mem_cons.mp hc with rfl | hc
      · decide
      · have hc := hread.query q hq c hc
        exact ⟨hc.lt (by decide), hc.ne (by decide)⟩

/-! ## Special URLs -/

/-- The part of a special URL that names the host and the port. -/
def siteOf (s : List Char) : List Char := (splitUser (s.takeWhile (!endsAuthority true ·))).2

/-- The part of a special URL from the path on. -/
def resourceOf (s : List Char) : List Char := s.dropWhile (!endsAuthority true ·)

theorem special_eq (s : List Char) : special s =
    if (splitHost false (siteOf s)).1 = [] then .error .emptyHost
    else Host.parse (splitHost false (siteOf s)).1 >>= fun host ↦
      port (splitHost false (siteOf s)).2 >>= fun p ↦
        .ok ⟨host, if p = some impliedPort then none else p, (pathAndQuery (resourceOf s)).1,
          (pathAndQuery (resourceOf s)).2⟩ := rfl

/-- A special URL is read from the site and from what is read of the rest. -/
theorem special_congr {s' : List Char} (hsite : siteOf s = siteOf s')
    (hresource : pathAndQuery (resourceOf s) = pathAndQuery (resourceOf s')) :
    special s = special s' := by
  rw [special_eq, special_eq, hsite, hresource]

/-- What a special URL says, part by part. -/
theorem special_eq_ok : special s = .ok l ↔ ∃ p,
    (splitHost false (siteOf s)).1 ≠ [] ∧
    Host.parse (splitHost false (siteOf s)).1 = .ok l.host ∧
    port (splitHost false (siteOf s)).2 = .ok p ∧
    l.port = (if p = some impliedPort then none else p) ∧
    pathAndQuery (resourceOf s) = (l.path, l.query) := by
  rw [special_eq]
  generalize splitHost false (siteOf s) = r
  generalize pathAndQuery (resourceOf s) = q
  constructor
  · intro h
    split at h
    · cases h
    rename_i hne
    obtain ⟨host, hhost, h⟩ := Halt.bind_eq_ok.mp h
    obtain ⟨p, hport, h⟩ := Halt.bind_eq_ok.mp h
    cases h
    exact ⟨p, hne, hhost, hport, rfl, rfl⟩
  · rintro ⟨p, hne, hhost, hport, hlocation, hresource⟩
    rw [if_neg hne, hhost, hport, hresource]
    change Except.ok (⟨l.host, if p = some impliedPort then none else p, l.path, l.query⟩ :
      Location) = _
    rw [← hlocation]

theorem isRead_of_special (h : special s = .ok l) : l.IsRead := by
  obtain ⟨p, -, hhost, -, hport, hresource⟩ := special_eq_ok.mp h
  refine ⟨Host.isRead_of_parse hhost, ?_, ?_, fun q hq ↦ ?_⟩
  · rw [hport]
    split
    · exact nofun
    · assumption
  · have := exists_path (resourceOf s)
    rwa [hresource] at this
  · exact isKept_of_query ((congrArg Prod.snd hresource).trans hq)

/-! ## Locations read back -/

theorem isSiteChar_of_mem_authority (hread : l.IsRead) (hc : c ∈ l.authority) : IsSiteChar c := by
  rcases List.mem_append.mp hc with hc | hc
  · exact isSiteChar_of_mem_host hread.host hc
  rcases List.mem_cons.mp hc with rfl | hc
  · decide
  · obtain ⟨d, hd, rfl⟩ := Digits.exists_of_mem_toDigits (by decide) hc
    exact isSiteChar_digitChar d (Nat.lt_trans hd (by decide))

/-- The resource of a location begins with a slash. -/
theorem exists_resource (hread : l.IsRead) : ∃ rest, l.resource = '/' :: rest := by
  obtain ⟨closed, last, hpath, -⟩ := hread.path
  rw [Location.resource, hpath]
  exact ⟨_, rfl⟩

/-- The authority of a location ends where its resource begins. -/
theorem span_text (hread : l.IsRead) : l.text.takeWhile (!endsAuthority true ·) = l.authority ∧
    resourceOf l.text = l.resource := by
  have hauthority : ∀ c ∈ l.authority, (!endsAuthority true c) = true := fun c hc ↦ by
    rw [(isSiteChar_of_mem_authority hread hc).2.2]
    rfl
  obtain ⟨rest, hrest⟩ := exists_resource hread
  rw [resourceOf, Location.text, hrest, List.takeWhile_append_of_pos hauthority,
    List.dropWhile_append_of_pos hauthority, List.takeWhile_cons_of_neg (by decide),
    List.dropWhile_cons_of_neg (by decide), List.append_nil]
  exact ⟨rfl, rfl⟩

theorem siteOf_text (hread : l.IsRead) : siteOf l.text = l.authority := by
  have hsign : ∀ c ∈ l.authority.reverse, decide (c ≠ '@') = true := fun c hc ↦
    decide_eq_true (isSiteChar_of_mem_authority hread (List.mem_reverse.mp hc)).2.1
  rw [siteOf, (span_text hread).1, splitUser_snd, List.takeWhile_eq_self_iff.mpr hsign,
    List.reverse_reverse]

/-- The text of a location that was read is read as the same location. -/
theorem special_text (hread : l.IsRead) : special l.text = .ok l := by
  have hsplit := splitHost_text hread.host (Nat.toDigits 10 (l.port.getD impliedPort).toNat)
  rw [special_eq_ok, siteOf_text hread, (span_text hread).2, Location.authority, hsplit]
  refine ⟨_, Host.text_ne_nil hread.host, Host.parse_text hread.host, port_toDigits _, ?_,
    pathAndQuery_resource hread⟩
  cases hport : l.port with
  | none => rfl
  | some p =>
    have hne := hread.port
    rw [hport] at hne
    exact (if_neg hne).symm

/-- The text of a location holds no blank. -/
theorem lt_of_mem_text (hread : l.IsRead) (hc : c ∈ l.text) : 0x20 < c.toNat := by
  rcases List.mem_append.mp hc with hc | hc
  · exact (isSiteChar_of_mem_authority hread hc).1
  · exact (isResourceChar_of_mem hread hc).1

end Url

end Lockstep
