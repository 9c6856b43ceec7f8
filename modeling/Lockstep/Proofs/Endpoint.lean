import Lockstep.Endpoint.Read
import Lockstep.Proofs.Request
import Lockstep.Proofs.Url.Ignored

/-!
# Endpoints read back

The URI of an endpoint that was read from a URL names the same endpoint. The user information and
the fragment of the URL have no part in it, and no scheme but `ws` names one.
-/

namespace Lockstep.Endpoint

variable {url : String} {t : Transform} {e : Endpoint} {l : Location}

/-! ## Endpoints of locations -/

theorem ofUrl_eq_ok : ofUrl url t = .ok e ↔
    ∃ l, Url.parse url.toList = .ok (.ws l) ∧ e = ofLocation l t := by
  unfold ofUrl
  constructor
  · intro h
    split at h
    · cases h
    · cases h
    · cases h
      exact ⟨_, ‹_›, rfl⟩
  · rintro ⟨l, hparse, rfl⟩
    rw [hparse]

/-- The path of an endpoint is what a request asks its location for. -/
theorem toList_path_ofLocation (hread : l.IsRead) (t : Transform) :
    (ofLocation l t).path.toList = l.resource := by
  have hpath : (ofLocation l t).path = rooted (String.ofList l.resource) := rfl
  obtain ⟨rest, hrest⟩ := Url.exists_resource hread
  have hrooted : (String.ofList l.resource).startsWith "/" = true := by
    rw [String.startsWith_string_iff, String.toList_ofList (l := l.resource), hrest]
    exact ⟨rest, rfl⟩
  rw [hpath, rooted_of_startsWith hrooted, String.toList_ofList]

theorem toList_uri_ofLocation (hread : l.IsRead) (t : Transform) :
    (ofLocation l t).uri.toList = "ws://".toList ++ l.text := by
  have hauthority : (ofLocation l t).authority.toList = l.authority := by
    have hsplit : (ofLocation l t).authority = String.ofList l.host.text ++ ":" ++
      String.ofList (Nat.toDigits 10 (l.port.getD Url.impliedPort).toNat) := rfl
    simp only [hsplit, String.toList_append, String.toList_ofList, Location.authority,
      List.append_assoc]
    rfl
  rw [toList_uri, hauthority, toList_path_ofLocation hread]
  rfl

/-- The URI of an endpoint is read as the same endpoint. -/
theorem ofUrl_uri (h : ofUrl url t = .ok e) : ofUrl e.uri t = .ok e := by
  obtain ⟨l, hparse, rfl⟩ := ofUrl_eq_ok.mp h
  have hread := Url.isRead_of_parse hparse
  exact ofUrl_eq_ok.mpr ⟨l, by rw [toList_uri_ofLocation hread, Url.parse_text hread], rfl⟩

theorem host_ne_empty (h : ofUrl url t = .ok e) : e.host ≠ "" := by
  obtain ⟨l, hparse, rfl⟩ := ofUrl_eq_ok.mp h
  intro hempty
  have := congrArg String.toList hempty
  exact Host.text_ne_nil (Url.isRead_of_parse hparse).host (by simpa [ofLocation, new] using this)

theorem startsWith_path (h : ofUrl url t = .ok e) : e.path.startsWith "/" = true := by
  obtain ⟨l, -, rfl⟩ := ofUrl_eq_ok.mp h
  exact startsWith_rooted _

theorem hash_notMem_path (h : ofUrl url t = .ok e) : '#' ∉ e.path.toList := by
  obtain ⟨l, hparse, rfl⟩ := ofUrl_eq_ok.mp h
  have hread := Url.isRead_of_parse hparse
  rw [toList_path_ofLocation hread]
  exact fun hmem ↦ (Url.isResourceChar_of_mem hread hmem).2 rfl

/-! ## Parts that are not read -/

/-- User information stands between the slashes and the host. -/
theorem ofUrl_user {before slashes user site : String} (hbefore : ':' ∉ before.toList)
    (hslashes : ∀ c ∈ slashes.toList, c = '/' ∨ c = '\\' ∨ c = '\t' ∨ c = '\n' ∨ c = '\r')
    (huser : ∀ c ∈ user.toList, c ≠ '/' ∧ c ≠ '\\' ∧ c ≠ '?' ∧ c ≠ '#')
    (h : ofUrl (before ++ ":" ++ slashes ++ user ++ "@" ++ site) t = .ok e) :
    ofUrl (before ++ ":" ++ slashes ++ site) t = .ok e := by
  have hurl : (before ++ ":" ++ slashes ++ user ++ "@" ++ site).toList =
      before.toList ++ ':' :: (slashes.toList ++ user.toList ++ '@' :: site.toList) := by
    simp only [String.toList_append, List.append_assoc]
    rfl
  have hplain : (before ++ ":" ++ slashes ++ site).toList =
      before.toList ++ ':' :: (slashes.toList ++ site.toList) := by
    simp only [String.toList_append, List.append_assoc]
    rfl
  obtain ⟨l, hparse, rfl⟩ := ofUrl_eq_ok.mp h
  rw [hurl] at hparse
  refine ofUrl_eq_ok.mpr ⟨l, ?_, rfl⟩
  rw [hplain]
  refine Url.parse_user hbefore (fun c hc hkept ↦ ?_) (fun c hc ↦ ?_) hparse
  · rcases hslashes c hc with rfl | rfl | rfl | rfl | rfl
    · decide
    · decide
    · cases hkept
    · cases hkept
    · cases hkept
  · obtain ⟨hslash, hback, hmark, hhash⟩ := huser c hc
    exact Url.endsAuthority_eq_false.mpr ⟨hslash, hmark, hhash, hback⟩

/-- Where the same locations are read, the same endpoints are. -/
theorem ofUrl_congr {url' : String}
    (h : ∀ l, Url.parse url.toList = .ok (.ws l) ↔ Url.parse url'.toList = .ok (.ws l)) :
    ofUrl url t = .ok e ↔ ofUrl url' t = .ok e := by
  simp only [ofUrl_eq_ok, h]

theorem toList_hash (front fragment : String) :
    (front ++ "#" ++ fragment).toList = front.toList ++ '#' :: fragment.toList := by
  rw [String.toList_append, String.toList_append, List.append_assoc]
  rfl

/-- Nothing in the fragment has a part in what is read. -/
theorem ofUrl_fragment {front fragment : String} :
    ofUrl (front ++ "#" ++ fragment) t = .ok e ↔ ofUrl (front ++ "#") t = .ok e := by
  refine ofUrl_congr fun l ↦ ?_
  rw [toList_hash, Url.parse_fragment, String.toList_append]
  rfl

/-- Without its fragment a URL is read as the same endpoint, unless it ends with a blank then. -/
theorem ofUrl_front {front fragment : String} (h : Url.EndsVisibly front.toList) :
    ofUrl (front ++ "#" ++ fragment) t = .ok e ↔ ofUrl front t = .ok e := by
  refine ofUrl_congr fun l ↦ ?_
  rw [toList_hash, Url.parse_front h]

/-! ## Other schemes -/

/-- A URL of another scheme is refused for its scheme. -/
theorem ofUrl_eq_invalidScheme : ofUrl url t = .error .invalidScheme ↔
    (∃ parsed, Url.parse url.toList = .ok parsed) ∧
      ∀ rest, Url.scheme? (Url.clean url.toList) ≠ some ("ws".toList, rest) := by
  rw [← Url.parse_eq_foreign]
  unfold ofUrl
  constructor
  · intro h
    split at h
    · cases h
    · exact ⟨_, ‹_›⟩
    · cases h
  · rintro ⟨scheme, hparse⟩
    rw [hparse]

/-! ## Stability -/

/-- What is read of a URL is read again of the URI of the endpoint. The user information has no part
in it, nor has the fragment; and whatever stands before the fragment may stand alone, unless a blank
is at its end, which belongs to the path only as long as the fragment follows. A URL of another
scheme is refused for its scheme. -/
theorem ofUrl_stable (t : Transform) :
    (∀ url e, ofUrl url t = .ok e →
      e.host ≠ "" ∧ e.path.startsWith "/" = true ∧ '#' ∉ e.path.toList ∧
        ofUrl e.uri t = .ok e) ∧
    (∀ before slashes user site e, ':' ∉ before.toList →
      (∀ c ∈ slashes.toList, c = '/' ∨ c = '\\' ∨ c = '\t' ∨ c = '\n' ∨ c = '\r') →
      (∀ c ∈ user.toList, c ≠ '/' ∧ c ≠ '\\' ∧ c ≠ '?' ∧ c ≠ '#') →
      ofUrl (before ++ ":" ++ slashes ++ user ++ "@" ++ site) t = .ok e →
      ofUrl (before ++ ":" ++ slashes ++ site) t = .ok e) ∧
    (∀ front fragment e,
      (ofUrl (front ++ "#" ++ fragment) t = .ok e ↔ ofUrl (front ++ "#") t = .ok e) ∧
      (Url.EndsVisibly front.toList →
        (ofUrl (front ++ "#" ++ fragment) t = .ok e ↔ ofUrl front t = .ok e))) ∧
    (∀ url, ofUrl url t = .error .invalidScheme ↔
      (∃ parsed, Url.parse url.toList = .ok parsed) ∧
        ∀ rest, Url.scheme? (Url.clean url.toList) ≠ some ("ws".toList, rest)) := by
  refine ⟨fun url e h ↦ ?_, fun before slashes user site e ↦ ofUrl_user,
    fun front fragment e ↦ ⟨ofUrl_fragment, ofUrl_front⟩, fun url ↦ ofUrl_eq_invalidScheme⟩
  exact ⟨host_ne_empty h, startsWith_path h, hash_notMem_path h, ofUrl_uri h⟩

theorem ofUrl_stable_written :
    ∃ e : Endpoint, ofUrl ("ws" ++ ":" ++ "//" ++ "u:p" ++ "@" ++ "h:80?b") .identity = .ok e ∧
      ofUrl e.uri .identity = .ok e ∧ ofUrl ("ws" ++ ":" ++ "//" ++ "h:80?b") .identity = .ok e ∧
      ofUrl ("ws://h:80?b" ++ "#" ++ "c") .identity = .ok e ∧
      ofUrl "wss://h" .identity = .error .invalidScheme := by
  obtain ⟨hread, huser, hfragment, hscheme⟩ := ofUrl_stable .identity
  have hurl : ofUrl ("ws" ++ ":" ++ "//" ++ "u:p" ++ "@" ++ "h:80?b") .identity =
      .ok ⟨"h", 80, "/?b", .identity⟩ := by decide +kernel
  have hplain := huser "ws" "//" "u:p" "h:80?b" _ (by decide) (by simp) (by simp) hurl
  have hvisible : Url.EndsVisibly "ws://h:80?b".toList := by
    intro c hc
    have hlast : ("ws://h:80?b".toList.filter Url.isKept).getLast? = some 'b' := by decide
    cases hlast.symm.trans hc
    decide
  have hother : Url.scheme? (Url.clean "wss://h".toList) = some ("wss".toList, "//h".toList) := by
    decide
  refine ⟨_, hurl, (hread _ _ hurl).2.2.2, hplain, ((hfragment _ _ _).2 hvisible).mpr hplain,
    (hscheme _).mpr ⟨⟨.foreign "wss".toList, by decide +kernel⟩, fun rest hrest ↦ ?_⟩⟩
  cases hother.symm.trans hrest

/-- A blank before the fragment belongs to the path, but not if nothing follows it. -/
theorem blank_before_fragment :
    ∃ e, ofUrl ("ws://h/a " ++ "#" ++ "x") .identity = .ok e ∧
      ofUrl "ws://h/a " .identity ≠ .ok e :=
  ⟨⟨"h", 80, "/a%20", .identity⟩, by decide +kernel, by decide +kernel⟩

end Lockstep.Endpoint
