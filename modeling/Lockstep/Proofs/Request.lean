import Lockstep.Endpoint
import Lockstep.Wire.Request
import Mathlib.Data.List.TakeWhile
import Mathlib.Data.String.Basic

/-!
# The request for an endpoint

The URI of an endpoint is its host, its port and its path in a row. Where no part holds a character
that begins another part, the request takes the URI apart again into what it was made of, and it is
the path of the endpoint that the server is asked for.
-/

namespace Lockstep

namespace Request

/-- The character begins no other part of a URI when it stands in the host. -/
def isHostPart (c : Char) : Bool := c ≠ '/' && c ≠ '?' && c ≠ '#'

/-- The character begins no other part of a URI when it stands in the path. -/
def isPathPart (c : Char) : Bool := c ≠ '?' && c ≠ '#'

/-- An authority and a path in a row, neither with a character that ends it, are read as such. -/
theorem ofSite_append {authority path : List Char} (ha : authority.all isHostPart = true)
    (hr : path.head? = some '/') (hp : path.all isPathPart = true) :
    ofSite (authority ++ path) = (do
      Authority.check authority
      if path.all isPathChar then
        return ⟨String.ofList authority, String.ofList path, none⟩
      else .error .character) := by
  obtain ⟨rest, rfl⟩ : ∃ rest, path = '/' :: rest := by
    cases path with
    | nil => cases hr
    | cons c rest => cases hr; exact ⟨rest, rfl⟩
  have hauth : ∀ c ∈ authority, (!(c = '/' || c = '?' || c = '#')) = true := by
    intro c hc
    have hpart := List.all_eq_true.mp ha c hc
    simpa [isHostPart] using hpart
  have hparts : ∀ c ∈ '/' :: rest, c ≠ '?' ∧ c ≠ '#' := by
    intro c hc
    have hpart := List.all_eq_true.mp hp c hc
    simpa [isPathPart] using hpart
  have hfragment : ('/' :: rest).takeWhile (· ≠ '#') = '/' :: rest :=
    List.takeWhile_eq_self_iff.mpr fun c hc ↦ decide_eq_true (hparts c hc).2
  have hquery : ∀ c ∈ '/' :: rest, decide (c ≠ '?') = true :=
    fun c hc ↦ decide_eq_true (hparts c hc).1
  have hpath : ('/' :: rest).takeWhile (· ≠ '?') = '/' :: rest :=
    List.takeWhile_eq_self_iff.mpr hquery
  have hnone : ('/' :: rest).dropWhile (· ≠ '?') = [] := List.dropWhile_eq_nil_iff.mpr hquery
  unfold ofSite
  dsimp only
  rw [List.takeWhile_append_of_pos hauth, List.dropWhile_append_of_pos hauth,
    List.takeWhile_cons_of_neg (by simp), List.dropWhile_cons_of_neg (by simp), List.append_nil,
    hfragment, hpath, hnone]
  simp

/-- A server can read a request exactly if its path is rooted. -/
theorem isReadable_iff {request : Request} :
    request.isReadable = true ↔ request.path.toList.head? = some '/' := by
  rw [isReadable, decide_eq_true_eq, target]
  cases request.query with
  | none => rfl
  | some q =>
    -- If there is no path, the target begins with the question mark.
    dsimp only
    rw [String.append_assoc, String.toList_append, List.head?_append]
    cases request.path.toList with
    | nil =>
      rw [String.toList_append]
      exact iff_of_false (by simp) nofun
    | cons c rest => rfl

end Request

/-- Each character of a URI takes an octet or more. -/
theorem length_le_utf8ByteSize (s : String) : s.toList.length ≤ s.utf8ByteSize := by
  have hlength : ∀ cs : List Char, cs.length ≤ String.utf8Len cs := by
    intro cs
    induction cs with
    | nil => exact Nat.le_refl _
    | cons c rest ih =>
      have hc := c.utf8Size_pos
      rw [String.utf8Len_cons, List.length_cons]
      omega
  have hsize := String.utf8ByteSize_ofList s.toList
  rw [String.ofList_toList] at hsize
  rw [hsize]
  exact hlength s.toList

namespace Endpoint

variable {e : Endpoint}

/-- The host and the port. -/
def authority (e : Endpoint) : String := s!"{e.host}:{e.port}"

theorem startsWith_rooted (path : String) : (rooted path).startsWith "/" = true := by
  unfold rooted
  split
  · assumption
  · rw [String.startsWith_string_iff, String.toList_append]
    exact List.prefix_append ..

theorem rooted_of_startsWith {path : String} (h : path.startsWith "/" = true) :
    rooted path = path := if_pos h

theorem rooted_of_not_startsWith {path : String} (h : path.startsWith "/" ≠ true) :
    rooted path = "/" ++ path := if_neg h

/-- No part of the URI of an endpoint holds a character that begins another part. -/
structure Plain (e : Endpoint) : Prop where
  host : e.host.toList.all Request.isHostPart = true
  rooted : e.path.startsWith "/" = true
  path : e.path.toList.all Request.isPathPart = true

theorem toList_uri (e : Endpoint) :
    e.uri.toList = 'w' :: 's' :: ':' :: '/' :: '/' :: (e.authority.toList ++ e.path.toList) := by
  have huri : e.uri = "ws://" ++ (e.authority ++ e.path) := by
    change "ws://" ++ e.host ++ ":" ++ toString e.port ++ e.path =
      "ws://" ++ (e.host ++ ":" ++ toString e.port ++ e.path)
    simp only [String.append_assoc]
  rw [huri, String.toList_append, String.toList_append]
  rfl

theorem Plain.authority (h : e.Plain) : e.authority.toList.all Request.isHostPart = true := by
  have hport : (toString e.port).toList.all Request.isHostPart = true := by
    change (String.ofList (Nat.toDigits 10 e.port.toNat)).toList.all Request.isHostPart = true
    rw [String.toList_ofList, List.all_eq_true]
    intro c hc
    have hdigit := Nat.isDigit_of_mem_toDigits (by decide) (by decide) hc
    have hne : c ≠ '/' ∧ c ≠ '?' ∧ c ≠ '#' := by
      refine ⟨?_, ?_, ?_⟩ <;> rintro rfl <;> cases hdigit
    simpa [Request.isHostPart, and_assoc] using hne
  have hsplit : e.authority = e.host ++ ":" ++ toString e.port := rfl
  rw [hsplit, String.toList_append, String.toList_append, List.all_append, List.all_append, h.host,
    hport]
  rfl

theorem Plain.head?_path (h : e.Plain) : e.path.toList.head? = some '/' := by
  obtain ⟨rest, hrest⟩ := (String.startsWith_string_iff.mp h.rooted)
  rw [← hrest]
  rfl

theorem Plain.isReadable (h : e.Plain) (authority : String) (query : Option String) :
    Request.isReadable ⟨authority, e.path, query⟩ = true :=
  Request.isReadable_iff.mpr h.head?_path

/-- The client accepts the URI of a plain endpoint exactly if it is not too long, its authority is
one and its path has no character that may not stand there; and then it asks for the path. -/
theorem Plain.ofUri_eq_ok (h : e.Plain) {request : Request} :
    Request.ofUri e.uri = .ok request ↔
      request = ⟨e.authority, e.path, none⟩ ∧ e.uri.utf8ByteSize ≤ Request.longest ∧
        Request.Authority.check e.authority.toList = .ok () ∧
        e.path.toList.all Request.isPathChar = true := by
  unfold Request.ofUri
  split
  · rename_i hlong
    exact iff_of_false nofun fun hok ↦ absurd hok.2.1 (Nat.not_le_of_lt hlong)
  · rename_i hshort
    rw [toList_uri]
    change Request.ofSite (e.authority.toList ++ e.path.toList) = _ ↔ _
    rw [Request.ofSite_append h.authority h.head?_path h.path]
    cases Request.Authority.check e.authority.toList with
    | error cause => exact iff_of_false nofun fun hok ↦ nomatch hok.2.2.1
    | ok u =>
      change (if _ then _ else _) = _ ↔ _
      split
      · rename_i hchars
        rw [String.ofList_toList, String.ofList_toList]
        exact ⟨fun hok ↦ ⟨by cases hok; rfl, Nat.le_of_not_lt hshort, rfl, hchars⟩,
          fun hok ↦ by rw [hok.1]; rfl⟩
      · rename_i hchars
        exact iff_of_false nofun fun hok ↦ hchars hok.2.2.2

/-- The echo route of a server on this machine. -/
def root : Endpoint := ⟨"127.0.0.1", 8765, "/", .identity⟩

theorem root_plain : root.Plain :=
  ⟨by decide, String.startsWith_string_iff.mpr (by decide), by decide⟩

theorem ofUri_root : Request.ofUri root.uri = .ok ⟨root.authority, "/", none⟩ :=
  root_plain.ofUri_eq_ok.mpr ⟨rfl, by decide, by decide, by decide⟩

end Endpoint

end Lockstep
