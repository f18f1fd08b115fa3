import StreamPipeline.Http.Url
import StreamPipeline.Proofs.Text.Spans

/-! # The server of a location

The scheme and the authority of a location are read before its path. A location whose path goes on
is on the same server.
-/

namespace StreamPipeline.Http.Url

open Text

section Spans

variable {α : Type} {p : α → Bool} {a : α}

theorem dropWhile_append_cons (h : p a = false) (l m : List α) :
    (l ++ a :: m).dropWhile p = l.dropWhile p ++ a :: m := by
  induction l with
  | nil => simp [h]
  | cons b l ih => cases hb : p b <;> simp [hb, ih]

theorem takeWhile_append_cons (h : p a = false) (l m : List α) :
    (l ++ a :: m).takeWhile p = l.takeWhile p := by
  induction l with
  | nil => simp [h]
  | cons b l ih => cases hb : p b <;> simp [hb, ih]

end Spans

theorem splitFirstChars_longer {sep : Char} {cs before after : List Char}
    (h : splitFirstChars sep cs = some (before, after)) (more : List Char) :
    splitFirstChars sep (cs ++ more) = some (before, after ++ more) := by
  induction cs generalizing before with
  | nil => cases h
  | cons c cs ih =>
    rw [splitFirstChars] at h
    rw [List.cons_append, splitFirstChars]
    split at h
    next hc => cases h; rw [if_pos hc]
    next hc =>
      obtain ⟨⟨b, a⟩, hp, he⟩ := Option.map_eq_some_iff.mp h
      cases he
      rw [if_neg hc, ih hp]
      rfl

/-- What follows a scheme, which ends with the first colon. -/
theorem scheme?_longer {cs rest : List Char} {secure : Bool}
    (h : scheme? cs = some (secure, rest)) :
    (∃ name, cs = name ++ ':' :: rest) ∧
      ∀ more, scheme? (cs ++ more) = some (secure, rest ++ more) := by
  rw [scheme?] at h
  obtain ⟨⟨name, left⟩, hs, h⟩ := Option.bind_eq_some_iff.mp h
  dsimp only at h
  split at h
  next hn =>
    cases h
    refine ⟨⟨name, splitFirstChars_append hs⟩, fun more => ?_⟩
    rw [scheme?, splitFirstChars_longer hs more]
    exact if_pos hn
  next hn =>
    split at h
    next hn' =>
      cases h
      refine ⟨⟨name, splitFirstChars_append hs⟩, fun more => ?_⟩
      rw [scheme?, splitFirstChars_longer hs more]
      exact (if_neg hn).trans (if_pos hn')
    next => cases h

/-- Whether the server is asked securely, and its authority. -/
def server? (cs : List Char) : Option (Bool × String) := do
  let (secure, rest) ← scheme? cs
  let isSlash (c : Char) : Bool := c == '/' || c == '\\'
  let (authority, _) :=
    cut (fun c => isSlash c || c == '?' || c == '#') (rest.dropWhile isSlash)
  let authority ← normalAuthority secure authority
  return (secure, authority)

/-- A location can be asked exactly if it has a server. -/
theorem map_parse? (s : String) :
    (parse? s).map (fun u => (u.secure, u.authority)) = server? (cleaned s) := by
  rw [parse?, server?]
  cases scheme? (cleaned s) with
  | none => rfl
  | some p =>
    obtain ⟨secure, rest⟩ := p
    simp only [Option.bind_eq_bind, Option.bind_some, Option.map_bind]
    rfl

/-- The path at which sessions are opened. -/
def sessionsPath : List Char := ['/', 'v', '1', '/', 's', 'e', 's', 's', 'i', 'o', 'n', 's']

theorem toList_sessionsPath : "/v1/sessions".toList = sessionsPath := rfl

/-- Within that path an authority has ended. -/
theorem takeWhile_dropWhile_sessionsPath (isSlash ends : Char → Bool) (hslash : isSlash 'v' = false)
    (hends : ends '/' = false) (r more : List Char) :
    ((r ++ (sessionsPath ++ more)).dropWhile isSlash).takeWhile ends =
      ((r ++ ['/']).dropWhile isSlash ++ ['v', '1']).takeWhile ends := by
  have hr : r ++ (sessionsPath ++ more) =
      (r ++ ['/']) ++ 'v' :: '1' :: '/' :: (sessionsPath.drop 4 ++ more) := by
    simp [sessionsPath]
  have hv (l m : List Char) : l ++ 'v' :: '1' :: '/' :: m = (l ++ ['v', '1']) ++ '/' :: m := by simp
  rw [hr, dropWhile_append_cons hslash, hv, takeWhile_append_cons hends]

/-- What goes on behind that path is no part of the server. -/
theorem server?_longer {before : List Char} {server : Bool × String}
    (h : server? (before ++ sessionsPath) = some server) (more : List Char) :
    server? (before ++ (sessionsPath ++ more)) = some server := by
  rw [server?] at h ⊢
  obtain ⟨⟨secure, rest⟩, hs, h⟩ := Option.bind_eq_some_iff.mp h
  obtain ⟨⟨name, hname⟩, hlonger⟩ := scheme?_longer hs
  -- The colon stands before the path, so all of the path follows it.
  obtain ⟨r, rfl⟩ : ∃ r, rest = r ++ sessionsPath := by
    rcases List.append_eq_append_iff.mp hname with ⟨a, -, ha⟩ | ⟨a, -, ha⟩
    · exact absurd (ha ▸ List.mem_append_right a List.mem_cons_self) (by decide)
    · cases a with
      | nil => exact absurd (ha ▸ List.mem_cons_self) (by decide)
      | cons c r => exact ⟨r, (List.cons.inj ha).2⟩
  have hpath (more : List Char) := takeWhile_dropWhile_sessionsPath
    (fun c => c == '/' || c == '\\')
    (fun c => !(c == '/' || c == '\\' || c == '?' || c == '#')) rfl rfl r more
  have hnil := hpath []
  rw [List.append_nil] at hnil
  rw [← List.append_assoc, hlonger more, List.append_assoc]
  simp only [Option.bind_eq_bind, Option.bind_some, cut, hpath, hnil] at h ⊢
  exact h

/-! ### Blanks around a location -/

/-- The characters that are dropped around a location. -/
def isOuter (c : Char) : Bool := c.toNat ≤ 0x20

/-- The characters that are left in it. -/
def isKept (c : Char) : Bool := !(c == '\t' || c == '\n' || c == '\r')

def withoutEnd (cs : List Char) : List Char := (cs.reverse.dropWhile isOuter).reverse

theorem cleaned_eq (s : String) :
    cleaned s = (withoutEnd (s.toList.dropWhile isOuter)).filter isKept := rfl

/-- Nothing is dropped next to the path. -/
theorem cleaned_sessionsPath {s : String} {gateway more : List Char}
    (hs : s.toList = gateway ++ (sessionsPath ++ more)) :
    cleaned s = (gateway.dropWhile isOuter).filter isKept ++
      (sessionsPath ++ (withoutEnd more).filter isKept) := by
  have hfirst : sessionsPath = '/' :: sessionsPath.tail := rfl
  have hlast : sessionsPath.reverse = 's' :: sessionsPath.reverse.tail := rfl
  have hkept : sessionsPath.filter isKept = sessionsPath := rfl
  rw [cleaned_eq, hs, hfirst, List.cons_append, dropWhile_append_cons rfl, ← List.cons_append,
    ← hfirst, withoutEnd, List.reverse_append, List.reverse_append, List.append_assoc, hlast,
    List.cons_append, dropWhile_append_cons rfl, ← List.cons_append, ← hlast]
  simp only [withoutEnd, List.reverse_append, List.reverse_reverse, List.filter_append, hkept,
    List.append_assoc]

/-- A location that goes on behind the path of sessions is on the same server, so it can be asked if
the path can. -/
theorem parse?_longer {gateway : String} {url : Url}
    (h : parse? (gateway ++ "/v1/sessions") = some url) (more : String) :
    ∃ longer, parse? (gateway ++ "/v1/sessions" ++ more) = some longer ∧
      longer.secure = url.secure ∧ longer.authority = url.authority := by
  have hs := map_parse? (gateway ++ "/v1/sessions")
  have hl := map_parse? (gateway ++ "/v1/sessions" ++ more)
  have hpath : (gateway ++ "/v1/sessions").toList = gateway.toList ++ (sessionsPath ++ []) := by
    rw [String.toList_append, toList_sessionsPath, List.append_nil]
  have hmore : (gateway ++ "/v1/sessions" ++ more).toList =
      gateway.toList ++ (sessionsPath ++ more.toList) := by
    rw [String.toList_append, String.toList_append, toList_sessionsPath, List.append_assoc]
  have hnil : (withoutEnd []).filter isKept = [] := rfl
  rw [cleaned_sessionsPath hpath, h, hnil, List.append_nil] at hs
  rw [cleaned_sessionsPath hmore, server?_longer hs.symm] at hl
  obtain ⟨longer, hlonger, he⟩ := Option.map_eq_some_iff.mp hl
  obtain ⟨hsecure, hauthority⟩ := Prod.mk.inj he
  exact ⟨longer, hlonger, hsecure, hauthority⟩

end StreamPipeline.Http.Url
