import Eisenberg.Framework.Dict
import Mathlib.Data.List.Infix

/-!
# Cookie jars

Which requests a cookie is sent with: the host is the cookie's own, or below its domain where the
cookie is not for one host alone; the path is the cookie's or below it. A cookie set by name and
value for a URL is for the host of the URL alone, and for its path up to the last slash.
-/

namespace Framework.CookieJar

def isHostChar (c : Char) : Bool :=
  c.isLower || c.isDigit || c = '-' || c = '_' || c = '.' || c = ':'

/-- A host as a request has it: a name in lower case, or an address. -/
structure Host where
  chars : List Char
  nonempty : chars ≠ []
  noDot : chars.head? ≠ some '.'
  plain : chars.all isHostChar = true
  deriving DecidableEq

/-- The path of a request or of a cookie. -/
structure AbsPath where
  chars : List Char
  rooted : chars.head? = some '/'
  deriving DecidableEq

/-! ## Hosts -/

namespace Host

@[ext] theorem ext {h k : Host} (heq : h.chars = k.chars) : h = k := by
  cases h
  cases k
  cases heq
  rfl

/-- Digits and dots, or something with a colon. -/
def isAddress (h : Host) : Bool := h.chars.contains ':' || h.chars.all fun c => c.isDigit || c = '.'

/-- The host is the domain, or a name below it. -/
def domainMatch (domain h : Host) : Prop :=
  h = domain ∨ ('.' :: domain.chars) <:+ h.chars ∧ h.isAddress = false

instance (domain h : Host) : Decidable (domainMatch domain h) :=
  inferInstanceAs (Decidable (_ ∨ _))

/-- A name below a domain. -/
def below (domain : Host) : Host where
  chars := 'x' :: '.' :: domain.chars
  nonempty := List.cons_ne_nil _ _
  noDot := by simp
  plain := by
    rw [List.all_cons, List.all_cons, domain.plain]
    rfl

theorem below_ne (domain : Host) : domain.below ≠ domain := by
  intro h
  have hlength : domain.chars.length + 1 + 1 = domain.chars.length :=
    congrArg (fun h : Host => h.chars.length) h
  omega

theorem domainMatch_below {domain : Host} (h : ':' ∉ domain.chars) :
    domainMatch domain domain.below := by
  refine Or.inr ⟨List.suffix_cons _ _, ?_⟩
  simp [isAddress, below, h]

end Host

/-! ## Paths -/

namespace AbsPath

@[ext] theorem ext {p q : AbsPath} (heq : p.chars = q.chars) : p = q := by
  cases p
  cases q
  cases heq
  rfl

def root : AbsPath := ⟨['/'], rfl⟩

/-- The path of the request is the cookie's, or below it. -/
def pathMatch (cookie request : AbsPath) : Prop :=
  request = cookie ∨ cookie.chars <+: request.chars ∧
    (cookie.chars.getLast? = some '/' ∨ cookie.chars ++ ['/'] <+: request.chars)

instance (cookie request : AbsPath) : Decidable (pathMatch cookie request) :=
  inferInstanceAs (Decidable (_ ∨ _))

theorem prefix_of_pathMatch {p q : AbsPath} (h : pathMatch p q) : p.chars <+: q.chars := by
  rcases h with rfl | h
  · exact List.prefix_refl _
  · exact h.1

theorem pathMatch_self (p : AbsPath) : pathMatch p p := Or.inl rfl

theorem pathMatch_antisymm {p q : AbsPath} (h : pathMatch p q) (h' : pathMatch q p) : p = q :=
  AbsPath.ext ((prefix_of_pathMatch h).eq_of_length
    ((prefix_of_pathMatch h).length_le.antisymm (prefix_of_pathMatch h').length_le))

/-- A path up to its last slash, that one left out. -/
def upTo (chars : List Char) : List Char := (chars.reverse.dropWhile (· ≠ '/')).tail.reverse

theorem upTo_prefix (chars : List Char) : upTo chars <+: chars := by
  have hsuffix : (chars.reverse.dropWhile (· ≠ '/')).tail <:+ chars.reverse :=
    (List.tail_suffix _).trans (List.dropWhile_suffix _)
  have hprefix := List.reverse_prefix.mpr hsuffix
  rw [List.reverse_reverse] at hprefix
  exact hprefix

theorem length_upTo_lt {chars : List Char} (h : chars ≠ []) :
    (upTo chars).length < chars.length := by
  have hpos := List.length_pos_iff.mpr h
  have hdrop := (List.dropWhile_suffix (l := chars.reverse) (· ≠ '/')).length_le
  rw [List.length_reverse] at hdrop
  rw [upTo, List.length_reverse, List.length_tail]
  omega

/-- The path that a cookie is for when a URL with this path sets it. -/
def defaultPath (p : AbsPath) : AbsPath :=
  if h : upTo p.chars = [] then root
  else ⟨upTo p.chars, by
    obtain ⟨rest, hrest⟩ := upTo_prefix p.chars
    obtain ⟨c, tail, hcons⟩ := List.exists_cons_of_ne_nil h
    have hhead := p.rooted
    rw [← hrest, hcons] at hhead
    rw [hcons]
    exact hhead⟩

example : (defaultPath ⟨"/api/auth".toList, rfl⟩).chars = "/api".toList ∧
    defaultPath ⟨"/api".toList, rfl⟩ = root := by decide

theorem exists_chars_eq (p : AbsPath) : ∃ rest, p.chars = '/' :: rest := by
  have hhead := p.rooted
  cases hchars : p.chars with
  | nil =>
    rw [hchars] at hhead
    cases hhead
  | cons c rest =>
    rw [hchars] at hhead
    rw [Option.some.inj hhead]
    exact ⟨rest, rfl⟩

theorem chars_ne_nil (p : AbsPath) : p.chars ≠ [] := by
  obtain ⟨rest, hrest⟩ := p.exists_chars_eq
  rw [hrest]
  exact List.cons_ne_nil _ _

theorem eq_root_of_length {p : AbsPath} (h : p.chars.length ≤ 1) : p = root := by
  obtain ⟨rest, hcons⟩ := p.exists_chars_eq
  have hrest : rest = [] := by
    rw [hcons, List.length_cons] at h
    exact List.length_eq_zero_iff.mp (by omega)
  apply AbsPath.ext
  rw [hcons, hrest]
  rfl

theorem defaultPath_root : defaultPath root = root := by decide

/-- Any other path than the root is shorter than the one it is taken from. -/
theorem length_defaultPath_lt {p : AbsPath} (h : defaultPath p ≠ root) :
    (defaultPath p).chars.length < p.chars.length := by
  unfold defaultPath at h ⊢
  split_ifs at h ⊢
  · exact absurd rfl h
  · exact length_upTo_lt p.chars_ne_nil

end AbsPath

/-! ## Jars -/

open Host AbsPath

/-- What tells a cookie from the others of its jar. -/
structure CookieId where
  name : String
  domain : Host
  path : AbsPath
  deriving DecidableEq

structure CookieBody where
  value : String
  hostOnly : Bool
  deriving DecidableEq

abbrev Jar := Dict CookieId CookieBody

/-- The cookie goes with a request for this path of this host. -/
def SentTo (id : CookieId) (body : CookieBody) (host : Host) (path : AbsPath) : Prop :=
  (if body.hostOnly then host = id.domain else domainMatch id.domain host) ∧
    pathMatch id.path path

/-- Set a cookie by name and value, for a URL of this host and path. -/
def update (jar : Jar) (name value : String) (host : Host) (path : AbsPath) : Jar :=
  jar.set ⟨name, host, path.defaultPath⟩ ⟨value, true⟩

section Scope

variable {id id' : CookieId} {body body' : CookieBody}

/-- The two go with the same requests. -/
def SameScope (id : CookieId) (body : CookieBody) (id' : CookieId) (body' : CookieBody) : Prop :=
  ∀ host path, SentTo id body host path ↔ SentTo id' body' host path

theorem sentTo_self (id : CookieId) (body : CookieBody) : SentTo id body id.domain id.path := by
  refine ⟨?_, pathMatch_self id.path⟩
  split_ifs
  · rfl
  · exact Or.inl rfl

theorem host_of_sentTo {host : Host} {path : AbsPath} (h : body.hostOnly = true)
    (hsent : SentTo id body host path) : host = id.domain := by
  have hhost := hsent.1
  rw [if_pos h] at hhost
  exact hhost

/-- What goes where a cookie for one host goes has its host and its path, and is for that host alone
as well. -/
theorem SameScope.of_hostOnly (h : body.hostOnly = true) (hscope : SameScope id body id' body') :
    id'.domain = id.domain ∧ id'.path = id.path ∧
      (':' ∉ id'.domain.chars → body'.hostOnly = true) := by
  have hother := (hscope id'.domain id'.path).mpr (sentTo_self id' body')
  have hown := (hscope id.domain id.path).mp (sentTo_self id body)
  have hdomain := host_of_sentTo h hother
  refine ⟨hdomain, pathMatch_antisymm hown.2 hother.2, ?_⟩
  intro hname
  by_contra hopen
  have hbelow : SentTo id' body' id'.domain.below id'.path := by
    refine ⟨?_, pathMatch_self id'.path⟩
    rw [if_neg hopen]
    exact domainMatch_below hname
  have hsame := host_of_sentTo h ((hscope _ _).mpr hbelow)
  exact below_ne id'.domain (hsame.trans hdomain.symm)

end Scope

end Framework.CookieJar
