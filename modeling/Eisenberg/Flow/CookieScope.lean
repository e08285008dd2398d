import Eisenberg.Coordinator.Setup
import Eisenberg.Flow.TrustCookie
import Eisenberg.Framework.BestOf
import Eisenberg.Framework.CookieJar
import Eisenberg.Framework.Separator

/-!
# Where a restored trust cookie is sent

A login saves of a trust cookie its name, value, domain and path. The next setup gives name and
value to a fresh jar, under the URL made of the domain and the path: the cookie it sets is for that
host alone, and for the path up to its last slash.
-/

namespace Eisenberg.Flow

open Framework Framework.CookieJar Coordinator

/-! ## Saving -/

/-- What the morsel of a cookie shows: not whether it is for its host alone. -/
def morsel (id : CookieId) (body : CookieBody) : Cookie where
  name := id.name
  value := body.value
  domain := String.ofList id.domain.chars
  path := String.ofList id.path.chars

def morsels (jar : Jar) : List Cookie := jar.entries.map fun entry => morsel entry.1 entry.2

/-- What is saved of a jar: by the config flow, or by the coordinator, where a jar without a trust
cookie leaves what was saved before. -/
inductive SavedOf (jar : Jar) : List Cookie → Prop
  | serializeCookies : SavedOf jar (serializeCookies (morsels jar))
  | saveCookies (s : CoordinatorState) (hsession : s.httpSession = true) :
      SavedOf jar ((saveCookies (morsels jar) s).trustCookies.getD [])

def isTrusted (id : CookieId) : Bool := id.name.startsWith trustCookiePrefix

def trusted (jar : Jar) : List (CookieId × CookieBody) :=
  jar.entries.filter fun entry => isTrusted entry.1

/-! ## Restoring -/

/-- `URL(text)` of yarl: the host and the path of an absolute URL, where it is one. -/
abbrev UrlReader := String → Option (Host × AbsPath)

def urlText (host : Host) (path : AbsPath) : String :=
  "https://" ++ String.ofList host.chars ++ String.ofList path.chars

/-- What is known of the reader. A name is read as it stands, and a path does not get longer when
its escapes are decoded; a bare address with colons is never read as the host. -/
structure ReadsUrls (url : UrlReader) : Prop where
  named : ∀ (host : Host) (path : AbsPath), ':' ∉ host.chars →
    ∃ read, url (urlText host path) = some (host, read) ∧
      read.chars.length ≤ path.chars.length
  bare : ∀ (host : Host) (path : AbsPath) read, ':' ∈ host.chars →
    url (urlText host path) = some read → ':' ∉ read.1.chars

def setupEnv (url : UrlReader) : SetupEnv where
  parseUrl := fun text =>
    if (url text).isSome then .ok () else .error (.builtin .valueError "Invalid URL")
  clientReady := true
  mediaPath := true

/-- `cookie_jar.update_cookies({name: value}, URL(text))`. -/
def updateCookies (url : UrlReader) (jar : Jar) (cookie : String × String × String) : Jar :=
  match url cookie.2.2 with
  | some (host, path) => CookieJar.update jar cookie.1 cookie.2.1 host path
  | none => jar

/-- The jar that the setup makes of the saved cookies. -/
def restoredJar (url : UrlReader) (saved : List Cookie) : Except Exc Jar := do
  let cookies ← restoreCookies (setupEnv url) saved
  return cookies.foldl (updateCookies url) Dict.empty

/-- Each trust cookie of the jar is restored as one that goes with the same requests, with the same
value. -/
def SentWhereSaved (url : UrlReader) (jar : Jar) (saved : List Cookie) : Prop :=
  ∀ id body, jar.get? id = some body → isTrusted id = true →
    ∃ restored, restoredJar url saved = .ok restored ∧
      ∃ id' body', restored.get? id' = some body' ∧ id'.name = id.name ∧
        body'.value = body.value ∧ SameScope id' body' id body

/-- The trust cookies are for their hosts alone and for every path, and no host is an address with
colons. -/
def AllAtRoot (jar : Jar) : Prop :=
  ∀ id body, jar.get? id = some body → isTrusted id = true →
    body.hostOnly = true ∧ id.path = AbsPath.root ∧ ':' ∉ id.domain.chars

section Saved

variable {jar : Jar} {saved : List Cookie}

theorem filter_morsels (jar : Jar) :
    (morsels jar).filter (fun cookie => cookie.name.startsWith trustCookiePrefix) =
      (trusted jar).map fun entry => morsel entry.1 entry.2 := by
  rw [morsels, List.filter_map]
  rfl

/-- Both save the same, where there is something to save. -/
theorem saved_eq (h : SavedOf jar saved) (hne : trusted jar ≠ []) :
    saved = (trusted jar).map fun entry => morsel entry.1 entry.2 := by
  cases h with
  | serializeCookies => exact filter_morsels jar
  | saveCookies s hsession =>
    have hfilter := filter_morsels jar
    unfold Coordinator.saveCookies
    rw [if_pos hsession, hfilter]
    cases hentries : trusted jar with
    | nil => exact absurd hentries hne
    | cons entry entries => rfl

theorem mem_trusted {id : CookieId} {body : CookieBody} :
    (id, body) ∈ trusted jar ↔ jar.get? id = some body ∧ isTrusted id = true := by
  rw [trusted, List.mem_filter, Dict.mem_entries_iff]

end Saved

section Restored

variable {url : UrlReader} {entries : List (CookieId × CookieBody)}

theorem cookieUrl_morsel (id : CookieId) (body : CookieBody) :
    cookieUrl (morsel id body) = urlText id.domain id.path := by
  have hdot : ¬ (morsel id body).domain.startsWith "." = true := by
    rw [String.startsWith_string_iff]
    rintro ⟨rest, hrest⟩
    have hchars : '.' :: rest = id.domain.chars := by
      simpa [morsel] using hrest
    apply id.domain.noDot
    rw [← hchars]
    rfl
  rw [cookieUrl, if_neg hdot]
  rfl

/-- What the restored cookie of an entry is, once its URL is read. -/
def restoredEntry (url : UrlReader) (entry : CookieId × CookieBody) :
    Option (CookieId × CookieBody) :=
  (url (urlText entry.1.domain entry.1.path)).map fun read =>
    (⟨entry.1.name, read.1, read.2.defaultPath⟩, ⟨entry.2.value, true⟩)

/-- The name, value and URL that an entry is restored with. -/
def restoreRecord (entry : CookieId × CookieBody) : String × String × String :=
  (entry.1.name, entry.2.value, urlText entry.1.domain entry.1.path)

theorem restoreCookies_cons {entry : CookieId × CookieBody} (hentry : isTrusted entry.1 = true)
    (cookies : List Cookie) :
    restoreCookies (setupEnv url) (morsel entry.1 entry.2 :: cookies) =
      if (url (urlText entry.1.domain entry.1.path)).isSome = true then
        (restoreCookies (setupEnv url) cookies).map (restoreRecord entry :: ·)
      else .error (.builtin .valueError "Invalid URL") := by
  have hname : (morsel entry.1 entry.2).name.startsWith trustCookiePrefix = true := hentry
  rw [restoreCookies, if_pos hname, cookieUrl_morsel]
  by_cases hread : (url (urlText entry.1.domain entry.1.path)).isSome = true
  · have hparse : (setupEnv url).parseUrl (urlText entry.1.domain entry.1.path) = .ok () :=
      if_pos hread
    rw [hparse, if_pos hread]
    cases restoreCookies (setupEnv url) cookies <;> rfl
  · have hparse : (setupEnv url).parseUrl (urlText entry.1.domain entry.1.path) =
        .error (.builtin .valueError "Invalid URL") := if_neg hread
    rw [hparse, if_neg hread]
    rfl

/-- The restore ends where every URL is read, and gives every entry to the jar. -/
theorem restoreCookies_eq_ok_iff (htrusted : ∀ entry ∈ entries, isTrusted entry.1 = true)
    {cookies : List (String × String × String)} :
    restoreCookies (setupEnv url) (entries.map fun entry => morsel entry.1 entry.2) =
        .ok cookies ↔
      (∀ entry ∈ entries, (url (urlText entry.1.domain entry.1.path)).isSome = true) ∧
        cookies = entries.map restoreRecord := by
  induction entries generalizing cookies with
  | nil =>
    constructor
    · rintro ⟨⟩
      exact ⟨fun entry hentry => absurd hentry List.not_mem_nil, rfl⟩
    · rintro ⟨-, rfl⟩
      rfl
  | cons entry entries ih =>
    obtain ⟨hentry, hentries⟩ := List.forall_mem_cons.mp htrusted
    rw [List.map_cons, restoreCookies_cons hentry, List.forall_mem_cons, List.map_cons]
    by_cases hread : (url (urlText entry.1.domain entry.1.path)).isSome = true
    · rw [if_pos hread]
      constructor
      · intro h
        cases hrest : restoreCookies (setupEnv url)
            (entries.map fun entry => morsel entry.1 entry.2) with
        | error err =>
          rw [hrest] at h
          cases h
        | ok rest =>
          obtain ⟨hall, rfl⟩ := (ih hentries).mp hrest
          rw [hrest] at h
          cases h
          exact ⟨⟨hread, hall⟩, rfl⟩
      · rintro ⟨⟨-, hall⟩, rfl⟩
        rw [(ih hentries).mpr ⟨hall, rfl⟩]
        rfl
    · rw [if_neg hread]
      simp [hread]

theorem foldl_updateCookies (entries : List (CookieId × CookieBody)) :
    (entries.map restoreRecord).foldl (updateCookies url) Dict.empty =
      Dict.ofEntries (entries.filterMap (restoredEntry url)) := by
  rw [List.foldl_map, Dict.ofEntries, List.foldl_filterMap]
  congr 1
  funext d entry
  rw [updateCookies, restoredEntry, restoreRecord]
  cases url (urlText entry.1.domain entry.1.path) <;> rfl

/-- The jar that is made of saved trust cookies, where their URLs are read. -/
theorem restoredJar_eq_ok_iff (htrusted : ∀ entry ∈ entries, isTrusted entry.1 = true)
    {restored : Jar} :
    restoredJar url (entries.map fun entry => morsel entry.1 entry.2) = .ok restored ↔
      (∀ entry ∈ entries, (url (urlText entry.1.domain entry.1.path)).isSome = true) ∧
        restored = Dict.ofEntries (entries.filterMap (restoredEntry url)) := by
  rw [restoredJar]
  cases hrestore : restoreCookies (setupEnv url)
      (entries.map fun entry => morsel entry.1 entry.2) with
  | error err =>
    constructor
    · rintro ⟨⟩
    · rintro ⟨hall, -⟩
      have hok := (restoreCookies_eq_ok_iff htrusted).mpr ⟨hall, rfl⟩
      rw [hrestore] at hok
      cases hok
  | ok cookies =>
    obtain ⟨hall, rfl⟩ := (restoreCookies_eq_ok_iff htrusted).mp hrestore
    rw [← foldl_updateCookies]
    constructor
    · rintro ⟨⟩
      exact ⟨hall, rfl⟩
    · rintro ⟨-, rfl⟩
      rfl

/-- Every cookie of that jar was saved, and is for the host that its URL was read with. -/
theorem of_restored {id : CookieId} {body : CookieBody}
    (h : (Dict.ofEntries (entries.filterMap (restoredEntry url))).get? id = some body) :
    ∃ entry ∈ entries, ∃ read, url (urlText entry.1.domain entry.1.path) = some read ∧
      id.domain = read.1 ∧ id.path = read.2.defaultPath ∧ body.hostOnly = true := by
  have hmem := Dict.mem_of_mem_ofEntries (Dict.mem_entries_iff.mpr h)
  obtain ⟨entry, hentry, hrestored⟩ := List.mem_filterMap.mp hmem
  obtain ⟨read, hread, heq⟩ := Option.map_eq_some_iff.mp hrestored
  cases heq
  exact ⟨entry, hentry, read, hread, rfl, rfl, rfl⟩

/-- An entry for its host alone and for every path is restored as it was. -/
theorem restoredEntry_of_root (hurl : ReadsUrls url) {id : CookieId} {body : CookieBody}
    (hhost : body.hostOnly = true) (hpath : id.path = AbsPath.root)
    (hname : ':' ∉ id.domain.chars) : restoredEntry url (id, body) = some (id, body) := by
  obtain ⟨read, hread, hlength⟩ := hurl.named id.domain id.path hname
  have hroot : read = AbsPath.root := by
    apply AbsPath.eq_root_of_length
    rw [hpath] at hlength
    exact hlength
  obtain ⟨name, domain, path⟩ := id
  obtain ⟨value, hostOnly⟩ := body
  cases hhost
  cases hpath
  rw [restoredEntry, hread, hroot, Option.map_some, AbsPath.defaultPath_root]
  rfl

end Restored

/-! ## A reader of plain URLs -/

/-- What follows the authority of a URL starts with one of these. -/
def inAuthority (c : Char) : Bool := decide (c ∉ ['/', '?', '#'])

def inPath (c : Char) : Bool := decide (c ∉ ['?', '#'])

def hostOf (chars : List Char) : Option Host :=
  if h : chars ≠ [] ∧ chars.head? ≠ some '.' ∧ chars.all isHostChar = true then
    some ⟨chars, h.1, h.2.1, h.2.2⟩
  else none

def pathOf : List Char → Option AbsPath
  | [] => some AbsPath.root
  | c :: rest => if h : c = '/' then some ⟨c :: rest, congrArg some h⟩ else none

/-- A name, or digits and dots, in front of the port; then a path without escapes. -/
def plainUrl : UrlReader := fun text => do
  let rest ← "https://".toList.isPrefixOf? text.toList
  let authority := rest.takeWhile inAuthority
  if ((authority.dropWhile (· ≠ ':')).drop 1).all Char.isDigit then
    let host ← hostOf (authority.takeWhile (· ≠ ':'))
    let path ← pathOf ((rest.dropWhile inAuthority).takeWhile inPath)
    return (host, path)
  else none

theorem hostOf_chars (host : Host) : hostOf host.chars = some host :=
  dif_pos ⟨host.nonempty, host.noDot, host.plain⟩

theorem inAuthority_of_host (host : Host) : ∀ c ∈ host.chars, inAuthority c = true := by
  intro c hc
  have hplain := List.all_eq_true.mp host.plain c hc
  rw [inAuthority, decide_eq_true_iff]
  intro hmem
  simp only [List.mem_cons, List.not_mem_nil, or_false] at hmem
  rcases hmem with rfl | rfl | rfl <;> exact absurd hplain (by decide)

theorem urlText_parts (host : Host) (path : AbsPath) :
    "https://".toList.isPrefixOf? (urlText host path).toList = some (host.chars ++ path.chars) ∧
      (host.chars ++ path.chars).takeWhile inAuthority = host.chars ∧
      (host.chars ++ path.chars).dropWhile inAuthority = path.chars := by
  obtain ⟨rest, hrest⟩ := path.exists_chars_eq
  refine ⟨?_, ?_, ?_⟩
  · rw [List.isPrefixOf?_eq_some_iff_append_eq]
    simp [urlText]
  · rw [List.takeWhile_append_of_pos (inAuthority_of_host host), hrest,
      List.takeWhile_cons_of_neg (by decide), List.append_nil]
  · rw [List.dropWhile_append_of_pos (inAuthority_of_host host), hrest,
      List.dropWhile_cons_of_neg (by decide)]

theorem plainUrl_urlText (host : Host) (path : AbsPath) :
    plainUrl (urlText host path) =
      if ((host.chars.dropWhile (· ≠ ':')).drop 1).all Char.isDigit then do
        let name ← hostOf (host.chars.takeWhile (· ≠ ':'))
        let read ← pathOf (path.chars.takeWhile inPath)
        return (name, read)
      else none := by
  obtain ⟨hstart, htake, hdrop⟩ := urlText_parts host path
  rw [plainUrl, hstart, Option.bind_eq_bind, Option.bind_some, htake, hdrop]

theorem chars_of_hostOf {chars : List Char} {host : Host} (h : hostOf chars = some host) :
    host.chars = chars := by
  unfold hostOf at h
  split_ifs at h
  obtain rfl := Option.some.inj h
  rfl

theorem pathOf_takeWhile (keep : Char → Bool) (hkeep : keep '/' = true) (path : AbsPath) :
    ∃ read, pathOf (path.chars.takeWhile keep) = some read ∧
      read.chars.length ≤ path.chars.length := by
  obtain ⟨rest, hcons⟩ := path.exists_chars_eq
  refine ⟨⟨'/' :: rest.takeWhile keep, rfl⟩, ?_, ?_⟩
  · rw [hcons, List.takeWhile_cons_of_pos hkeep, pathOf, dif_pos rfl]
  · rw [hcons, List.length_cons, List.length_cons]
    exact Nat.succ_le_succ (List.takeWhile_prefix keep).length_le

theorem plainUrl_reads : ReadsUrls plainUrl where
  named := by
    intro host path hname
    obtain ⟨read, hread, hlength⟩ := pathOf_takeWhile inPath rfl path
    refine ⟨read, ?_, hlength⟩
    rw [plainUrl_urlText, dropWhile_of_sep_not_mem hname, takeWhile_of_sep_not_mem hname,
      hostOf_chars, hread]
    rfl
  bare := by
    intro host path read _ hread
    rw [plainUrl_urlText] at hread
    split_ifs at hread
    obtain ⟨name, hname, hrest⟩ := Option.bind_eq_some_iff.mp hread
    obtain ⟨_, -, heq⟩ := Option.bind_eq_some_iff.mp hrest
    obtain rfl := Option.some.inj heq
    rw [chars_of_hostOf hname]
    exact sep_not_mem_takeWhile ':' host.chars

/-! ## Where the restored cookie is sent -/

section Scope

variable {url : UrlReader} {jar : Jar} {saved : List Cookie}

theorem of_mem_trusted {entry : CookieId × CookieBody} (h : entry ∈ trusted jar) :
    isTrusted entry.1 = true := (mem_trusted.mp h).2

/-- A trust cookie that goes where it went is for its host alone, the host is no address with
colons, and the path was read from a saved one. -/
theorem SentWhereSaved.of_mem (hurl : ReadsUrls url) (hsaved : SavedOf jar saved)
    (h : SentWhereSaved url jar saved) {id : CookieId} {body : CookieBody}
    (hmem : (id, body) ∈ trusted jar) :
    body.hostOnly = true ∧ ':' ∉ id.domain.chars ∧
      ∃ entry ∈ trusted jar, ∃ read, url (urlText entry.1.domain entry.1.path) = some read ∧
        id.path = read.2.defaultPath := by
  obtain ⟨hget, hname⟩ := mem_trusted.mp hmem
  obtain ⟨restored, hjar, id', body', hget', -, -, hscope⟩ := h id body hget hname
  rw [saved_eq hsaved (List.ne_nil_of_mem hmem)] at hjar
  obtain ⟨-, rfl⟩ := (restoredJar_eq_ok_iff fun _ => of_mem_trusted).mp hjar
  obtain ⟨entry, hentry, read, hread, hdomain', hpath', honly'⟩ := of_restored hget'
  obtain ⟨hdomain, hpath, honly⟩ := SameScope.of_hostOnly honly' hscope
  have hcolon : ':' ∉ id.domain.chars := by
    rw [hdomain, hdomain']
    by_cases hentryColon : ':' ∈ entry.1.domain.chars
    · exact hurl.bare _ _ _ hentryColon hread
    · obtain ⟨path, hnamed, -⟩ := hurl.named entry.1.domain entry.1.path hentryColon
      rw [Option.some.inj (hread.symm.trans hnamed)]
      exact hentryColon
  exact ⟨honly hcolon, hcolon, entry, hentry, read, hread, hpath.trans hpath'⟩

/-- The path of the restored cookie is shorter than the one it was read from. So the deepest path
of the jar is not restored, unless it is the root. -/
theorem SentWhereSaved.path_eq_root (hurl : ReadsUrls url) (hsaved : SavedOf jar saved)
    (h : SentWhereSaved url jar saved) :
    ∀ entry ∈ trusted jar, ¬ entry.1.path ≠ AbsPath.root := by
  apply not_of_exceeded fun entry => entry.1.path.chars.length
  intro entry hentry hdeep
  obtain ⟨-, -, source, hsource, read, hread, hpath⟩ := h.of_mem hurl hsaved hentry
  have hcolon := (h.of_mem hurl hsaved hsource).2.1
  obtain ⟨path, hnamed, hlength⟩ := hurl.named source.1.domain source.1.path hcolon
  obtain rfl := Option.some.inj (hread.symm.trans hnamed)
  have hshorter : entry.1.path.chars.length < path.chars.length := by
    rw [hpath] at hdeep ⊢
    exact AbsPath.length_defaultPath_lt hdeep
  refine ⟨source, hsource, ?_, lt_of_lt_of_le hshorter hlength⟩
  intro hroot
  have hpos := List.length_pos_iff.mpr entry.1.path.chars_ne_nil
  have hone : source.1.path.chars.length = 1 := congrArg (fun p : AbsPath => p.chars.length) hroot
  omega

/-- Where every trust cookie is for its host alone and for every path, they are restored as they
were. -/
theorem AllAtRoot.restored (hurl : ReadsUrls url) (hsaved : SavedOf jar saved)
    (h : AllAtRoot jar) (hne : trusted jar ≠ []) :
    ∃ restored, restoredJar url saved = .ok restored ∧ restored.entries = trusted jar := by
  have hroot : ∀ entry ∈ trusted jar, restoredEntry url entry = some entry := by
    intro entry hentry
    obtain ⟨hget, hname⟩ := mem_trusted.mp hentry
    obtain ⟨honly, hpath, hcolon⟩ := h _ _ hget hname
    exact restoredEntry_of_root hurl honly hpath hcolon
  have hread : ∀ entry ∈ trusted jar, (url (urlText entry.1.domain entry.1.path)).isSome = true := by
    intro entry hentry
    obtain ⟨read, hread, -⟩ := Option.map_eq_some_iff.mp (hroot entry hentry)
    rw [hread]
    rfl
  have hmap : (trusted jar).filterMap (restoredEntry url) = trusted jar := by
    rw [List.filterMap_congr hroot, List.filterMap_some]
  have hkeys : ((trusted jar).map Prod.fst).Nodup :=
    jar.nodup.sublist (List.filter_sublist.map Prod.fst)
  rw [saved_eq hsaved hne]
  refine ⟨_, (restoredJar_eq_ok_iff fun _ => of_mem_trusted).mpr ⟨hread, rfl⟩, ?_⟩
  rw [hmap, Dict.entries_ofEntries hkeys]

/-- Saved and restored, the trust cookies of a jar go where they went before exactly when each of
them is for its host alone, for every path, and for no address with colons. -/
theorem restored_sent_iff (hurl : ReadsUrls url) (hsaved : SavedOf jar saved) :
    SentWhereSaved url jar saved ↔ AllAtRoot jar := by
  constructor
  · intro h id body hget hname
    have hmem := mem_trusted.mpr ⟨hget, hname⟩
    obtain ⟨honly, hcolon, -⟩ := h.of_mem hurl hsaved hmem
    exact ⟨honly, not_not.mp (h.path_eq_root hurl hsaved _ hmem), hcolon⟩
  · intro h id body hget hname
    have hmem := mem_trusted.mpr ⟨hget, hname⟩
    obtain ⟨restored, hjar, hentries⟩ := h.restored hurl hsaved (List.ne_nil_of_mem hmem)
    refine ⟨restored, hjar, id, body, ?_, rfl, rfl, fun _ _ => Iff.rfl⟩
    rw [← Dict.mem_entries_iff, hentries]
    exact hmem

end Scope

/-! ## A trust cookie of Arlo -/

def arlo : Host := ⟨"arlo.com".toList, by decide, by decide, rfl⟩

def ocapi : Host := ⟨"ocapi-app.arlo.com".toList, by decide, by decide, rfl⟩

def trustId (domain : Host) (path : AbsPath) : CookieId := ⟨"browser_trust_x", domain, path⟩

def oneCookie (domain : Host) (path : AbsPath) (hostOnly : Bool) : Jar :=
  Dict.empty.set (trustId domain path) ⟨"v%3D", hostOnly⟩

theorem mem_trusted_oneCookie (domain : Host) (path : AbsPath) (hostOnly : Bool) :
    (trustId domain path, ⟨"v%3D", hostOnly⟩) ∈ trusted (oneCookie domain path hostOnly) := by
  rw [mem_trusted]
  refine ⟨Dict.get?_set_self _ _ _, ?_⟩
  rw [isTrusted, String.startsWith_string_iff]
  exact (by decide : trustCookiePrefix.toList <+: "browser_trust_x".toList)

theorem of_get?_oneCookie {domain : Host} {path : AbsPath} {hostOnly : Bool} {id : CookieId}
    {body : CookieBody} (h : (oneCookie domain path hostOnly).get? id = some body) :
    id = trustId domain path ∧ body = ⟨"v%3D", hostOnly⟩ := by
  rw [oneCookie, Dict.get?_set] at h
  split_ifs at h with hid
  · exact ⟨hid, (Option.some.inj h).symm⟩
  · cases h

/-- The cookie of the login host alone. -/
theorem ocapi_sentWhereSaved :
    (trustId ocapi AbsPath.root, ⟨"v%3D", true⟩) ∈ trusted (oneCookie ocapi AbsPath.root true) ∧
      SentWhereSaved plainUrl (oneCookie ocapi AbsPath.root true)
        (serializeCookies (morsels (oneCookie ocapi AbsPath.root true))) := by
  refine ⟨mem_trusted_oneCookie _ _ _, (restored_sent_iff plainUrl_reads .serializeCookies).mpr ?_⟩
  intro id body hget _
  obtain ⟨rfl, rfl⟩ := of_get?_oneCookie hget
  exact ⟨rfl, rfl, by decide⟩

/-- A cookie of the whole domain goes with requests to the login host, and is restored for the
domain's own host alone. A cookie of a path is restored for the path above it. -/
theorem arlo_not_sentWhereSaved :
    SentTo (trustId arlo AbsPath.root) ⟨"v%3D", false⟩ ocapi AbsPath.root ∧
      ¬ SentWhereSaved plainUrl (oneCookie arlo AbsPath.root false)
        (serializeCookies (morsels (oneCookie arlo AbsPath.root false))) ∧
      ¬ SentWhereSaved plainUrl (oneCookie ocapi ⟨"/api".toList, rfl⟩ true)
        (serializeCookies (morsels (oneCookie ocapi ⟨"/api".toList, rfl⟩ true))) := by
  refine ⟨?_, ?_, ?_⟩
  · exact ⟨by decide, AbsPath.pathMatch_self _⟩
  · intro h
    have honly := (h.of_mem plainUrl_reads .serializeCookies (mem_trusted_oneCookie _ _ _)).1
    cases honly
  · intro h
    have hroot := h.path_eq_root plainUrl_reads .serializeCookies _ (mem_trusted_oneCookie _ _ _)
    exact hroot (by decide)

end Eisenberg.Flow
