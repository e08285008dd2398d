import Eisenberg.Coordinator.Session

/-!
# The data of the config entry

A silent login of the coordinator and a finished reauthentication or reconfiguration of the config
flow each rebuild the entry's data. What they write over it is a list of updates.
-/

namespace Eisenberg.Flow

open Framework Coordinator

inductive EntryValue where
  | text (s : String)
  | cookies (records : List Cookie)
  | other (value : Json)

abbrev EntryData := Dict String EntryValue

def CONF_USERNAME : String := "username"

def CONF_PASSWORD : String := "password"

def CONF_DEVICE_ID : String := "device_id"

def CONF_TRUST_COOKIE : String := "trust_cookie"

/-- `{**data, ...updates}`. -/
def update (updates : List (String × EntryValue)) (data : EntryData) : EntryData :=
  updates.foldl (fun d entry => d.set entry.1 entry.2) data

/-- Extract the browser trust cookie from a jar for persistence. -/
def serializeCookies (cookieJar : List Cookie) : List Cookie :=
  cookieJar.filter fun morsel => morsel.name.startsWith trustCookiePrefix

/-- What a login that keeps these cookies writes under `CONF_TRUST_COOKIE`. -/
def cookieUpdates : List Cookie → List (String × EntryValue)
  | [] => []
  | cookies => [(CONF_TRUST_COOKIE, .cookies cookies)]

/-- `_save_cookies` of the coordinator. -/
def saveCookiesUpdates (httpSession : Bool) (cookieJar : List Cookie) :
    List (String × EntryValue) :=
  if httpSession then
    cookieUpdates (cookieJar.filter fun morsel => morsel.name.startsWith trustCookiePrefix)
  else []

/-- Who the flow has logged in. -/
structure Credentials where
  username : String
  password : String
  deviceId : String

/-- `_finalize_reauth` of the config flow. -/
def finalizeReauthUpdates (who : Credentials) (cookieJar : Option (List Cookie)) :
    List (String × EntryValue) :=
  let cookies := match cookieJar with
    | some jar => serializeCookies jar
    | none => []
  [(CONF_USERNAME, .text who.username), (CONF_PASSWORD, .text who.password),
    (CONF_DEVICE_ID, .text who.deviceId)] ++ cookieUpdates cookies

/-- A login that ends in a write to the entry, with the cookie jar it ends with. -/
inductive Login where
  | silent (httpSession : Bool) (cookieJar : List Cookie)
  | reauth (who : Credentials) (cookieJar : Option (List Cookie))
  | reconfigure (who : Credentials) (cookieJar : Option (List Cookie))

namespace Login

def jar : Login → List Cookie
  | silent _ cookieJar => cookieJar
  | reauth _ cookieJar | reconfigure _ cookieJar => cookieJar.getD []

def updates : Login → List (String × EntryValue)
  | silent httpSession cookieJar => saveCookiesUpdates httpSession cookieJar
  | reauth who cookieJar | reconfigure who cookieJar => finalizeReauthUpdates who cookieJar

end Login

def afterLogins (logins : List Login) (data : EntryData) : EntryData :=
  logins.foldl (fun d login => update login.updates d) data

/-! ## Updates -/

section Update

variable {updates : List (String × EntryValue)} {data : EntryData} {key : String}

@[simp] theorem update_nil : update [] data = data := rfl

theorem update_cons (entry : String × EntryValue) :
    update (entry :: updates) data = update updates (data.set entry.1 entry.2) := rfl

theorem get?_update_of_not_mem (h : ∀ entry ∈ updates, entry.1 ≠ key) :
    (update updates data).get? key = data.get? key := by
  induction updates generalizing data with
  | nil => rfl
  | cons entry updates ih =>
    have hne : key ≠ entry.1 := Ne.symm (h entry List.mem_cons_self)
    have hrest : (update updates (data.set entry.1 entry.2)).get? key =
        (data.set entry.1 entry.2).get? key :=
      ih fun later hlater => h later (List.mem_cons_of_mem entry hlater)
    rw [update_cons, hrest, Dict.get?_set_of_ne data hne]

theorem get?_isSome_update (h : (data.get? key).isSome) :
    ((update updates data).get? key).isSome := by
  induction updates generalizing data with
  | nil => exact h
  | cons entry updates ih =>
    rw [update_cons]
    apply ih
    rw [Dict.get?_set]
    split
    · rfl
    · exact h

end Update

/-! ## What a login writes -/

section Login

variable {login : Login} {data : EntryData}

/-- A list of trust cookies, and not an empty one. -/
structure TrustCookies (value : EntryValue) (cookies : List Cookie) : Prop where
  stored : value = .cookies cookies
  nonempty : cookies ≠ []
  trusted : ∀ morsel ∈ cookies, morsel.name.startsWith trustCookiePrefix = true

/-- The entry holds at least one cookie. -/
def HoldsCookie (data : EntryData) : Prop :=
  ∃ cookies, data.get? CONF_TRUST_COOKIE = some (.cookies cookies) ∧ cookies ≠ []

theorem cookieUpdates_of_ne_nil {cookies : List Cookie} (h : cookies ≠ []) :
    cookieUpdates cookies = [(CONF_TRUST_COOKIE, .cookies cookies)] := by
  cases cookies with
  | nil => exact absurd rfl h
  | cons morsel cookies => rfl

/-- A login writes the trust cookies of its jar under their key, or nothing there; what else it
writes is who logged in. -/
theorem updates_eq (login : Login) :
    ∃ identity, (∀ entry ∈ identity, entry.1 ∈ [CONF_USERNAME, CONF_PASSWORD, CONF_DEVICE_ID]) ∧
      (login.updates = identity ++ cookieUpdates (serializeCookies login.jar) ∨
        login.updates = identity) := by
  have hidentity : ∀ who : Credentials, ∀ entry ∈ [(CONF_USERNAME, EntryValue.text who.username),
      (CONF_PASSWORD, .text who.password), (CONF_DEVICE_ID, .text who.deviceId)],
      entry.1 ∈ [CONF_USERNAME, CONF_PASSWORD, CONF_DEVICE_ID] := by
    simp
  cases login with
  | silent httpSession cookieJar =>
    cases httpSession with
    | true => exact ⟨[], by simp, Or.inl rfl⟩
    | false => exact ⟨[], by simp, Or.inr rfl⟩
  | reauth who cookieJar =>
    refine ⟨_, hidentity who, Or.inl ?_⟩
    cases cookieJar with
    | none => rfl
    | some jar => rfl
  | reconfigure who cookieJar =>
    refine ⟨_, hidentity who, Or.inl ?_⟩
    cases cookieJar with
    | none => rfl
    | some jar => rfl

theorem key_ne_trustCookie {key : String}
    (h : key ∈ [CONF_USERNAME, CONF_PASSWORD, CONF_DEVICE_ID]) : key ≠ CONF_TRUST_COOKIE := by
  rintro rfl
  exact absurd h (by decide)

theorem written (login : Login) {value : EntryValue}
    (h : (CONF_TRUST_COOKIE, value) ∈ login.updates) : ∃ cookies, TrustCookies value cookies := by
  obtain ⟨identity, hidentity, hupdates⟩ := updates_eq login
  have hnot : (CONF_TRUST_COOKIE, value) ∉ identity :=
    fun hmem => key_ne_trustCookie (hidentity _ hmem) rfl
  rcases hupdates with hupdates | hupdates
  · rw [hupdates, List.mem_append] at h
    have hcookie := h.resolve_left hnot
    have hne : serializeCookies login.jar ≠ [] := by
      intro hnil
      rw [hnil] at hcookie
      exact absurd hcookie List.not_mem_nil
    rw [cookieUpdates_of_ne_nil hne, List.mem_singleton, Prod.mk.injEq] at hcookie
    refine ⟨serializeCookies login.jar, hcookie.2, hne, ?_⟩
    intro morsel hmorsel
    exact (List.mem_filter.mp hmorsel).2
  · rw [hupdates] at h
    exact absurd h hnot

/-- A login whose jar holds no trust cookie does not write to the stored ones. -/
theorem get?_trustCookie_of_none (hjar : serializeCookies login.jar = []) :
    (update login.updates data).get? CONF_TRUST_COOKIE = data.get? CONF_TRUST_COOKIE := by
  obtain ⟨identity, hidentity, hupdates⟩ := updates_eq login
  have hupdates : login.updates = identity := by
    rcases hupdates with hupdates | hupdates
    · rw [hupdates, hjar, cookieUpdates, List.append_nil]
    · exact hupdates
  rw [hupdates]
  apply get?_update_of_not_mem
  intro entry hentry
  exact key_ne_trustCookie (hidentity entry hentry)

theorem update_append (xs ys : List (String × EntryValue)) (data : EntryData) :
    update (xs ++ ys) data = update ys (update xs data) := List.foldl_append

theorem holdsCookie_update (login : Login) (h : HoldsCookie data) :
    HoldsCookie (update login.updates data) := by
  by_cases hjar : serializeCookies login.jar = []
  · unfold HoldsCookie
    rw [get?_trustCookie_of_none hjar]
    exact h
  · obtain ⟨identity, hidentity, hupdates | hupdates⟩ := updates_eq login
    · rw [hupdates, update_append, cookieUpdates_of_ne_nil hjar]
      exact ⟨serializeCookies login.jar, Dict.get?_set_self _ _ _, hjar⟩
    · have hsame : (update login.updates data).get? CONF_TRUST_COOKIE =
          data.get? CONF_TRUST_COOKIE := by
        rw [hupdates]
        apply get?_update_of_not_mem
        intro entry hentry
        exact key_ne_trustCookie (hidentity entry hentry)
      unfold HoldsCookie
      rw [hsame]
      exact h

/-- The keys that a login may write. -/
def writtenKeys : List String :=
  [CONF_USERNAME, CONF_PASSWORD, CONF_DEVICE_ID, CONF_TRUST_COOKIE]

theorem get?_update_of_not_written {key : String} (hkey : key ∉ writtenKeys) (login : Login) :
    (update login.updates data).get? key = data.get? key := by
  apply get?_update_of_not_mem
  obtain ⟨identity, hidentity, hupdates⟩ := updates_eq login
  have hmem : ∀ entry ∈ login.updates, entry.1 ∈ writtenKeys := by
    intro entry hentry
    have hparts : entry ∈ identity ∨ entry ∈ cookieUpdates (serializeCookies login.jar) := by
      rcases hupdates with hupdates | hupdates
      · exact List.mem_append.mp (hupdates ▸ hentry)
      · exact Or.inl (hupdates ▸ hentry)
    rcases hparts with hpart | hpart
    · have := hidentity entry hpart
      simp only [List.mem_cons, List.not_mem_nil, or_false] at this
      simp only [writtenKeys, List.mem_cons, List.not_mem_nil, or_false]
      tauto
    · by_cases hjar : serializeCookies login.jar = []
      · rw [hjar] at hpart
        exact absurd hpart List.not_mem_nil
      · rw [cookieUpdates_of_ne_nil hjar, List.mem_singleton] at hpart
        rw [hpart]
        exact (by decide : CONF_TRUST_COOKIE ∈ writtenKeys)
  rintro entry hentry rfl
  exact hkey (hmem entry hentry)

end Login

/-! ## Any sequence of logins -/

section Runs

variable (data : EntryData) (logins : List Login)

theorem afterLogins_append (earlier later : List Login) :
    afterLogins (earlier ++ later) data = afterLogins later (afterLogins earlier data) :=
  List.foldl_append

/-- What every login preserves holds after all of them. -/
theorem afterLogins_invariant {I : EntryData → Prop}
    (hstep : ∀ (login : Login) d, I d → I (update login.updates d)) (h : I data) :
    I (afterLogins logins data) := by
  induction logins generalizing data with
  | nil => exact h
  | cons login logins ih => exact ih _ (hstep login data h)

/-- The trust cookie survives every sequence of logins. -/
theorem trust_cookie_survives :
    (∀ login ∈ logins, ∀ value, (CONF_TRUST_COOKIE, value) ∈ login.updates →
      ∃ cookies, TrustCookies value cookies) ∧
    (HoldsCookie data → HoldsCookie (afterLogins logins data)) ∧
    (∀ earlier login later, logins = earlier ++ login :: later →
      (∀ morsel ∈ login.jar, morsel.name.startsWith trustCookiePrefix = false) →
      (afterLogins (earlier ++ [login]) data).get? CONF_TRUST_COOKIE =
        (afterLogins earlier data).get? CONF_TRUST_COOKIE) ∧
    (∀ key, (data.get? key).isSome → ((afterLogins logins data).get? key).isSome) ∧
    ∀ key, key ∉ writtenKeys → (afterLogins logins data).get? key = data.get? key := by
  refine ⟨?_, ?_, ?_, ?_, ?_⟩
  · intro login _ value h
    exact written login h
  · exact afterLogins_invariant data logins fun login d h => holdsCookie_update login h
  · intro earlier login later _ hjar
    have hnone : serializeCookies login.jar = [] := by
      apply List.filter_eq_nil_iff.mpr
      intro morsel hmorsel
      simp [hjar morsel hmorsel]
    rw [afterLogins_append]
    exact get?_trustCookie_of_none hnone
  · intro key
    exact afterLogins_invariant (I := fun d => (d.get? key).isSome) data logins
      fun login d h => get?_isSome_update h
  · intro key hkey
    exact afterLogins_invariant (I := fun d => d.get? key = data.get? key) data logins
      (fun login d h => (get?_update_of_not_written hkey login).trans h) rfl

end Runs

/-- The cookies of the entry, as the coordinator's state has them. -/
def storedCookies (data : EntryData) : Option (List Cookie) :=
  match data.get? CONF_TRUST_COOKIE with
  | some (.cookies records) => some records
  | _ => none

/-- `_save_cookies` on the coordinator's state is the silent login on the entry. -/
theorem storedCookies_silent (cookieJar : List Cookie) (s : CoordinatorState) (data : EntryData)
    (h : storedCookies data = s.trustCookies) :
    storedCookies (update (Login.silent s.httpSession cookieJar).updates data) =
      (saveCookies cookieJar s).trustCookies := by
  simp only [Login.updates, saveCookiesUpdates, saveCookies]
  cases s.httpSession with
  | false => exact h
  | true =>
    simp only [if_true]
    cases hjar : cookieJar.filter fun morsel => morsel.name.startsWith trustCookiePrefix with
    | nil => exact h
    | cons morsel cookies =>
      simp only [cookieUpdates, update_cons, update_nil, storedCookies, Dict.get?_set_self]

end Eisenberg.Flow
