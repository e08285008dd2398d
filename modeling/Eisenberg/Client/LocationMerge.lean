import Eisenberg.Client.ErrorBodies

/-!
# Merging the location buckets

A locations response lists a location in up to four buckets. The merge keeps the first record of an
id, so the gateways that only a later record lists are lost.
-/

namespace Eisenberg.Client

open Framework

section Merge

variable {env : ClientEnv} {body : Json}

/-- The list under a key of the response's data. -/
def listedUnder (body : Json) (key : String) : List Json :=
  match body.get? "data" with
  | some data =>
    match data.get? key with
    | some (.arr items) => items
    | _ => []
  | none => []

/-- What the buckets of the response list, in the order they are read. -/
def listedItems (body : Json) : List Json :=
  listedUnder body "userLocations" ++ (listedUnder body "ownedLocations" ++
    (listedUnder body "sharedLocations" ++ listedUnder body "locations"))

/-- The records of the response that are valid. -/
def listedInfos (env : ClientEnv) (body : Json) : List LocationInfo :=
  (listedItems body).filterMap (LocationInfo.validate env.scalars)

/-- One entry for each id that is listed, with every gateway that any bucket lists for it. -/
def KeepsGateways (env : ClientEnv) (body : Json) (r : Except Exc (List LocationInfo)) : Prop :=
  ∃ merged, r = .ok merged ∧ ∀ info ∈ listedInfos env body, ∃ entry,
    merged.filter (fun l => l.locationId = info.locationId) = [entry] ∧
      info.gatewayDeviceIds ⊆ entry.gatewayDeviceIds

/-- The first record of each id lists what the later ones of that id list. -/
def FirstListsAll (env : ClientEnv) (body : Json) : Prop :=
  ∀ info ∈ listedInfos env body, ∀ first,
    (listedInfos env body).find? (fun l => l.locationId = info.locationId) = some first →
      info.gatewayDeviceIds ⊆ first.gatewayDeviceIds

theorem bucket_eq (data : Json) (key : String) :
    bucket data key = match data.get? key with
      | some (.arr items) => items
      | _ => [] := by
  unfold bucket
  cases hitem : data.item key with
  | error err => rw [get?_of_item_error hitem]
  | ok value =>
    rw [item_ok_iff.mp hitem]
    cases value <;> rfl

theorem listedItems_of_data {data : Json} (h : body.get? "data" = some data) :
    listedItems body = locationBuckets.flatMap (bucket data) := by
  simp [listedItems, listedUnder, h, locationBuckets, bucket_eq]

theorem listedItems_of_no_data (h : body.get? "data" = none) : listedItems body = [] := by
  simp [listedItems, listedUnder, h]

theorem get?_foldl_setDefault (infos : List LocationInfo) (locationId : String) :
    (infos.foldl setDefault Dict.empty).get? locationId =
      infos.find? fun info => info.locationId = locationId := by
  have hfold := Dict.get?_foldl_insertNew LocationInfo.locationId locationId infos Dict.empty
  have hempty : (Dict.empty : Dict String LocationInfo).get? locationId = none := rfl
  rw [hempty, Option.none_or] at hfold
  exact hfold

/-- The merge keeps the first record of an id, and no other one. -/
theorem filter_merged (infos : List LocationInfo) (locationId : String) :
    ((infos.foldl setDefault Dict.empty).values.filter fun info => info.locationId = locationId) =
      (infos.find? fun info => info.locationId = locationId).toList := by
  rw [← get?_foldl_setDefault]
  apply Dict.filter_values
  intro k info hinfo
  rw [get?_foldl_setDefault] at hinfo
  simpa using List.find?_some hinfo

theorem mapM_validated (items : List Json)
    (h : ∀ item ∈ items, (LocationInfo.validate env.scalars item).isSome = true) :
    items.mapM (fun item => validated (LocationInfo.validate env.scalars item)) =
      .ok (items.filterMap (LocationInfo.validate env.scalars)) := by
  induction items with
  | nil => rfl
  | cons item items ih =>
    obtain ⟨info, hinfo⟩ := Option.isSome_iff_exists.mp (h item List.mem_cons_self)
    have hrest := ih fun other hother => h other (List.mem_cons_of_mem _ hother)
    rw [List.mapM_cons, hrest, hinfo, List.filterMap_cons_some hinfo]
    rfl

theorem readLocations_ok (h : LocationsShape env body) :
    readLocations env body = .ok ((listedInfos env body).foldl setDefault Dict.empty).values := by
  unfold readLocations listedInfos
  cases hitem : body.item "data" with
  | error err =>
    rw [listedItems_of_no_data (get?_of_item_error hitem)]
    rfl
  | ok data =>
    have hdata := item_ok_iff.mp hitem
    rw [listedItems_of_data hdata]
    dsimp only
    rw [mapM_validated _ (h data hdata)]
    rfl

theorem locationsShape_of_ok {merged : List LocationInfo}
    (h : readLocations env body = .ok merged) : LocationsShape env body := by
  apply (raises_readLocations body).mp
  rw [h]
  trivial

theorem keepsGateways_iff :
    KeepsGateways env body (readLocations env body) ↔
      LocationsShape env body ∧ FirstListsAll env body := by
  constructor
  · rintro ⟨merged, hmerged, hkept⟩
    have hshape := locationsShape_of_ok hmerged
    rw [readLocations_ok hshape] at hmerged
    cases hmerged
    refine ⟨hshape, ?_⟩
    intro info hinfo first hfirst
    obtain ⟨entry, hentry, hsubset⟩ := hkept info hinfo
    rw [filter_merged, hfirst] at hentry
    cases hentry
    exact hsubset
  · rintro ⟨hshape, hfirst⟩
    refine ⟨_, readLocations_ok hshape, ?_⟩
    intro info hinfo
    rw [filter_merged]
    cases hfind : (listedInfos env body).find? (fun l => l.locationId = info.locationId) with
    | none =>
      have hnone := List.find?_eq_none.mp hfind info hinfo
      simp at hnone
    | some first => exact ⟨first, rfl, hfirst info hinfo first hfind⟩

end Merge

section Sample

/-- A record of the location `home`. -/
def homeRecord (gateways : List String) : Json :=
  .obj [("locationId", .str "home"), ("gatewayDeviceIds", .arr (gateways.map Json.str))]

/-- A location that is listed as the user's own and as shared. -/
def homeTwice (own shared : List String) : Json :=
  .obj [("success", .bool true),
    ("data", .obj [("userLocations", .arr [homeRecord own]),
      ("sharedLocations", .arr [homeRecord shared])])]

def homeInfo (gateways : List String) : LocationInfo where
  locationId := "home"
  locationName := none
  gatewayDeviceIds := gateways

end Sample

/-- Every gateway survives the merge exactly when the first record of each id lists them all. -/
theorem getLocations_keeps_gateways_iff (env : ClientEnv) (body : Json) (reply : HttpReply)
    (s : ClientState) (hsends : Sends (getLocations env) s) :
    KeepsGateways env body (answeredBy body reply (getLocations env) s).2 ↔
      LocationsShape env body ∧ FirstListsAll env body := by
  have hleaves : answeredBy body reply (getLocations env) s = (s, readLocations env body) :=
    leaves_getLocations hsends
  rw [hleaves]
  exact keepsGateways_iff

set_option maxRecDepth 10000 in
theorem getLocations_sends : Sends (getLocations sampleEnv) loggedIn := List.cons_ne_nil _ _

set_option maxRecDepth 10000 in
theorem shared_gateways_kept :
    KeepsGateways sampleEnv (homeTwice ["BASE", "XL"] ["BASE"])
      (answeredBy (homeTwice ["BASE", "XL"] ["BASE"]) okReply (getLocations sampleEnv) loggedIn).2 := by
  have hlisted : listedInfos sampleEnv (homeTwice ["BASE", "XL"] ["BASE"]) =
      [homeInfo ["BASE", "XL"], homeInfo ["BASE"]] := rfl
  apply (getLocations_keeps_gateways_iff sampleEnv _ okReply loggedIn getLocations_sends).mpr
  constructor
  · intro data hdata
    cases hdata
    show ∀ item ∈ [homeRecord ["BASE", "XL"], homeRecord ["BASE"]],
      (LocationInfo.validate sampleEnv.scalars item).isSome = true
    intro item hitem
    rcases List.mem_pair.mp hitem with rfl | rfl <;> rfl
  · unfold FirstListsAll
    rw [hlisted]
    decide

set_option maxRecDepth 10000 in
/-- An empty record of the user's own hides the gateways of the shared one. -/
theorem empty_record_hides_gateways :
    ¬ KeepsGateways sampleEnv (homeTwice [] ["BASE"])
      (answeredBy (homeTwice [] ["BASE"]) okReply (getLocations sampleEnv) loggedIn).2 := by
  have hmerged : (answeredBy (homeTwice [] ["BASE"]) okReply (getLocations sampleEnv) loggedIn).2 =
      .ok [homeInfo []] := by
    have hleaves : answeredBy (homeTwice [] ["BASE"]) okReply (getLocations sampleEnv) loggedIn =
        (loggedIn, readLocations sampleEnv (homeTwice [] ["BASE"])) :=
      leaves_getLocations getLocations_sends
    rw [hleaves]
    rfl
  have hlisted : homeInfo ["BASE"] ∈ listedInfos sampleEnv (homeTwice [] ["BASE"]) := by
    have hinfos : listedInfos sampleEnv (homeTwice [] ["BASE"]) = [homeInfo [], homeInfo ["BASE"]] :=
      rfl
    rw [hinfos]
    decide
  rintro ⟨merged, hok, hkept⟩
  rw [hmerged] at hok
  cases hok
  obtain ⟨entry, hentry, hsubset⟩ := hkept _ hlisted
  have hfirst : entry = homeInfo [] := by
    simpa [homeInfo, eq_comm] using hentry
  rw [hfirst] at hsubset
  exact absurd (hsubset List.mem_cons_self) (by decide)

end Eisenberg.Client
