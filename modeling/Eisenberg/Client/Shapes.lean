import Eisenberg.Client.FailedLogin

/-!
# The shapes a body is read as

For each way the client reads a body, the shape on which the reading gives a value or one of the
client's own exceptions, and on no other.
-/

namespace Eisenberg.Client

open Framework

/-- One of the exceptions that callers classify on. -/
def Classified (err : Exc) : Prop := err.isEisenbergError = true

/-- The object has the key, with a value of the shape. -/
def Has (key : String) (shape : Json → Prop) (value : Json) : Prop :=
  ∃ found, value.get? key = some found ∧ shape found

theorem has_congr {key : String} {shape shape' : Json → Prop} {value : Json}
    (h : ∀ found, shape found ↔ shape' found) : Has key shape value ↔ Has key shape' value :=
  exists_congr fun found => and_congr_right fun _ => h found

section Python

variable {α β : Type}

theorem not_classified_builtin (kind : Builtin) (message : String) :
    ¬ Classified (.builtin kind message) := nofun

theorem raises_item_bind (key : String) (value : Json) (f : Json → Except Exc β) :
    Raises Classified (value.item key >>= f) ↔
      Has key (fun found => Raises Classified (f found)) value := by
  rw [raises_bind]
  cases value with
  | obj fields =>
    simp only [Json.item, Has, Json.get?]
    cases Json.lookup key fields with
    | none => simp [not_classified_builtin]
    | some found => simp
  | _ => simp [Json.item, Has, Json.get?, not_classified_builtin]

theorem raises_item_iff (key : String) (value : Json) :
    Raises Classified (value.item key) ↔ Has key (fun _ => True) value := by
  have hbind := raises_item_bind key value (fun found => (pure found : Except Exc Json))
  rw [bind_pure] at hbind
  exact hbind

theorem raises_dictGet_bind (key : String) (value : Json) (f : Option Json → Except Exc β) :
    Raises Classified (value.dictGet key >>= f) ↔
      value.isObj = true ∧ Raises Classified (f (value.get? key)) := by
  rw [raises_bind]
  cases value with
  | obj fields => simp [Json.dictGet, Json.isObj, Json.get?]
  | _ => simp [Json.dictGet, Json.isObj, Json.noAttribute, not_classified_builtin]

/-- Raised by Python or pydantic. -/
def IsBuiltin (err : Exc) : Prop := ∃ kind message, err = .builtin kind message

theorem isBuiltin_builtin (kind : Builtin) (message : String) :
    IsBuiltin (.builtin kind message) := ⟨kind, message, rfl⟩

/-- What raises nothing of the client's own has to give a value. -/
theorem raises_bind_of_builtin {x : Except Exc α} (hx : Raises IsBuiltin x)
    (f : α → Except Exc β) :
    Raises Classified (x >>= f) ↔ ∃ a, x = .ok a ∧ Raises Classified (f a) := by
  rw [raises_bind]
  cases x with
  | ok a => simp
  | error err =>
    obtain ⟨kind, message, rfl⟩ := hx
    simp [not_classified_builtin]

theorem raises_iff_of_builtin {x : Except Exc α} (hx : Raises IsBuiltin x) :
    Raises Classified x ↔ ∃ a, x = .ok a := by
  have hbind := raises_bind_of_builtin hx (fun a => (pure a : Except Exc α))
  rw [bind_pure] at hbind
  simpa using hbind

theorem validated_eq_ok {parsed : Option α} {value : α} :
    validated parsed = .ok value ↔ parsed = some value := by
  cases parsed with
  | none => simp [validated]
  | some other => simp [validated]

theorem validated_ok_iff (parsed : Option α) :
    (∃ value, validated parsed = .ok value) ↔ parsed.isSome = true := by
  cases parsed with
  | none => simp [validated]
  | some value => simp [validated]

theorem raises_validated_bind (parsed : Option α) (f : α → Except Exc β) :
    Raises Classified (validated parsed >>= f) ↔
      ∃ value, parsed = some value ∧ Raises Classified (f value) := by
  rw [raises_bind_of_builtin (raises_validated isBuiltin_builtin parsed)]
  cases parsed with
  | none => simp [validated]
  | some value => simp [validated]

theorem raises_validated_iff (parsed : Option α) :
    Raises Classified (validated parsed) ↔ parsed.isSome = true := by
  rw [raises_iff_of_builtin (raises_validated isBuiltin_builtin parsed), validated_ok_iff]

theorem mapM_ok_iff (f : α → Except Exc β) (items : List α) :
    (∃ values, items.mapM f = .ok values) ↔ ∀ item ∈ items, ∃ value, f item = .ok value := by
  induction items with
  | nil =>
    simp only [List.mapM_nil, List.not_mem_nil, false_implies, implies_true, iff_true]
    exact ⟨[], rfl⟩
  | cons item items ih =>
    rw [List.mapM_cons, List.forall_mem_cons, ← ih]
    cases f item with
    | error err => simp [bind, Except.bind]
    | ok value =>
      cases items.mapM f with
      | error err => simp [bind, Except.bind]
      | ok values => simp [bind, Except.bind, pure, Except.pure]

theorem raises_mapM_bind {f : α → Except Exc β} {γ : Type} (items : List α)
    (hf : ∀ item, Raises IsBuiltin (f item)) (g : List β → Except Exc γ)
    (hg : ∀ values, Raises Classified (g values)) :
    Raises Classified (items.mapM f >>= g) ↔ ∀ item ∈ items, ∃ value, f item = .ok value := by
  rw [raises_bind_of_builtin (raises_mapM items fun item _ => hf item), ← mapM_ok_iff]
  simp [hg]

theorem raises_pure_intro (a : α) : Raises Classified (pure a : Except Exc α) := trivial

end Python

/-! ## Answers of myapi -/

section Myapi

variable (env : ClientEnv)

/-- An object that does not report success, or whose data block has the shape. -/
def SuccessShape (shape : Json → Prop) (body : Json) : Prop :=
  body.isObj = true ∧
    (((body.get? "success").getD .null).truthy = true → Has "data" shape body)

/-- A list, or what iterates like one, whose elements the model accepts. -/
def ListShape {α : Type} (parse : Json → Option α) (value : Json) : Prop :=
  ∃ items, value.iter = .ok items ∧ ∀ item ∈ items, (parse item).isSome = true

/-- The modes of one gateway: what `dict` accepts, with entries that are objects with a name or
without. -/
def GatewayShape (modes : Json) : Prop :=
  ∃ entries, toDict modes = .ok entries ∧
    ∀ entry ∈ entries, (customModeName env.scalars entry.2).isSome = true

/-- The properties of customModes: an object of gateways. -/
def GatewaysShape (raw : Json) : Prop :=
  ∃ gateways, raw = .obj gateways ∧ ∀ gateway ∈ gateways, GatewayShape env gateway.2

/-- The automation document: no customModes, or some with properties. -/
def CustomModesShape (data : Json) : Prop :=
  data.isObj = true ∧
    ∀ modes, data.get? "customModes" = some modes → modes.isNull = false →
      Has "properties" (GatewaysShape env) modes

def ActiveModeShape (body : Json) : Prop :=
  (validateActiveModeState env.scalars (dataOrBody body)).isSome = true

/-- The locations of every bucket of the data block, if there is one. -/
def LocationsShape (body : Json) : Prop :=
  ∀ data, body.get? "data" = some data →
    ∀ item ∈ locationBuckets.flatMap (bucket data),
      (LocationInfo.validate env.scalars item).isSome = true

theorem classified_arloError (body : Json) (op : String) : Classified (arloError env body op) := by
  unfold arloError
  split
  · rfl
  · rfl

variable {env} {β : Type}

theorem raises_checkSuccess_bind (op : String) (body : Json) (f : Unit → Except Exc β) :
    Raises Classified (checkSuccess env op body >>= f) ↔
      body.isObj = true ∧
        (((body.get? "success").getD .null).truthy = true → Raises Classified (f ())) := by
  rw [checkSuccess, bind_assoc, raises_dictGet_bind]
  cases hsuccess : ((body.get? "success").getD .null).truthy with
  | true => simp
  | false => simp [raises_bind, classified_arloError]

theorem raises_checkSuccess (op : String) (body : Json) :
    Raises Classified (checkSuccess env op body) ↔ body.isObj = true := by
  rw [← bind_pure (checkSuccess env op body), raises_checkSuccess_bind]
  simp

theorem raises_readSession (body : Json) :
    Raises Classified (readSession env body) ↔
      SuccessShape (fun data => data.isObj = true) body := by
  simp only [readSession, raises_checkSuccess_bind, raises_item_bind, raises_dictGet_bind,
    raises_pure, and_true, SuccessShape]

theorem raises_readDevices (body : Json) :
    Raises Classified (readDevices env body) ↔
      SuccessShape (ListShape (validateDevice env.scalars)) body := by
  have hitems : ∀ items : List Json,
      Raises Classified ((items.mapM fun item => validated (validateDevice env.scalars item)) >>=
          fun devices => pure (dedupeDevices devices)) ↔
        ∀ item ∈ items, (validateDevice env.scalars item).isSome = true := by
    intro items
    rw [raises_mapM_bind items (fun item => raises_validated isBuiltin_builtin _) _
      fun devices => raises_pure_intro _]
    simp only [validated_ok_iff]
  simp only [readDevices, raises_checkSuccess_bind, raises_item_bind,
    raises_bind_of_builtin (raises_iter isBuiltin_builtin _), hitems, SuccessShape]
  rfl

theorem raises_readStream (body : Json) :
    Raises Classified (readStream env body) ↔
      SuccessShape (fun data => (StreamResponse.validate env.scalars data).isSome = true) body := by
  simp [readStream, raises_checkSuccess_bind, raises_item_bind, raises_validated_iff,
    SuccessShape]

theorem raises_readActiveMode (body : Json) :
    Raises Classified (readActiveMode env body) ↔ ActiveModeShape env body :=
  raises_validated_iff _

theorem item_ok_iff {key : String} {value found : Json} :
    value.item key = .ok found ↔ value.get? key = some found := by
  cases value with
  | obj fields =>
    simp only [Json.item, Json.get?]
    cases Json.lookup key fields with
    | none => simp
    | some _ => simp
  | _ => simp [Json.item, Json.get?]

theorem get?_of_item_error {key : String} {value : Json} {err : Exc}
    (h : value.item key = .error err) : value.get? key = none := by
  cases hfound : value.get? key with
  | none => rfl
  | some found =>
    rw [item_ok_iff.mpr hfound] at h
    cases h

theorem raises_readSetMode (body : Json) :
    Raises Classified (readSetMode env body) ↔
      Has "success" (fun success => isFalse success = true) body ∨ ActiveModeShape env body := by
  unfold readSetMode
  cases hitem : body.item "success" with
  | ok success =>
    have hget := item_ok_iff.mp hitem
    cases hfalse : isFalse success with
    | true => simp [Has, hget, hfalse, classified_arloError]
    | false => simp [Has, hget, hfalse, raises_readActiveMode]
  | error err => simp [Has, get?_of_item_error hitem, raises_readActiveMode]

theorem raises_readLocations (body : Json) :
    Raises Classified (readLocations env body) ↔ LocationsShape env body := by
  unfold readLocations LocationsShape
  cases hitem : body.item "data" with
  | ok data =>
    rw [item_ok_iff.mp hitem]
    dsimp only
    rw [raises_mapM_bind _ (fun item => raises_validated isBuiltin_builtin _) _
      fun infos => raises_pure_intro _]
    simp only [validated_ok_iff, Option.some.injEq, forall_eq']
  | error err => simp [get?_of_item_error hitem]

theorem pairOf_builtin (element : Json) : Raises IsBuiltin (pairOf element) := by
  have htwo : ∀ items : List Json, Raises IsBuiltin (pairOf.two items) := by
    intro items
    unfold pairOf.two
    split
    · split
      · exact isBuiltin_builtin _ _
      · trivial
    · exact isBuiltin_builtin _ _
  unfold pairOf
  split
  · exact htwo _
  · exact htwo _
  · exact htwo _
  · exact isBuiltin_builtin _ _

theorem toDict_builtin (value : Json) : Raises IsBuiltin (toDict value) := by
  unfold toDict
  split
  · trivial
  · next items =>
    have hpairs := raises_mapM items fun element _ => pairOf_builtin element
    cases hread : items.mapM pairOf with
    | ok pairs => trivial
    | error err =>
      rw [hread] at hpairs
      exact hpairs
  · split
    · trivial
    · exact isBuiltin_builtin _ _
  · exact isBuiltin_builtin _ _

theorem gatewayLabels_builtin (modes : Json) :
    Raises IsBuiltin (gatewayLabels env.scalars modes) := by
  rw [gatewayLabels, raises_bind]
  refine ⟨toDict_builtin modes, fun entries _ => ?_⟩
  rw [raises_bind]
  refine ⟨raises_mapM entries fun entry _ => ?_, fun _ _ => trivial⟩
  rw [raises_bind]
  exact ⟨raises_validated isBuiltin_builtin _, fun _ _ => trivial⟩

theorem gatewayLabels_ok_iff (modes : Json) :
    (∃ labels, gatewayLabels env.scalars modes = .ok labels) ↔ GatewayShape env modes := by
  have hname : ∀ entry : Json × Json,
      (∃ named, (do
          let name ← validated (customModeName env.scalars entry.2)
          return (entry.1, name) : Except Exc (Json × String)) = .ok named) ↔
        (customModeName env.scalars entry.2).isSome = true := by
    intro entry
    cases customModeName env.scalars entry.2 with
    | none => simp [validated, bind, Except.bind]
    | some name => simp [validated, bind, Except.bind, pure, Except.pure]
  have hentries : ∀ entries : List (Json × Json),
      Raises Classified ((entries.mapM fun entry => do
          let name ← validated (customModeName env.scalars entry.2)
          return (entry.1, name)) >>= fun named =>
            pure (named.filter fun entry => entry.2 != "" && entry.2 != UNNAMED_CUSTOM_MODE)) ↔
        ∀ entry ∈ entries, (customModeName env.scalars entry.2).isSome = true := by
    intro entries
    rw [raises_mapM_bind entries _ _ fun named => raises_pure_intro _]
    · simp only [hname]
    · intro entry
      rw [raises_bind]
      exact ⟨raises_validated isBuiltin_builtin _, fun _ _ => trivial⟩
  rw [← raises_iff_of_builtin (gatewayLabels_builtin modes), gatewayLabels,
    raises_bind_of_builtin (toDict_builtin modes)]
  simp only [hentries]
  rfl

theorem raises_customModeLabels (raw : Json) :
    Raises Classified (customModeLabels env.scalars raw) ↔ GatewaysShape env raw := by
  have hgateway : ∀ gateway : String × Json,
      (∃ labelled, (do
          let labels ← gatewayLabels env.scalars gateway.2
          return (gateway.1, labels) : Except Exc (String × List (Json × String))) =
            .ok labelled) ↔
        GatewayShape env gateway.2 := by
    intro gateway
    rw [← gatewayLabels_ok_iff]
    cases gatewayLabels env.scalars gateway.2 with
    | error err => simp [bind, Except.bind]
    | ok labels => simp [bind, Except.bind, pure, Except.pure]
  cases raw with
  | obj gateways =>
    have hbuiltin : ∀ gateway : String × Json, Raises IsBuiltin (do
        let labels ← gatewayLabels env.scalars gateway.2
        return (gateway.1, labels) : Except Exc (String × List (Json × String))) := by
      intro gateway
      rw [raises_bind]
      exact ⟨gatewayLabels_builtin _, fun _ _ => trivial⟩
    rw [customModeLabels, raises_iff_of_builtin (raises_mapM gateways fun gateway _ =>
      hbuiltin gateway), mapM_ok_iff]
    simp only [hgateway, GatewaysShape, Json.obj.injEq, exists_eq_left']
  | _ => simp [customModeLabels, GatewaysShape, Json.noAttribute, not_classified_builtin]

theorem raises_readCustomModes (body : Json) :
    Raises Classified (readCustomModes env body) ↔ SuccessShape (CustomModesShape env) body := by
  simp only [readCustomModes, raises_checkSuccess_bind, raises_item_bind, SuccessShape]
  refine and_congr_right fun _ => imp_congr_right fun _ => has_congr fun data => ?_
  rw [raises_dictGet_bind, CustomModesShape]
  refine and_congr_right fun _ => ?_
  cases data.get? "customModes" with
  | none => simp
  | some modes =>
    cases modes with
    | null => simp [Json.isNull]
    | _ => simp [Json.isNull, raises_item_bind, raises_customModeLabels]

end Myapi

/-! ## Answers of ocapi -/

section Ocapi

variable (env : ClientEnv)

/-- A body without a `meta` block is classified; one with a block has the shape. -/
def MetaShape (shape : Json → Prop) (body : Json) : Prop :=
  ∀ fields, body.get? "meta" = some (.obj fields) → shape (.obj fields)

/-- The code says 200, and what follows. -/
def CodeShape (shape : Prop) (block : Json) : Prop :=
  Has "code" (fun code => code.eqInt 200 = true → shape) block

/-- The block says that requests are limited, or the shape follows. -/
def LimitShape (shape : Prop) (block : Json) : Prop :=
  isRateLimit block = true ∨ CodeShape shape block

def AuthShape (shape : AuthData → Prop) (body block : Json) : Prop :=
  LimitShape
    (Has "data" (fun data => ∃ auth, AuthData.validate env.scalars data = some auth ∧ shape auth)
      body) block

/-- A trusted login that is complete hands over a token. -/
def TrustedShape (shape : Json → Prop) (body block : Json) : Prop :=
  CodeShape
    (Has "data" (fun data => data.isObj = true ∧
      (((data.get? "authCompleted").getD .null).truthy = true →
        Has "accessToken" (Has "token" shape) data)) body) block

def FactorsShape (body block : Json) : Prop :=
  LimitShape
    (Has "data" (fun data => data.isObj = true ∧
      ListShape (validateSecondFactor env.scalars) ((data.get? "items").getD (.arr []))) body) block

def FactorAuthCodeShape (body block : Json) : Prop :=
  LimitShape (Has "data" (Has "factorAuthCode" fun _ => True) body) block

/-- The block has a code; a finished login hands over a token, and perhaps a code to pair with. -/
def FinishShape (shape : Json → Json → Prop) (body block : Json) : Prop :=
  Has "code" (fun code => isRateLimit block = true ∨ (code.eqInt 200 = true →
    Has "data" (fun data => data.isObj = true ∧
      (((data.get? "authCompleted").getD .null).truthy = true →
        Has "token" (fun token => shape token ((data.get? "browserAuthCode").getD .null)) data))
      body)) block

variable {env} {β : Type}

theorem raises_readAuth_bind (body block : Json) (f : AuthData → Except Exc β) :
    Raises Classified (readAuth env body block >>= f) ↔
      AuthShape env (fun auth => Raises Classified (f auth)) body block := by
  unfold AuthShape LimitShape
  cases hlimit : isRateLimit block with
  | true =>
    simp only [readAuth, hlimit, true_or, iff_true]
    rfl
  | false =>
    simp only [readAuth, hlimit, Bool.false_eq_true, if_false, bind_assoc, raises_item_bind,
      false_or]
    refine has_congr fun code => ?_
    cases hcode : code.eqInt 200 with
    | true =>
      simp [bind_assoc, raises_item_bind, raises_validated_bind]
    | false =>
      simp
      rfl

theorem raises_readTrustedAuth_bind (body block : Json) (f : Json → Except Exc β) :
    Raises Classified (readTrustedAuth env body block >>= f) ↔
      TrustedShape (fun token => Raises Classified (f token)) body block := by
  unfold TrustedShape CodeShape
  simp only [readTrustedAuth, bind_assoc, raises_item_bind]
  refine has_congr fun code => ?_
  cases hcode : code.eqInt 200 with
  | true =>
    simp only [Bool.not_true, Bool.false_eq_true, if_false, bind_assoc, raises_item_bind,
      raises_dictGet_bind, forall_const]
    refine has_congr fun data => and_congr_right fun _ => ?_
    cases hcompleted : ((data.get? "authCompleted").getD .null).truthy with
    | true =>
      simp [bind_assoc, raises_item_bind]
    | false =>
      simp
      rfl
  | false =>
    simp
    rfl

theorem raises_readFactors (body block : Json) :
    Raises Classified (readFactors env body block) ↔ FactorsShape env body block := by
  unfold FactorsShape LimitShape CodeShape
  cases hlimit : isRateLimit block with
  | true =>
    simp only [readFactors, hlimit, true_or, iff_true]
    rfl
  | false =>
    simp only [readFactors, hlimit, Bool.false_eq_true, if_false, raises_item_bind, false_or]
    refine has_congr fun code => ?_
    cases hcode : code.eqInt 200 with
    | true =>
      simp only [Bool.not_true, Bool.false_eq_true, if_false, raises_item_bind,
        raises_dictGet_bind, forall_const]
      refine has_congr fun data => and_congr_right fun _ => ?_
      rw [raises_bind_of_builtin (raises_iter isBuiltin_builtin _), ListShape]
      refine exists_congr fun items => and_congr_right fun _ => ?_
      rw [raises_mapM_bind items (fun item => raises_validated isBuiltin_builtin _)]
      · simp only [validated_ok_iff]
      · intro factors
        split
        · rfl
        · trivial
    | false =>
      simp
      rfl

theorem raises_readFactorAuthCode (body block : Json) :
    Raises Classified (readFactorAuthCode env body block) ↔ FactorAuthCodeShape body block := by
  unfold FactorAuthCodeShape LimitShape CodeShape
  cases hlimit : isRateLimit block with
  | true =>
    simp only [readFactorAuthCode, hlimit, true_or, iff_true]
    rfl
  | false =>
    simp only [readFactorAuthCode, hlimit, Bool.false_eq_true, if_false, raises_item_bind,
      false_or]
    refine has_congr fun code => ?_
    cases hcode : code.eqInt 200 with
    | true =>
      simp only [Bool.not_true, Bool.false_eq_true, if_false, raises_item_bind, raises_item_iff,
        forall_const]
    | false =>
      simp
      rfl

theorem raises_readUnfinished_bind (code block : Json) (f : FinishAnswer → Except Exc β)
    (hpending : Raises Classified (f .pending)) :
    Raises Classified (readUnfinished env code block >>= f) := by
  unfold readUnfinished
  split
  · exact hpending
  · split
    · rfl
    · rfl

theorem raises_readFinishAuth_bind (body block : Json) (f : FinishAnswer → Except Exc β)
    (hpending : Raises Classified (f .pending)) :
    Raises Classified (readFinishAuth env body block >>= f) ↔
      FinishShape (fun token code => Raises Classified (f (.approved token code))) body block := by
  unfold FinishShape
  simp only [readFinishAuth, bind_assoc, raises_item_bind]
  refine has_congr fun code => ?_
  cases hlimit : isRateLimit block with
  | true =>
    simp
    rfl
  | false =>
    simp only [Bool.false_eq_true, if_false, false_or]
    cases hcode : code.eqInt 200 with
    | true =>
      simp only [if_true, bind_assoc, raises_item_bind, raises_dictGet_bind, forall_const]
      refine has_congr fun data => and_congr_right fun hobj => ?_
      cases hcompleted : ((data.get? "authCompleted").getD .null).truthy with
      | true => simp [bind_assoc, raises_item_bind, raises_dictGet_bind, hobj]
      | false => simp [raises_readUnfinished_bind code block f hpending]
    | false => simp [raises_readUnfinished_bind code block f hpending]

end Ocapi

end Eisenberg.Client
