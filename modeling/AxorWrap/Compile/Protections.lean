/-
This file says when the compilation keeps every protection that a manifest declares, also where
several manifests of a list have one identifier.

The lists that are gathered take each manifest in, but a table keeps the texts of the last manifest
with an identifier that has any. So the arguments that an earlier manifest declares are lost, and
which ones are lost is a matter of the order, unless all manifests with this identifier that
declare arguments declare the same.
-/

import AxorWrap.Compile.Agreement
import AxorWrap.Compile.Validity

namespace AxorWrap.Compile

open Python Checks

/-! ### What a manifest declares -/

def jsonText : Value → Option PyStr
  | .str text => some text
  | _ => none

def jsonObject : Value → Option Entries
  | .dict entries => some entries
  | _ => none

def jsonItems : Value → List Value
  | .list items => items
  | _ => []

/-- The text of a field. -/
def textAt (entries : Entries) (key : PyStr) : PyStr :=
  ((Entries.lookup entries key).bind jsonText).getD []

/-- The object of a field. -/
def objectAt (entries : Entries) (key : PyStr) : Entries :=
  ((Entries.lookup entries key).bind jsonObject).getD []

/-- The items that a field lists. -/
def itemsAt (entries : Entries) (key : PyStr) : List Value :=
  (Entries.lookup entries key).elim [] jsonItems

/-- The identifier of a manifest. -/
def declaredId (manifest : Entries) : PyStr := textAt manifest "id"

/-- The classes that the effect of a tool can resolve to. -/
def declaredClasses (manifest : Entries) : List PyStr :=
  let effect := objectAt manifest "effect"
  textAt effect "default_class" ::
    ((itemsAt effect "resolve").filterMap jsonObject).map fun rule => textAt rule "class"

def declaredDrivingArgs (manifest : Entries) : List PyStr :=
  (itemsAt (objectAt manifest "effect") "driving_args").filterMap jsonText

def declaredUntrusted (manifest : Entries) : List PyStr :=
  (itemsAt manifest "untrusted_fields").filterMap jsonText

def declaredSensitive (manifest : Entries) : List PyStr :=
  (itemsAt manifest "sensitive_fields").filterMap jsonText

/-- What the compilation should read of a manifest. -/
def declaredFacts (manifest : Entries) : ToolFacts where
  toolId := declaredId manifest
  isEgress := (declaredClasses manifest).any fun effectClass => effectClass ∈ egressClasses
  untrustedFields := declaredUntrusted manifest
  isSensitive := !(declaredSensitive manifest).isEmpty
  drivingArgs := declaredDrivingArgs manifest

/-! ### What is read of a valid manifest -/

section Valid

variable {keywords : Keywords Schema} {entries : Entries} {value : Value}

theorem mem_of_lookup {key : PyStr} (found : Entries.lookup entries key = some value) :
    (Key.str key, value) ∈ entries := by
  obtain ⟨entry, first, rfl⟩ := Option.map_eq_some_iff.mp found
  have named := List.find?_some first
  rw [← Key.eq_str_iff.mp named]
  exact List.mem_of_find?_eq_some first

theorem Satisfies.field (satisfied : Satisfies (.of keywords) (.dict entries)) {name : PyStr}
    {schema : Schema} (member : (name, schema) ∈ keywords.properties.getD [])
    (found : Entries.lookup entries name = some value) : Satisfies schema value := by
  cases satisfied with
  | of _ _ _ _ properties => exact properties _ rfl _ member _ (mem_of_lookup found)

theorem Satisfies.required (satisfied : Satisfies (.of keywords) (.dict entries)) {name : PyStr}
    (member : name ∈ keywords.required) :
    ∃ field, Entries.lookup entries name = some field := by
  cases satisfied with
  | of _ _ _ required =>
    obtain ⟨field, inside⟩ := required _ rfl name member
    have there : (Entries.find entries (.str name)).isSome = true := by
      rw [Entries.find, Option.isSome_map, List.find?_isSome]
      exact ⟨_, inside, Key.eq_str_iff.mpr rfl⟩
    exact Option.isSome_iff_exists.mp there

theorem Satisfies.ofType {type : SchemaType} (satisfied : Satisfies (.of keywords) value)
    (typed : keywords.type = some type) : OfType value type := by
  cases satisfied with
  | of _ _ types => exact types type typed

/-- A list of texts is what its items are as texts. -/
theorem Satisfies.texts (satisfied : Satisfies .texts value) :
    ∃ texts : List PyStr, value = .list (texts.map .str) := by
  obtain ⟨items, rfl⟩ := satisfied.ofType rfl
  have each : ∀ item ∈ items, ∃ text, item = .str text := by
    cases satisfied with
    | of _ _ _ _ _ _ each =>
      intro item member
      exact (each _ rfl _ rfl item member).ofType rfl
  clear satisfied
  induction items with
  | nil => exact ⟨[], rfl⟩
  | cons item rest inductionHypothesis =>
    obtain ⟨⟨text, rfl⟩, others⟩ := List.forall_mem_cons.mp each
    obtain ⟨texts, same⟩ := inductionHypothesis others
    exact ⟨text :: texts, congrArg (fun items => Value.list (.str text :: items))
      (Value.list.inj same)⟩

theorem Satisfies.oneOf {texts : List PyStr} (satisfied : Satisfies (.oneOf texts) value) :
    ∃ text, value = .str text := by
  cases satisfied with
  | of _ enum =>
    obtain ⟨text, _, same⟩ := enum texts rfl
    exact ⟨text, same⟩

theorem filterMap_jsonText (texts : List PyStr) :
    (texts.map Value.str).filterMap jsonText = texts := by
  rw [List.filterMap_map]
  exact List.filterMap_some

theorem map_textOf (unicode : Unicode) (texts : List PyStr) :
    (texts.map Value.str).map (textOf unicode) = texts := by
  rw [List.map_map]
  exact List.map_id texts

/-- A field that is a list, or is left out, is iterated over its items. -/
theorem iterate_itemsAt {name : PyStr}
    (each : ∀ value, Entries.lookup entries name = some value → OfType value .array) :
    (entryOr entries name (.list [])).iterate = .ok (itemsAt entries name) := by
  unfold entryOr itemsAt
  cases found : Entries.lookup entries name with
  | none => rfl
  | some value =>
    obtain ⟨items, rfl⟩ := each value found
    rfl

/-- A field that lists texts, or is left out, has texts for items, and is true if it has any. -/
theorem exists_texts {name : PyStr}
    (each : ∀ value, Entries.lookup entries name = some value → Satisfies .texts value) :
    ∃ texts : List PyStr, itemsAt entries name = texts.map Value.str ∧
      (entryOr entries name .null).truthy = !texts.isEmpty := by
  unfold entryOr itemsAt
  cases found : Entries.lookup entries name with
  | none => exact ⟨[], rfl, rfl⟩
  | some value =>
    obtain ⟨texts, rfl⟩ := (each value found).texts
    refine ⟨texts, rfl, ?_⟩
    show (!(texts.map Value.str).isEmpty) = !texts.isEmpty
    rw [List.isEmpty_map]

theorem map_itemsAt (unicode : Unicode) {name : PyStr}
    (each : ∀ value, Entries.lookup entries name = some value → Satisfies .texts value) :
    (itemsAt entries name).map (textOf unicode) =
      (itemsAt entries name).filterMap jsonText := by
  obtain ⟨texts, listed, _⟩ := exists_texts each
  rw [listed, map_textOf, filterMap_jsonText]

theorem truthy_texts {name : PyStr}
    (each : ∀ value, Entries.lookup entries name = some value → Satisfies .texts value) :
    (entryOr entries name .null).truthy =
      !((itemsAt entries name).filterMap jsonText).isEmpty := by
  obtain ⟨texts, listed, truthy⟩ := exists_texts each
  rw [truthy, listed, filterMap_jsonText]

/-- The rules of an effect each name a class. -/
theorem mapM_rules (unicode : Unicode) {rules : List Value}
    (each : ∀ rule ∈ rules, Satisfies resolveSchema rule) :
    ∃ classes, rules.mapM (fun rule => rule.item "class") = .ok classes ∧
      classes.map (textOf unicode) =
        (rules.filterMap jsonObject).map fun rule => textAt rule "class" := by
  induction rules with
  | nil => exact ⟨[], rfl, rfl⟩
  | cons rule rest inductionHypothesis =>
    obtain ⟨first, later⟩ := List.forall_mem_cons.mp each
    obtain ⟨classes, others, same⟩ := inductionHypothesis later
    obtain ⟨fields, rfl⟩ := first.ofType rfl
    obtain ⟨value, found⟩ := first.required (List.mem_cons_of_mem _ List.mem_cons_self)
    obtain ⟨text, rfl⟩ := (first.field (List.mem_cons_of_mem _ List.mem_cons_self) found).oneOf
    refine ⟨.str text :: classes, ?_, ?_⟩
    · rw [List.mapM_cons, others]
      unfold Value.item
      dsimp only
      rw [found]
      rfl
    · rw [List.map_cons, same]
      unfold textAt
      rw [List.filterMap_cons, jsonObject]
      dsimp only
      rw [List.map_cons, found]
      rfl

theorem satisfies_rule {effect : Entries} (isEffect : Satisfies effectSchema (.dict effect))
    {rule : Value} (member : rule ∈ itemsAt effect "resolve") : Satisfies resolveSchema rule := by
  unfold itemsAt at member
  cases found : Entries.lookup effect "resolve" with
  | none =>
    rw [found] at member
    cases member
  | some value =>
    rw [found] at member
    have isRules := isEffect.field (List.mem_of_getElem? (i := 2) rfl) found
    obtain ⟨rules, rfl⟩ := isRules.ofType rfl
    cases isRules with
    | of _ _ _ _ _ _ each => exact each _ rfl _ rfl rule member

/-- The fields that are read of a manifest are of their types. -/
structure Formed (manifest effect : Entries) : Prop where
  id : ∃ text, Entries.lookup manifest "id" = some (.str text)
  isEffect : Entries.lookup manifest "effect" = some (.dict effect)
  defaultClass : ∃ text, Entries.lookup effect "default_class" = some (.str text)
  drivingArgs : ∀ value, Entries.lookup effect "driving_args" = some value →
    Satisfies .texts value
  rules : ∀ value, Entries.lookup effect "resolve" = some value → OfType value .array
  eachRule : ∀ rule ∈ itemsAt effect "resolve", Satisfies resolveSchema rule
  untrusted : ∀ value, Entries.lookup manifest "untrusted_fields" = some value →
    Satisfies .texts value
  sensitive : ∀ value, Entries.lookup manifest "sensitive_fields" = some value →
    Satisfies .texts value

theorem formed_of_satisfies {manifest : Entries}
    (satisfied : Satisfies embeddedSchema (.dict manifest)) : ∃ effect, Formed manifest effect := by
  obtain ⟨id, foundId⟩ := satisfied.required (List.mem_of_getElem? (i := 1) rfl)
  obtain ⟨text, rfl⟩ := (satisfied.field (List.mem_of_getElem? (i := 1) rfl) foundId).ofType rfl
  obtain ⟨effect, foundEffect⟩ := satisfied.required (List.mem_of_getElem? (i := 3) rfl)
  have isEffect := satisfied.field (List.mem_of_getElem? (i := 4) rfl) foundEffect
  obtain ⟨effect, rfl⟩ := isEffect.ofType rfl
  obtain ⟨value, foundClass⟩ := isEffect.required (List.mem_of_getElem? (i := 0) rfl)
  obtain ⟨defaultClass, rfl⟩ :=
    (isEffect.field (List.mem_of_getElem? (i := 0) rfl) foundClass).oneOf
  exact ⟨effect, {
    id := ⟨text, foundId⟩
    isEffect := foundEffect
    defaultClass := ⟨defaultClass, foundClass⟩
    drivingArgs := fun _ => isEffect.field (List.mem_of_getElem? (i := 1) rfl)
    rules := fun _ found => (isEffect.field (List.mem_of_getElem? (i := 2) rfl) found).ofType rfl
    eachRule := fun _ => satisfies_rule isEffect
    untrusted := fun _ => satisfied.field (List.mem_of_getElem? (i := 5) rfl)
    sensitive := fun _ => satisfied.field (List.mem_of_getElem? (i := 6) rfl) }⟩

/-- What is read of such a manifest is what it declares. -/
theorem readManifest_formed (unicode : Unicode) {manifest effect : Entries}
    (formed : Formed manifest effect) :
    readManifest unicode manifest = .ok (declaredFacts manifest) := by
  obtain ⟨text, foundId⟩ := formed.id
  obtain ⟨defaultClass, foundClass⟩ := formed.defaultClass
  obtain ⟨classes, mapped, sameClasses⟩ := mapM_rules unicode formed.eachRule
  have lists : ∀ {entries : Entries} {name : PyStr},
      (∀ value, Entries.lookup entries name = some value → Satisfies .texts value) →
        (entryOr entries name (.list [])).iterate = .ok (itemsAt entries name) :=
    fun each => iterate_itemsAt fun value found => (each value found).ofType rfl
  have isEffect : orEmpty (entryOr manifest "effect" (.dict [])) = .dict effect := by
    rw [entryOr, formed.isEffect]
    cases effect <;> rfl
  have effectOf : objectAt manifest "effect" = effect := by
    rw [objectAt, formed.isEffect]
    rfl
  unfold readManifest
  rw [isEffect]
  refine bind_eq_ok.mpr ⟨.str defaultClass, by rw [Value.get, foundClass]; rfl, ?_⟩
  refine bind_eq_ok.mpr ⟨_, rfl, bind_eq_ok.mpr ⟨_, iterate_itemsAt formed.rules, ?_⟩⟩
  refine bind_eq_ok.mpr ⟨classes, mapped, bind_eq_ok.mpr ⟨_, lists formed.untrusted, ?_⟩⟩
  refine bind_eq_ok.mpr ⟨_, rfl, bind_eq_ok.mpr ⟨_, lists formed.drivingArgs, ?_⟩⟩
  rw [entryOr, foundId]
  have named : declaredId manifest = text := by
    rw [declaredId, textAt, foundId]
    rfl
  have classesOf : declaredClasses manifest =
      (.str defaultClass :: classes).map (textOf unicode) := by
    rw [declaredClasses, effectOf, List.map_cons, sameClasses, textAt, foundClass]
    rfl
  have argsOf : declaredDrivingArgs manifest =
      (itemsAt effect "driving_args").map (textOf unicode) := by
    rw [declaredDrivingArgs, effectOf, map_itemsAt unicode formed.drivingArgs]
  rw [declaredFacts, declaredUntrusted, declaredSensitive, named, classesOf, argsOf,
    map_itemsAt unicode formed.untrusted, truthy_texts formed.sensitive]
  rfl

end Valid

/-! ### What is kept -/

/-- The tool can send or execute. -/
def IsEgress (manifest : Entries) : Prop :=
  ∃ effectClass ∈ declaredClasses manifest, effectClass ∈ egressClasses

/-- The policy has an allowlist with something on it. -/
def HasAllowlist (policy : Option Entries) : Prop :=
  (entryOr (policy.getD []) "allowlist" .null).truthy = true

/-- The table has this text for the tool. -/
def Gives (table : Table (List PyStr)) (tool text : PyStr) : Prop :=
  ∃ texts ∈ table.lookup tool, text ∈ texts

/-- An argument of the sink is held to the allowlist. -/
def Canon.Restricts (canon : Canon) (sink arg : PyStr) : Prop :=
  ∃ byArg ∈ canon.valuePolicies.lookup sink, (byArg.lookup arg).isSome = true

/-- Whatever a manifest declares is gated. -/
structure KeepsDeclared (policy : Option Entries) (manifests : List Entries) (canon : Canon) :
    Prop where
  egress : ∀ manifest ∈ manifests, IsEgress manifest →
    declaredId manifest ∈ canon.egressSinks
  drivingArgs : ∀ manifest ∈ manifests, ∀ arg ∈ declaredDrivingArgs manifest,
    Gives canon.drivingArgs (declaredId manifest) arg
  untrustedFields : ∀ manifest ∈ manifests, ∀ field ∈ declaredUntrusted manifest,
    Gives canon.untrustedFields (declaredId manifest) field ∧
      declaredId manifest ∈ canon.untrustedSources
  sensitive : ∀ manifest ∈ manifests, declaredSensitive manifest ≠ [] →
    declaredId manifest ∈ canon.sensitiveSources
  policies : HasAllowlist policy → ∀ sink ∈ canon.egressSinks, ∃ arg, canon.Restricts sink arg

/-- Whatever is gated is declared by a manifest of the tool. The overrides are the policy's. -/
structure Justified (unicode : Unicode) (policy : Option Entries) (manifests : List Entries)
    (canon : Canon) : Prop where
  egress : ∀ sink ∈ canon.egressSinks,
    ∃ manifest ∈ manifests, declaredId manifest = sink ∧ IsEgress manifest
  untrustedSources : ∀ tool ∈ canon.untrustedSources,
    ∃ manifest ∈ manifests, declaredId manifest = tool ∧ declaredUntrusted manifest ≠ []
  sensitiveSources : ∀ tool ∈ canon.sensitiveSources,
    ∃ manifest ∈ manifests, declaredId manifest = tool ∧ declaredSensitive manifest ≠ []
  drivingArgs : ∀ tool, ∀ args ∈ canon.drivingArgs.lookup tool, args ≠ [] ∧ ∀ arg ∈ args,
    ∃ manifest ∈ manifests, declaredId manifest = tool ∧ arg ∈ declaredDrivingArgs manifest
  untrustedFields : ∀ tool, ∀ fields ∈ canon.untrustedFields.lookup tool,
    fields ≠ [] ∧ ∀ field ∈ fields,
      ∃ manifest ∈ manifests, declaredId manifest = tool ∧ field ∈ declaredUntrusted manifest
  policies : ∀ sink arg, canon.Restricts sink arg →
    ∃ manifest ∈ manifests, declaredId manifest = sink ∧ IsEgress manifest
  overrides : ∃ declared, declaredOverrides policy = .ok declared ∧
    canon.consequenceOverrides = overridesOf unicode declared

/-- The same tools and the same arguments are gated. -/
structure SameGates (canon other : Canon) : Prop where
  egress : ∀ tool, tool ∈ canon.egressSinks ↔ tool ∈ other.egressSinks
  untrustedSources : ∀ tool, tool ∈ canon.untrustedSources ↔ tool ∈ other.untrustedSources
  sensitiveSources : ∀ tool, tool ∈ canon.sensitiveSources ↔ tool ∈ other.sensitiveSources
  drivingArgs : ∀ tool arg, Gives canon.drivingArgs tool arg ↔ Gives other.drivingArgs tool arg
  untrustedFields : ∀ tool field,
    Gives canon.untrustedFields tool field ↔ Gives other.untrustedFields tool field
  policies : ∀ sink arg, canon.Restricts sink arg ↔ other.Restricts sink arg

/-- The compilation drops nothing that is declared and adds nothing, and any other order of the
manifests gates the same. -/
structure DropsNothing (unicode : Unicode) (policy inputs : Option Entries)
    (manifests : List Entries) (canon : Canon) : Prop where
  keeps : KeepsDeclared policy manifests canon
  justified : Justified unicode policy manifests canon
  ordered : ∀ others, others.Perm manifests →
    ∃ other, compileManifests unicode others policy inputs = .ok other ∧ SameGates canon other

/-- Manifests with one identifier that declare driving arguments declare the same ones, and so for
untrusted fields. For a sink with an allowlist the first argument is the same too. -/
structure Agreeing (policy : Option Entries) (manifests : List Entries) : Prop where
  drivingArgs : ∀ one ∈ manifests, ∀ other ∈ manifests, declaredId one = declaredId other →
    declaredDrivingArgs other ≠ [] → declaredDrivingArgs one ⊆ declaredDrivingArgs other
  untrustedFields : ∀ one ∈ manifests, ∀ other ∈ manifests, declaredId one = declaredId other →
    declaredUntrusted other ≠ [] → declaredUntrusted one ⊆ declaredUntrusted other
  first : HasAllowlist policy → ∀ sink ∈ manifests, IsEgress sink →
    ∀ one ∈ manifests, ∀ other ∈ manifests,
      declaredId one = declaredId sink → declaredId other = declaredId sink →
      declaredDrivingArgs one ≠ [] → declaredDrivingArgs other ≠ [] →
        (declaredDrivingArgs one).head? = (declaredDrivingArgs other).head?

/-! ### The tables -/

section Tables

variable {tools : List ToolFacts} {texts : ToolFacts → List PyStr} {key : PyStr}

/-- A table has only what a tool declares. -/
theorem exists_of_lookup_tableOf {found : List PyStr}
    (isFound : found ∈ (tableOf texts tools).lookup key) :
    found ≠ [] ∧ ∃ tool ∈ tools, tool.toolId = key ∧ texts tool = found := by
  obtain ⟨tool, isLast, rfl⟩ := mem_lookup_tableOf.mp isFound
  have isTool := List.mem_reverse.mp (List.mem_of_find?_eq_some isLast)
  have isTaken := List.find?_some (Option.mem_def.mp isLast)
  simp only [Bool.and_eq_true, decide_eq_true_eq, Bool.not_eq_true',
    List.isEmpty_eq_false_iff] at isTaken
  exact ⟨isTaken.2, tool, isTool, isTaken.1, rfl⟩

/-- A table has what every tool declares when the tools with one identifier agree. -/
theorem gives_tableOf (agreeing : ∀ one ∈ tools, ∀ other ∈ tools, one.toolId = other.toolId →
      texts other ≠ [] → texts one ⊆ texts other)
    {tool : ToolFacts} (isTool : tool ∈ tools) {text : PyStr} (declared : text ∈ texts tool) :
    Gives (tableOf texts tools) tool.toolId text := by
  have listed : tool.toolId ∈ (tableOf texts tools).keys :=
    mem_tableOf.mpr ⟨tool, isTool, List.ne_nil_of_mem declared, rfl⟩
  obtain ⟨found, isFound⟩ := Option.isSome_iff_exists.mp
    (AList.lookup_isSome.mpr (AList.mem_keys.mpr listed))
  obtain ⟨nonempty, last, isLast, sameId, rfl⟩ := exists_of_lookup_tableOf isFound
  exact ⟨_, isFound, agreeing tool isTool last isLast sameId.symm nonempty declared⟩

/-- The last tool decides. -/
theorem lookup_tableOf_concat {tool : ToolFacts} (nonempty : texts tool ≠ []) :
    (tableOf texts (tools ++ [tool])).lookup tool.toolId = some (texts tool) := by
  rw [tableOf_concat, if_neg (mt List.isEmpty_iff.mp nonempty), AList.lookup_insert]

variable {sink : PyStr}

/-- The allowlist is put on the first argument that the tools of the sink agree on. -/
theorem allowlistArg_eq (first : ∀ one ∈ tools, ∀ other ∈ tools,
      one.toolId = sink → other.toolId = sink → one.drivingArgs ≠ [] → other.drivingArgs ≠ [] →
        one.drivingArgs.head? = other.drivingArgs.head?)
    {tool : ToolFacts} (isTool : tool ∈ tools) (sameId : tool.toolId = sink)
    (nonempty : tool.drivingArgs ≠ []) :
    allowlistArg (tableOf ToolFacts.drivingArgs tools) sink =
      tool.drivingArgs.headD defaultAllowlistArg := by
  have listed : sink ∈ (tableOf ToolFacts.drivingArgs tools).keys :=
    mem_tableOf.mpr ⟨tool, isTool, nonempty, sameId⟩
  obtain ⟨found, isFound⟩ := Option.isSome_iff_exists.mp
    (AList.lookup_isSome.mpr (AList.mem_keys.mpr listed))
  obtain ⟨declared, last, isLast, lastId, rfl⟩ := exists_of_lookup_tableOf isFound
  unfold allowlistArg
  rw [isFound, Option.getD_some, List.headD_eq_head?_getD, List.headD_eq_head?_getD,
    first last isLast tool isTool lastId sameId declared nonempty]

/-- A sink without driving arguments has the allowlist on the default argument. -/
theorem allowlistArg_default
    (none : ∀ tool ∈ tools, tool.toolId = sink → tool.drivingArgs = []) :
    allowlistArg (tableOf ToolFacts.drivingArgs tools) sink = defaultAllowlistArg := by
  unfold allowlistArg
  cases isFound : (tableOf ToolFacts.drivingArgs tools).lookup sink with
  | none => rfl
  | some found =>
    obtain ⟨declared, tool, isTool, sameId, rfl⟩ := exists_of_lookup_tableOf isFound
    exact absurd (none tool isTool sameId) declared

end Tables

/-! ### The compilation of valid manifests -/

section Compilation

variable {unicode : Unicode} {policy inputs : Option Entries} {manifests : List Entries}
  {declared : Entries} {resolved : Option (List PyStr)} {canon : Canon}

theorem mapM_readManifest (formed : ∀ manifest ∈ manifests, ∃ effect, Formed manifest effect) :
    manifests.mapM (readManifest unicode) = .ok (manifests.map declaredFacts) := by
  rw [mapM_eq_ok, List.forall₂_map_right_iff, List.forall₂_same]
  intro manifest member
  obtain ⟨effect, formed⟩ := formed manifest member
  exact readManifest_formed unicode formed

/-- Only the policy can stop the compilation of such manifests. -/
theorem compileManifests_formed
    (formed : ∀ manifest ∈ manifests, ∃ effect, Formed manifest effect) :
    compileManifests unicode manifests policy inputs = .ok canon ↔
      ∃ declared, declaredOverrides policy = .ok declared ∧
        ∃ resolved, resolvedOf unicode policy inputs = .ok resolved ∧
          canonOf unicode (manifests.map declaredFacts) declared resolved = canon := by
  rw [compileManifests_eq_ok, mapM_readManifest formed]
  constructor
  · rintro ⟨_, ⟨⟩, rest⟩
    exact rest
  · rintro rest
    exact ⟨_, rfl, rest⟩

/-- With overrides that are well formed, only the allowlist can. -/
theorem compileManifests_map
    (formed : ∀ manifest ∈ manifests, ∃ effect, Formed manifest effect)
    (isDeclared : declaredOverrides policy = .ok declared) :
    compileManifests unicode manifests policy inputs =
      (resolvedOf unicode policy inputs).map
        (canonOf unicode (manifests.map declaredFacts) declared) := by
  unfold compileManifests
  rw [mapM_readManifest formed, isDeclared]
  cases resolvedOf unicode policy inputs <;> rfl

theorem hasAllowlist_iff (resolves : resolvedOf unicode policy inputs = .ok resolved) :
    HasAllowlist policy ↔ ∃ texts, resolved = some texts := by
  obtain ⟨listed, isListed, resolves⟩ := bind_eq_ok.mp resolves
  unfold allowlistOf at isListed
  dsimp only at isListed
  unfold HasAllowlist
  by_cases truthy : (entryOr (policy.getD []) "allowlist" .null).truthy = true
  · rw [if_pos truthy] at isListed
    obtain ⟨items, _, same⟩ := bind_eq_ok.mp isListed
    cases same
    obtain ⟨expanded, _, same⟩ := bind_eq_ok.mp resolves
    cases same
    exact iff_of_true truthy ⟨_, rfl⟩
  · rw [if_neg truthy] at isListed
    cases isListed
    cases resolves
    refine iff_of_false truthy ?_
    rintro ⟨_, same⟩
    cases same

theorem isEgress_iff {manifest : Entries} :
    (declaredFacts manifest).isEgress = true ↔ IsEgress manifest := by
  simp only [declaredFacts, List.any_eq_true, decide_eq_true_eq, IsEgress]

theorem mem_toolsWith_declared {holds : ToolFacts → Bool} {tool : PyStr} :
    tool ∈ toolsWith holds (manifests.map declaredFacts) ↔
      ∃ manifest ∈ manifests, declaredId manifest = tool ∧ holds (declaredFacts manifest) = true := by
  refine mem_toolsWith.trans ?_
  simp only [List.mem_map, exists_exists_and_eq_and]
  exact exists_congr fun manifest => and_congr_right fun _ => and_comm

theorem mem_egressTools {sink : PyStr} :
    sink ∈ toolsWith ToolFacts.isEgress (manifests.map declaredFacts) ↔
      ∃ manifest ∈ manifests, declaredId manifest = sink ∧ IsEgress manifest := by
  refine mem_toolsWith_declared.trans ?_
  simp only [isEgress_iff]

theorem mem_untrustedTools {tool : PyStr} :
    tool ∈ toolsWith (fun tool => !tool.untrustedFields.isEmpty) (manifests.map declaredFacts) ↔
      ∃ manifest ∈ manifests, declaredId manifest = tool ∧ declaredUntrusted manifest ≠ [] := by
  refine mem_toolsWith_declared.trans ?_
  simp only [declaredFacts, Bool.not_eq_true', List.isEmpty_eq_false_iff]

theorem mem_sensitiveTools {tool : PyStr} :
    tool ∈ toolsWith ToolFacts.isSensitive (manifests.map declaredFacts) ↔
      ∃ manifest ∈ manifests, declaredId manifest = tool ∧ declaredSensitive manifest ≠ [] := by
  refine mem_toolsWith_declared.trans ?_
  simp only [declaredFacts, Bool.not_eq_true', List.isEmpty_eq_false_iff]

/-- What a table gives is declared. -/
theorem declared_of_gives {texts : ToolFacts → List PyStr} {tool text : PyStr}
    (gives : Gives (tableOf texts (manifests.map declaredFacts)) tool text) :
    ∃ manifest ∈ manifests, declaredId manifest = tool ∧
      text ∈ texts (declaredFacts manifest) := by
  obtain ⟨found, isFound, inside⟩ := gives
  obtain ⟨_, last, isLast, sameId, rfl⟩ := exists_of_lookup_tableOf isFound
  obtain ⟨manifest, member, rfl⟩ := List.mem_map.mp isLast
  exact ⟨manifest, member, sameId, inside⟩

/-- A table gives what is declared when manifests with one identifier agree. -/
theorem gives_of_declared {texts : ToolFacts → List PyStr}
    (agreeing : ∀ one ∈ manifests, ∀ other ∈ manifests, declaredId one = declaredId other →
      texts (declaredFacts other) ≠ [] →
        texts (declaredFacts one) ⊆ texts (declaredFacts other))
    {manifest : Entries} (member : manifest ∈ manifests) {text : PyStr}
    (inside : text ∈ texts (declaredFacts manifest)) :
    Gives (tableOf texts (manifests.map declaredFacts)) (declaredId manifest) text :=
  gives_tableOf (List.forall_mem_map.mpr fun one first => List.forall_mem_map.mpr
    (agreeing one first)) (List.mem_map_of_mem member) inside

/-- A policy on one argument is on no other. -/
theorem mem_lookup_singleton {key arg : PyStr} {spec found : EnumSpec} :
    found ∈ (AList.singleton key spec : Table EnumSpec).lookup arg ↔ arg = key ∧ spec = found := by
  rw [← AList.insert_empty, Option.mem_def]
  by_cases same : arg = key
  · rw [same, AList.lookup_insert, Option.some.injEq]
    exact (and_iff_right rfl).symm
  · rw [AList.lookup_insert_ne same, AList.lookup_empty]
    refine iff_of_false (Option.some_ne_none _ ∘ Eq.symm) fun kept => same kept.1

theorem restricts_iff {sink arg : PyStr} :
    (canonOf unicode (manifests.map declaredFacts) declared resolved).Restricts sink arg ↔
      (∃ texts, resolved = some texts) ∧
        (∃ manifest ∈ manifests, declaredId manifest = sink ∧ IsEgress manifest) ∧
        arg = allowlistArg
          (tableOf ToolFacts.drivingArgs (manifests.map declaredFacts)) sink := by
  rw [← mem_egressTools]
  constructor
  · rintro ⟨byArg, isFound, restricts⟩
    obtain ⟨texts, same, isSink, rfl⟩ := mem_lookup_policiesOf.mp isFound
    obtain ⟨spec, isSpec⟩ := Option.isSome_iff_exists.mp restricts
    exact ⟨⟨texts, same⟩, isSink, (mem_lookup_singleton.mp isSpec).1⟩
  · rintro ⟨⟨texts, same⟩, isSink, isFirst⟩
    exact ⟨_, mem_lookup_policiesOf.mpr ⟨texts, same, isSink, rfl⟩,
      Option.isSome_iff_exists.mpr ⟨_, mem_lookup_singleton.mpr ⟨isFirst, rfl⟩⟩⟩

/-! ### Agreement -/

theorem keepsDeclared_of_agreeing (agreeing : Agreeing policy manifests)
    (resolves : resolvedOf unicode policy inputs = .ok resolved) :
    KeepsDeclared policy manifests
      (canonOf unicode (manifests.map declaredFacts) declared resolved) where
  egress manifest member sends := mem_egressTools.mpr ⟨manifest, member, rfl, sends⟩
  drivingArgs manifest member arg isArg := gives_of_declared agreeing.drivingArgs member isArg
  untrustedFields manifest member field isField := by
    have isSource := mem_untrustedTools.mpr ⟨manifest, member, rfl, List.ne_nil_of_mem isField⟩
    refine ⟨gives_of_declared (fun one first other second same nonempty => ?_) member
      (mem_sorted.mpr isField), isSource⟩
    intro text inside
    exact mem_sorted.mpr (agreeing.untrustedFields one first other second same
      (fun none => nonempty (by simp [declaredFacts, none, sorted])) (mem_sorted.mp inside))
  sensitive manifest member isSensitive :=
    mem_sensitiveTools.mpr ⟨manifest, member, rfl, isSensitive⟩
  policies allowed sink isSink := ⟨_, restricts_iff.mpr
    ⟨(hasAllowlist_iff resolves).mp allowed, mem_egressTools.mp isSink, rfl⟩⟩

theorem justified_canonOf (isDeclared : declaredOverrides policy = .ok declared) :
    Justified unicode policy manifests
      (canonOf unicode (manifests.map declaredFacts) declared resolved) where
  egress _ := mem_egressTools.mp
  untrustedSources _ := mem_untrustedTools.mp
  sensitiveSources _ := mem_sensitiveTools.mp
  drivingArgs tool args isFound :=
    ⟨(exists_of_lookup_tableOf isFound).1, fun _ inside => declared_of_gives ⟨args, isFound, inside⟩⟩
  untrustedFields tool fields isFound := by
    refine ⟨(exists_of_lookup_tableOf isFound).1, fun field inside => ?_⟩
    obtain ⟨manifest, member, same, isField⟩ := declared_of_gives ⟨fields, isFound, inside⟩
    exact ⟨manifest, member, same, mem_sorted.mp isField⟩
  policies _ _ restricts := (restricts_iff.mp restricts).2.1
  overrides := ⟨declared, isDeclared, rfl⟩

theorem gives_drivingArgs_iff (keeps : KeepsDeclared policy manifests canon)
    (justified : Justified unicode policy manifests canon) {tool arg : PyStr} :
    Gives canon.drivingArgs tool arg ↔
      ∃ manifest ∈ manifests, declaredId manifest = tool ∧ arg ∈ declaredDrivingArgs manifest := by
  constructor
  · rintro ⟨args, isFound, inside⟩
    exact (justified.drivingArgs tool args isFound).2 arg inside
  · rintro ⟨manifest, member, rfl, inside⟩
    exact keeps.drivingArgs manifest member arg inside

theorem gives_untrustedFields_iff (keeps : KeepsDeclared policy manifests canon)
    (justified : Justified unicode policy manifests canon) {tool field : PyStr} :
    Gives canon.untrustedFields tool field ↔
      ∃ manifest ∈ manifests, declaredId manifest = tool ∧ field ∈ declaredUntrusted manifest := by
  constructor
  · rintro ⟨fields, isFound, inside⟩
    exact (justified.untrustedFields tool fields isFound).2 field inside
  · rintro ⟨manifest, member, rfl, inside⟩
    exact (keeps.untrustedFields manifest member field inside).1

theorem Agreeing.of_perm {others : List Entries} (perm : others.Perm manifests)
    (agreeing : Agreeing policy manifests) : Agreeing policy others where
  drivingArgs one first other second :=
    agreeing.drivingArgs one (perm.mem_iff.mp first) other (perm.mem_iff.mp second)
  untrustedFields one first other second :=
    agreeing.untrustedFields one (perm.mem_iff.mp first) other (perm.mem_iff.mp second)
  first allowed sink isSink sends one first other second :=
    agreeing.first allowed sink (perm.mem_iff.mp isSink) sends one (perm.mem_iff.mp first) other
      (perm.mem_iff.mp second)

/-- An allowlist on a sink is put on the same argument in any order. -/
theorem allowlistArg_of_perm {others : List Entries} (perm : others.Perm manifests)
    (agreeing : Agreeing policy manifests) (allowed : HasAllowlist policy) {sink : Entries}
    (isSink : sink ∈ manifests) (sends : IsEgress sink) :
    allowlistArg (tableOf ToolFacts.drivingArgs (manifests.map declaredFacts)) (declaredId sink) =
      allowlistArg (tableOf ToolFacts.drivingArgs (others.map declaredFacts))
        (declaredId sink) := by
  have first : ∀ manifests, Agreeing policy manifests → sink ∈ manifests →
      ∀ one ∈ manifests.map declaredFacts, ∀ other ∈ manifests.map declaredFacts,
        one.toolId = declaredId sink → other.toolId = declaredId sink →
        one.drivingArgs ≠ [] → other.drivingArgs ≠ [] →
          one.drivingArgs.head? = other.drivingArgs.head? :=
    fun manifests agreeing isSink => List.forall_mem_map.mpr fun one first =>
      List.forall_mem_map.mpr fun other second =>
        agreeing.first allowed sink isSink sends one first other second
  by_cases some : ∃ manifest ∈ manifests, declaredId manifest = declaredId sink ∧
      declaredDrivingArgs manifest ≠ []
  · obtain ⟨manifest, member, same, nonempty⟩ := some
    rw [allowlistArg_eq (first manifests agreeing isSink) (List.mem_map_of_mem member) same
        nonempty,
      allowlistArg_eq (first others (agreeing.of_perm perm) (perm.mem_iff.mpr isSink))
        (List.mem_map_of_mem (perm.mem_iff.mpr member)) same nonempty]
  · have none : ∀ manifest ∈ manifests, declaredId manifest = declaredId sink →
        declaredDrivingArgs manifest = [] :=
      fun manifest member same => not_not.mp fun nonempty =>
        some ⟨manifest, member, same, nonempty⟩
    rw [allowlistArg_default (List.forall_mem_map.mpr none),
      allowlistArg_default (List.forall_mem_map.mpr fun manifest member =>
        none manifest (perm.mem_iff.mp member))]

/-- What is kept and justified does not depend on the order. -/
theorem sameGates_of_perm {others : List Entries} (perm : others.Perm manifests)
    (agreeing : Agreeing policy manifests)
    (isDeclared : declaredOverrides policy = .ok declared)
    (resolves : resolvedOf unicode policy inputs = .ok resolved) :
    SameGates (canonOf unicode (manifests.map declaredFacts) declared resolved)
      (canonOf unicode (others.map declaredFacts) declared resolved) := by
  have moved : ∀ {holds : Entries → Prop},
      (∃ manifest ∈ manifests, holds manifest) ↔ ∃ manifest ∈ others, holds manifest :=
    exists_congr fun manifest => and_congr_left' perm.mem_iff.symm
  have keeps : ∀ {manifests}, Agreeing policy manifests → KeepsDeclared policy manifests
      (canonOf unicode (manifests.map declaredFacts) declared resolved) :=
    fun agreeing => keepsDeclared_of_agreeing agreeing resolves
  have justified : ∀ {manifests}, Justified unicode policy manifests
      (canonOf unicode (manifests.map declaredFacts) declared resolved) :=
    justified_canonOf isDeclared
  exact {
    egress := fun _ => (mem_egressTools.trans moved).trans mem_egressTools.symm
    untrustedSources := fun _ => (mem_untrustedTools.trans moved).trans mem_untrustedTools.symm
    sensitiveSources := fun _ => (mem_sensitiveTools.trans moved).trans mem_sensitiveTools.symm
    drivingArgs := fun _ _ => ((gives_drivingArgs_iff (keeps agreeing) justified).trans moved).trans
      (gives_drivingArgs_iff (keeps (agreeing.of_perm perm)) justified).symm
    untrustedFields := fun _ _ =>
      ((gives_untrustedFields_iff (keeps agreeing) justified).trans moved).trans
        (gives_untrustedFields_iff (keeps (agreeing.of_perm perm)) justified).symm
    policies := fun sink arg => by
      rw [restricts_iff, restricts_iff, ← moved]
      refine and_congr_right fun allowed => and_congr_right fun sends => ?_
      obtain ⟨manifest, member, rfl, sends⟩ := sends
      rw [allowlistArg_of_perm perm agreeing ((hasAllowlist_iff resolves).mpr allowed) member
        sends] }

/-- A manifest of a list can be moved to its end. -/
theorem exists_perm_concat {manifest : Entries} (member : manifest ∈ manifests) :
    ∃ others, (others ++ [manifest]).Perm manifests := by
  obtain ⟨before, after, rfl⟩ := List.append_of_mem member
  exact ⟨before ++ after, (List.perm_append_singleton _ _).trans List.perm_middle.symm⟩

/-- What the last manifest declares is what the table gives. -/
theorem lookup_last {texts : ToolFacts → List PyStr} {others : List Entries} {manifest : Entries}
    (nonempty : texts (declaredFacts manifest) ≠ []) :
    (tableOf texts ((others ++ [manifest]).map declaredFacts)).lookup (declaredId manifest) =
      some (texts (declaredFacts manifest)) := by
  rw [List.map_append]
  exact lookup_tableOf_concat nonempty

/-- What the last declaration of an id gives is what that declaration says. -/
theorem mem_of_gives_last {texts : ToolFacts → List PyStr} {others : List Entries}
    {one other : Entries} (same : declaredId one = declaredId other)
    (nonempty : texts (declaredFacts other) ≠ []) {text : PyStr}
    (gives : Gives (tableOf texts ((others ++ [other]).map declaredFacts)) (declaredId one) text) :
    text ∈ texts (declaredFacts other) := by
  obtain ⟨found, isFound, inside⟩ := gives
  rw [same, lookup_last nonempty] at isFound
  cases isFound
  exact inside

/-- Where the order does not matter, any manifest may be taken to be the last. -/
theorem DropsNothing.exists_last
    (formed : ∀ manifest ∈ manifests, ∃ effect, Formed manifest effect)
    (isDeclared : declaredOverrides policy = .ok declared)
    (resolves : resolvedOf unicode policy inputs = .ok resolved)
    (drops : DropsNothing unicode policy inputs manifests
      (canonOf unicode (manifests.map declaredFacts) declared resolved))
    {manifest : Entries} (member : manifest ∈ manifests) :
    ∃ others, SameGates (canonOf unicode (manifests.map declaredFacts) declared resolved)
      (canonOf unicode ((others ++ [manifest]).map declaredFacts) declared resolved) := by
  obtain ⟨others, perm⟩ := exists_perm_concat member
  obtain ⟨other, compiled, same⟩ := drops.ordered _ perm
  have again : compileManifests unicode (others ++ [manifest]) policy inputs = .ok _ :=
    (compileManifests_formed fun manifest member => formed manifest (perm.mem_iff.mp member)).mpr
      ⟨declared, isDeclared, resolved, resolves, rfl⟩
  cases compiled.symm.trans again
  exact ⟨others, same⟩

/-- Where no order drops anything, the manifests agree. -/
theorem agreeing_of_dropsNothing
    (formed : ∀ manifest ∈ manifests, ∃ effect, Formed manifest effect)
    (isDeclared : declaredOverrides policy = .ok declared)
    (resolves : resolvedOf unicode policy inputs = .ok resolved)
    (drops : DropsNothing unicode policy inputs manifests
      (canonOf unicode (manifests.map declaredFacts) declared resolved)) :
    Agreeing policy manifests := by
  constructor
  · intro one first other second same nonempty arg inside
    obtain ⟨others, gates⟩ := drops.exists_last formed isDeclared resolves second
    exact mem_of_gives_last same nonempty
      ((gates.drivingArgs _ _).mp (drops.keeps.drivingArgs one first arg inside))
  · intro one first other second same nonempty field inside
    obtain ⟨others, gates⟩ := drops.exists_last formed isDeclared resolves second
    have listed : sorted (declaredUntrusted other) ≠ [] := by
      obtain ⟨some, isSome⟩ := List.exists_mem_of_ne_nil _ nonempty
      exact List.ne_nil_of_mem (mem_sorted.mpr isSome)
    exact mem_sorted.mp (mem_of_gives_last same listed
      ((gates.untrustedFields _ _).mp (drops.keeps.untrustedFields one first field inside).1))
  · intro allowed sink isSink sends
    obtain ⟨arg, restricts⟩ := drops.keeps.policies allowed (declaredId sink)
      (mem_egressTools.mpr ⟨sink, isSink, rfl, sends⟩)
    have isFirst : ∀ manifest ∈ manifests, declaredId manifest = declaredId sink →
        declaredDrivingArgs manifest ≠ [] → (declaredDrivingArgs manifest).head? = some arg := by
      intro manifest member same nonempty
      obtain ⟨others, gates⟩ := drops.exists_last formed isDeclared resolves member
      obtain ⟨_, _, isArg⟩ := restricts_iff.mp ((gates.policies _ _).mp restricts)
      unfold allowlistArg at isArg
      rw [← same, lookup_last nonempty] at isArg
      change arg = (declaredDrivingArgs manifest).headD defaultAllowlistArg at isArg
      rw [isArg]
      cases listed : declaredDrivingArgs manifest with
      | nil => exact absurd listed nonempty
      | cons arg rest => rfl
    intro one first other second sameOne sameOther oneDrives otherDrives
    rw [isFirst one first sameOne oneDrives, isFirst other second sameOther otherDrives]

variable {interpreter : LiteralInterpreter}

theorem formed_of_valid
    (valid : ∀ manifest ∈ manifests,
      validateManifest interpreter (literalOf (.dict manifest)) = []) :
    ∀ manifest ∈ manifests, ∃ effect, Formed manifest effect :=
  fun manifest member => formed_of_satisfies
    ((check_eq_nil_iff interpreter regular_embeddedSchema _ _).mp (valid manifest member))

/-- **The compilation drops nothing** that a list of valid manifests declares exactly when the
manifests with one identifier agree on what they declare in lists of texts. -/
theorem dropsNothing_iff
    (valid : ∀ manifest ∈ manifests,
      validateManifest interpreter (literalOf (.dict manifest)) = [])
    (compiled : compileManifests unicode manifests policy inputs = .ok canon) :
    DropsNothing unicode policy inputs manifests canon ↔ Agreeing policy manifests := by
  have formed := formed_of_valid valid
  obtain ⟨declared, isDeclared, resolved, resolves, rfl⟩ :=
    (compileManifests_formed formed).mp compiled
  refine ⟨agreeing_of_dropsNothing formed isDeclared resolves, fun agreeing => ?_⟩
  refine ⟨keepsDeclared_of_agreeing agreeing resolves, justified_canonOf isDeclared, ?_⟩
  intro others perm
  exact ⟨_, (compileManifests_formed fun manifest member =>
      formed manifest (perm.mem_iff.mp member)).mpr
        ⟨declared, isDeclared, resolved, resolves, rfl⟩,
    sameGates_of_perm perm agreeing isDeclared resolves⟩

end Compilation

/-! ### Two tools of one name -/

/-- The manifest of a tool that sends a file, with these driving arguments. -/
def fileSender (drivingArgs : List PyStr) : Entries := [
  (.str "schema_version", .str schemaVersion),
  (.str "id", .str "send_file"),
  (.str "args_schema", .dict [(.str "type", .str "object")]),
  (.str "effect", .dict [
    (.str "default_class", .str "EXPORT"),
    (.str "driving_args", .list (drivingArgs.map .str))]),
  (.str "side_effecting", .bool true)]

theorem dropsNothing_agreeing : DropsNothing Unicode.ascii (some oneRecipient) none
    [fileSender ["to", "path"], fileSender ["to", "path"]]
    (canonOf Unicode.ascii
      ([fileSender ["to", "path"], fileSender ["to", "path"]].map declaredFacts) []
      (some ["alice@corp.com"])) := by
  have valid : validateManifest .trial (literalOf (.dict (fileSender ["to", "path"]))) = [] := rfl
  refine (dropsNothing_iff (List.forall_mem_cons.mpr ⟨valid, List.forall_mem_singleton.mpr valid⟩)
    rfl).mpr ?_
  have alone : ∀ {manifest}, manifest ∈ [fileSender ["to", "path"], fileSender ["to", "path"]] →
      manifest = fileSender ["to", "path"] := by
    intro manifest member
    rcases List.mem_cons.mp member with same | member
    · exact same
    · exact List.mem_singleton.mp member
  constructor
  · intro one first other second _ _
    rw [alone first, alone second]
    exact List.Subset.refl _
  · intro one first other second _ _
    rw [alone first, alone second]
    exact List.Subset.refl _
  · intro _ _ _ _ one first other second _ _ _ _
    rw [alone first, alone second]

/-- The arguments of the first of two tools are not gated. -/
theorem second_sender_overwrites :
    (∀ manifest ∈ [fileSender ["to", "path"], fileSender ["url"]],
      validateManifest .trial (literalOf (.dict manifest)) = []) ∧
    ∃ canon, compileManifests Unicode.ascii [fileSender ["to", "path"], fileSender ["url"]]
        none none = .ok canon ∧
      ¬ KeepsDeclared none [fileSender ["to", "path"], fileSender ["url"]] canon := by
  refine ⟨List.forall_mem_cons.mpr ⟨rfl, List.forall_mem_singleton.mpr rfl⟩, _, rfl,
    fun keeps => ?_⟩
  obtain ⟨args, isFound, inside⟩ := keeps.drivingArgs _ List.mem_cons_self "to" (by decide)
  cases (show _ = some [PyStr.ofString "url"] from rfl).symm.trans isFound
  exact absurd inside (by decide)

end AxorWrap.Compile
