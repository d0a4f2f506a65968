/-
This file says what a manifest must be, and that the check accepts exactly this. A value satisfies
a schema when it satisfies each keyword, as the keywords are meant: a required key is there, a
property has a value of its schema, a closed object has no other keys, and every item of an array
is of the schema of the items.

The check looks a key up among the properties, and leaves an object alone that has neither a type
nor properties. This agrees with the keywords on schemas whose properties have names of their own
and that close objects only. It counts no float as an integer, and no schema here asks for one.
-/

import AxorWrap.Compile.Schema
import AxorWrap.Library.Naming

namespace AxorWrap.Compile

open Python

/-! ### Values as literals -/

/-- The literal that a key is. -/
def keyLiteral : Key → Literal
  | .null => .null
  | .bool flag => .bool flag
  | .int number => .int number
  | .float number => .float number
  | .str text => .str text

mutual

/-- The literal that a JSON value is. -/
def literalOf : Value → Literal
  | .null => .null
  | .bool flag => .bool flag
  | .int number => .int number
  | .float number => .float number
  | .str text => .str text
  | .list items => .list (literalItems items)
  | .dict entries => .dict (literalEntries entries)

def literalItems : List Value → List Literal
  | [] => []
  | item :: rest => literalOf item :: literalItems rest

def literalEntries : List (Key × Value) → LiteralEntries
  | [] => []
  | (key, value) :: rest => (keyLiteral key, literalOf value) :: literalEntries rest

end

/-! ### The meaning of a schema -/

/-- The number has no fractional part. -/
def Whole : PyFloat → Prop
  | .finite _ mantissa exponent => 2 ^ (-exponent).toNat ∣ mantissa * 2 ^ exponent.toNat
  | _ => False

/-- The value is of the type. -/
def OfType (value : Value) : SchemaType → Prop
  | .object => ∃ entries, value = .dict entries
  | .array => ∃ items, value = .list items
  | .string => ∃ text, value = .str text
  | .number => (∃ number, value = .int number) ∨ ∃ number, value = .float number
  | .integer => (∃ number, value = .int number) ∨ ∃ number, value = .float number ∧ Whole number
  | .boolean => ∃ flag, value = .bool flag
  | .null => value = .null

/-- The value satisfies the schema: it satisfies every keyword. -/
inductive Satisfies : Schema → Value → Prop
  | external (value : Value) : Satisfies .external value
  | of {keywords : Keywords Schema} {value : Value}
      (const : ∀ text ∈ keywords.const, value = .str text)
      (enum : ∀ texts ∈ keywords.enum, ∃ text ∈ texts, value = .str text)
      (type : ∀ type ∈ keywords.type, OfType value type)
      (required : ∀ entries, value = .dict entries →
        ∀ key ∈ keywords.required, ∃ field, (Key.str key, field) ∈ entries)
      (properties : ∀ entries, value = .dict entries →
        ∀ property ∈ keywords.properties.getD [],
          ∀ field, (Key.str property.1, field) ∈ entries → Satisfies property.2 field)
      (closed : keywords.closed = true → ∀ entries, value = .dict entries →
        ∀ entry ∈ entries, ∃ property ∈ keywords.properties.getD [], entry.1 = .str property.1)
      (items : ∀ schema ∈ keywords.items, ∀ items, value = .list items →
        ∀ item ∈ items, Satisfies schema item) :
      Satisfies (.of keywords) value

/-- The check reads the schema as it is meant. -/
inductive Schema.Regular : Schema → Prop
  | external : Schema.Regular .external
  | of {keywords : Keywords Schema}
      (type : keywords.type ≠ some .integer)
      (named : ((keywords.properties.getD []).map Prod.fst).Nodup)
      (closed : keywords.closed = true →
        keywords.type = some .object ∨ keywords.properties.isSome = true)
      (properties : ∀ property ∈ keywords.properties.getD [], Schema.Regular property.2)
      (items : ∀ schema ∈ keywords.items, Schema.Regular schema) :
      Schema.Regular (.of keywords)

/-! ### One keyword -/

variable (interpreter : LiteralInterpreter)

theorem isText_literalOf {text : PyStr} {value : Value} :
    isText text (literalOf value) = true ↔ value = .str text := by
  cases value with
  | str other =>
    rw [literalOf, isText, decide_eq_true_iff, Value.str.injEq]
  | null | bool flag | int number | float number | list items | dict entries =>
    rw [literalOf]
    exact iff_of_false Bool.false_ne_true fun same => by cases same

/-- There is no fault where the value is accepted. -/
theorem fault_eq_nil {accepted : Bool} {fault : PyStr} :
    (if accepted = true then [] else [fault]) = [] ↔ accepted = true := by
  cases accepted with
  | true => exact iff_of_true rfl rfl
  | false => exact iff_of_false (List.cons_ne_nil _ _) Bool.false_ne_true

theorem constFaults_eq_nil {const : Option PyStr} {value : Value} {path : PyStr} :
    constFaults interpreter (literalOf value) path const = [] ↔
      ∀ text ∈ const, value = .str text := by
  cases const with
  | none =>
    refine iff_of_true rfl fun text member => ?_
    cases member
  | some const =>
    simp only [constFaults, Option.mem_def, Option.some.injEq, forall_eq', ← isText_literalOf]
    exact fault_eq_nil

theorem enumFaults_eq_nil {enum : Option (List PyStr)} {value : Value} {path : PyStr} :
    enumFaults interpreter (literalOf value) path enum = [] ↔
      ∀ texts ∈ enum, ∃ text ∈ texts, value = .str text := by
  cases enum with
  | none =>
    refine iff_of_true rfl fun text member => ?_
    cases member
  | some enum =>
    simp only [enumFaults, Option.mem_def, Option.some.injEq, forall_eq', ← isText_literalOf,
      ← List.any_eq_true]
    exact fault_eq_nil

/-- The check knows every type but that of integers. -/
theorem isType_literalOf {value : Value} {type : SchemaType} (known : type ≠ .integer) :
    isType (literalOf value) type = true ↔ OfType value type := by
  cases type <;> cases value <;> simp_all [literalOf, isType, OfType]

theorem lookup_literalEntries_cons {name : Key} {value : Value} {rest : Entries} {key : PyStr} :
    LiteralEntries.lookup (literalEntries ((name, value) :: rest)) key =
      if name = .str key then some (literalOf value)
      else LiteralEntries.lookup (literalEntries rest) key := by
  rw [literalEntries, LiteralEntries.lookup, List.findSome?_cons]
  cases name with
  | str text =>
    by_cases same : text = key
    · rw [if_pos (congrArg Key.str same)]
      dsimp only [keyLiteral]
      rw [if_pos same]
    · rw [if_neg fun equal => same (Key.str.inj equal)]
      dsimp only [keyLiteral]
      rw [if_neg same]
      rfl
  | null | bool flag | int number | float number => rfl

theorem isSome_lookup_literalEntries {entries : Entries} {key : PyStr} :
    (LiteralEntries.lookup (literalEntries entries) key).isSome = true ↔
      ∃ field, (Key.str key, field) ∈ entries := by
  induction entries with
  | nil =>
    refine iff_of_false Bool.false_ne_true ?_
    rintro ⟨_, member⟩
    cases member
  | cons entry rest inductionHypothesis =>
    obtain ⟨name, value⟩ := entry
    rw [lookup_literalEntries_cons]
    by_cases same : name = .str key
    · rw [if_pos same, same]
      exact iff_of_true rfl ⟨value, List.mem_cons_self⟩
    · rw [if_neg same, inductionHypothesis]
      refine exists_congr fun field => ⟨List.mem_cons_of_mem _, fun member => ?_⟩
      rcases List.mem_cons.mp member with here | later
      · exact absurd (congrArg Prod.fst here).symm same
      · exact later

theorem requiredFaults_eq_nil {entries : Entries} {path : PyStr} {required : List PyStr} :
    requiredFaults (literalEntries entries) path required = [] ↔
      ∀ key ∈ required, ∃ field, (Key.str key, field) ∈ entries := by
  rw [requiredFaults, List.filterMap_eq_nil_iff]
  refine forall₂_congr fun key _ => ?_
  rw [← isSome_lookup_literalEntries, ite_eq_left_iff]
  exact ⟨fun same => by_contra fun absent => Option.some_ne_none _ (same absent),
    fun present absent => absurd present absent⟩

/-- The schema of a property is looked up by its name. -/
theorem propertyOf_eq_some {properties : List (PyStr × Schema)}
    (named : (properties.map Prod.fst).Nodup) {key : Key} {schema : Schema} :
    propertyOf properties (keyLiteral key) = some schema ↔
      ∃ property ∈ properties, key = .str property.1 ∧ property.2 = schema := by
  cases key with
  | str text =>
    have found : properties.lookup text = some schema ↔ (text, schema) ∈ properties :=
      Naming.lookup_eq_some_iff_mem named
    refine found.trans ⟨fun member => ⟨_, member, rfl, rfl⟩, ?_⟩
    rintro ⟨_, member, same, rfl⟩
    cases same
    exact member
  | null | bool flag | int number | float number =>
    refine iff_of_false (Option.some_ne_none _ ∘ Eq.symm) ?_
    rintro ⟨_, _, same, _⟩
    cases same

/-! ### The check -/

section Nested

variable {properties : List (PyStr × Schema)} {closed : Bool}

/-- The entries of an object have no fault when each is of its property's schema, and a closed
object has no others. -/
theorem checkEntries_eq_nil (named : (properties.map Prod.fst).Nodup) {entries : Entries}
    (each : ∀ entry ∈ entries, ∀ property ∈ properties, ∀ path,
      check interpreter (literalOf entry.2) property.2 path = [] ↔ Satisfies property.2 entry.2)
    {path : PyStr} :
    checkEntries interpreter (literalEntries entries) properties closed path = [] ↔
      (∀ property ∈ properties, ∀ field, (Key.str property.1, field) ∈ entries →
          Satisfies property.2 field) ∧
        (closed = true → ∀ entry ∈ entries,
          ∃ property ∈ properties, entry.1 = .str property.1) := by
  induction entries with
  | nil =>
    rw [literalEntries, checkEntries]
    refine iff_of_true rfl ⟨fun _ _ _ member => ?_, fun _ _ member => ?_⟩
    · cases member
    · cases member
  | cons entry rest inductionHypothesis =>
    obtain ⟨key, value⟩ := entry
    obtain ⟨first, later⟩ := List.forall_mem_cons.mp each
    rw [literalEntries, checkEntries, List.append_eq_nil_iff, inductionHypothesis later]
    have values : (∀ property ∈ properties, ∀ field,
          (Key.str property.1, field) ∈ (key, value) :: rest → Satisfies property.2 field) ↔
        (∀ property ∈ properties, key = .str property.1 → Satisfies property.2 value) ∧
          ∀ property ∈ properties, ∀ field, (Key.str property.1, field) ∈ rest →
            Satisfies property.2 field := by
      simp only [List.mem_cons, Prod.mk.injEq, or_imp, and_imp, forall_and, forall_eq_apply_imp_iff,
        eq_comm (b := key)]
    rw [values, List.forall_mem_cons, forall_and, and_and_and_comm]
    refine and_congr_left fun _ => ?_
    cases found : propertyOf properties (keyLiteral key) with
    | some schema =>
      obtain ⟨property, member, same, rfl⟩ := (propertyOf_eq_some named).mp found
      dsimp only
      rw [first property member]
      refine ⟨fun satisfied => ⟨fun other inside equal => ?_, fun _ => ⟨property, member, same⟩⟩,
        fun kept => kept.1 property member same⟩
      have again := (propertyOf_eq_some named).mpr ⟨other, inside, equal, rfl⟩
      rw [Option.some.inj (again.symm.trans found)]
      exact satisfied
    | none =>
      have unknown : ∀ property ∈ properties, key ≠ .str property.1 := by
        intro property member same
        rw [(propertyOf_eq_some named).mpr ⟨property, member, same, rfl⟩] at found
        cases found
      dsimp only
      cases closed with
      | false =>
        exact iff_of_true rfl ⟨fun property member same => absurd same (unknown property member),
          fun wrong => by cases wrong⟩
      | true =>
        refine iff_of_false (List.cons_ne_nil _ _) fun kept => ?_
        obtain ⟨property, member, same⟩ := kept.2 rfl
        exact unknown property member same

theorem checkItems_eq_nil {schema : Schema} {items : List Value}
    (each : ∀ item ∈ items, ∀ path,
      check interpreter (literalOf item) schema path = [] ↔ Satisfies schema item)
    {path : PyStr} {index : Nat} :
    checkItems interpreter (literalItems items) schema path index = [] ↔
      ∀ item ∈ items, Satisfies schema item := by
  induction items generalizing index with
  | nil =>
    rw [literalItems, checkItems]
    exact iff_of_true rfl (List.forall_mem_nil _)
  | cons item rest inductionHypothesis =>
    obtain ⟨first, later⟩ := List.forall_mem_cons.mp each
    rw [literalItems, checkItems, List.append_eq_nil_iff, first, inductionHypothesis later,
      List.forall_mem_cons]

end Nested

section Node

variable {keywords : Keywords Schema} {value : Value} {path : PyStr}

/-- The check comes past the type of a value exactly when the value is of this type. -/
theorem mismatch_eq_none (known : keywords.type ≠ some .integer) :
    keywords.type.filter (fun type => !isType (literalOf value) type) = none ↔
      ∀ type ∈ keywords.type, OfType value type := by
  rw [Option.filter_eq_none_iff]
  refine forall₂_congr fun type member => ?_
  have other : type ≠ .integer := by
    rintro rfl
    exact known member
  rw [← isType_literalOf other, Bool.not_eq_true, Bool.not_eq_false']

/-- Nothing passes that is not of the type. -/
theorem check_ne_nil (mismatch : keywords.type.filter
    (fun type => !isType (literalOf value) type) ≠ none) :
    check interpreter (literalOf value) (.of keywords) path ≠ [] := by
  obtain ⟨type, found⟩ := Option.ne_none_iff_exists'.mp mismatch
  unfold check
  rw [found]
  exact List.append_ne_nil_of_right_ne_nil _ (List.cons_ne_nil _ _)

/-- Faults there are none before a value is looked into. -/
theorem faults_eq_nil :
    constFaults interpreter (literalOf value) path keywords.const ++
        enumFaults interpreter (literalOf value) path keywords.enum = [] ↔
      (∀ text ∈ keywords.const, value = .str text) ∧
        ∀ texts ∈ keywords.enum, ∃ text ∈ texts, value = .str text := by
  rw [List.append_eq_nil_iff, constFaults_eq_nil, enumFaults_eq_nil]

/-- What the keywords say of a value before it is looked into. -/
structure Keywords.Admits (keywords : Keywords Schema) (value : Value) : Prop where
  const : ∀ text ∈ keywords.const, value = .str text
  enum : ∀ texts ∈ keywords.enum, ∃ text ∈ texts, value = .str text
  type : ∀ type ∈ keywords.type, OfType value type

/-- A value passes when it is admitted and the rest of the check finds nothing. -/
theorem check_eq_nil_of (rest : List PyStr) (known : keywords.type ≠ some .integer)
    (unfolded : keywords.type.filter (fun type => !isType (literalOf value) type) = none →
      check interpreter (literalOf value) (.of keywords) path =
        constFaults interpreter (literalOf value) path keywords.const ++
          enumFaults interpreter (literalOf value) path keywords.enum ++ rest) :
    check interpreter (literalOf value) (.of keywords) path = [] ↔
      keywords.Admits value ∧ rest = [] := by
  by_cases typed : keywords.type.filter (fun type => !isType (literalOf value) type) = none
  · rw [unfolded typed, List.append_eq_nil_iff, faults_eq_nil]
    refine and_congr_left fun _ => ⟨fun kept => ?_, fun admitted => ?_⟩
    · exact ⟨kept.1, kept.2, (mismatch_eq_none known).mp typed⟩
    · exact ⟨admitted.const, admitted.enum⟩
  · refine iff_of_false (check_ne_nil interpreter typed) fun kept => ?_
    exact typed ((mismatch_eq_none known).mpr kept.1.type)

/-- A value with no values in it satisfies a schema when it is admitted. -/
theorem check_scalar_eq_nil (known : keywords.type ≠ some .integer)
    (scalar : (∀ items, value ≠ .list items) ∧ ∀ entries, value ≠ .dict entries) :
    check interpreter (literalOf value) (.of keywords) path = [] ↔
      Satisfies (.of keywords) value := by
  refine (check_eq_nil_of interpreter [] known fun typed => ?_).trans
    ⟨fun kept => ?_, fun satisfied => ?_⟩
  · unfold check
    rw [typed]
    cases value with
    | list items => exact absurd rfl (scalar.1 items)
    | dict entries => exact absurd rfl (scalar.2 entries)
    | null | bool flag | int number | float number | str text => rfl
  · exact .of kept.1.const kept.1.enum kept.1.type
      (fun entries same => absurd same (scalar.2 entries))
      (fun entries same => absurd same (scalar.2 entries))
      (fun _ entries same => absurd same (scalar.2 entries))
      (fun _ _ items same => absurd same (scalar.1 items))
  · cases satisfied with
    | of const enum type => exact ⟨⟨const, enum, type⟩, rfl⟩

theorem check_list_eq_nil (known : keywords.type ≠ some .integer) {items : List Value}
    (each : ∀ schema ∈ keywords.items, ∀ item ∈ items, ∀ path,
      check interpreter (literalOf item) schema path = [] ↔ Satisfies schema item) :
    check interpreter (literalOf (.list items)) (.of keywords) path = [] ↔
      Satisfies (.of keywords) (.list items) := by
  have within : (keywords.items.elim [] fun schema =>
        checkItems interpreter (literalItems items) schema path 0) = [] ↔
      ∀ schema ∈ keywords.items, ∀ item ∈ items, Satisfies schema item := by
    cases listed : keywords.items with
    | none => exact iff_of_true rfl fun _ member => by cases member
    | some schema =>
      refine (checkItems_eq_nil interpreter (each schema listed)).trans ⟨?_, fun kept => kept _ rfl⟩
      rintro kept _ ⟨⟩
      exact kept
  refine (check_eq_nil_of interpreter _ known fun typed => ?_).trans
    ((and_congr_right fun _ => within).trans ⟨fun kept => ?_, fun satisfied => ?_⟩)
  · rw [literalOf] at typed ⊢
    rw [check, typed]
    cases keywords.items <;> rfl
  · exact .of kept.1.const kept.1.enum kept.1.type (fun _ same => by cases same)
      (fun _ same => by cases same) (fun _ _ same => by cases same)
      fun schema member _ same => by cases same; exact kept.2 schema member
  · cases satisfied with
    | of const enum type _ _ _ items =>
      exact ⟨⟨const, enum, type⟩, fun schema member => items schema member _ rfl⟩

theorem check_dict_eq_nil (regular : (Schema.of keywords).Regular) {entries : Entries}
    (each : ∀ entry ∈ entries, ∀ property ∈ keywords.properties.getD [], ∀ path,
      check interpreter (literalOf entry.2) property.2 path = [] ↔
        Satisfies property.2 entry.2) :
    check interpreter (literalOf (.dict entries)) (.of keywords) path = [] ↔
      Satisfies (.of keywords) (.dict entries) := by
  cases regular with
  | of known named closes _ _ =>
  have within : (requiredFaults (literalEntries entries) path keywords.required ++
        if keywords.type = some .object ∨ keywords.properties.isSome = true then
          checkEntries interpreter (literalEntries entries) (keywords.properties.getD [])
            keywords.closed path
        else []) = [] ↔
      (∀ key ∈ keywords.required, ∃ field, (Key.str key, field) ∈ entries) ∧
        (∀ property ∈ keywords.properties.getD [], ∀ field,
          (Key.str property.1, field) ∈ entries → Satisfies property.2 field) ∧
        (keywords.closed = true → ∀ entry ∈ entries,
          ∃ property ∈ keywords.properties.getD [], entry.1 = .str property.1) := by
    rw [List.append_eq_nil_iff, requiredFaults_eq_nil]
    refine and_congr_right fun _ => ?_
    split
    · exact checkEntries_eq_nil interpreter named each
    · next loose =>
      -- Such a schema has no properties and closes nothing.
      obtain ⟨_, none⟩ := not_or.mp loose
      rw [Option.not_isSome_iff_eq_none.mp none]
      refine iff_of_true rfl ⟨fun _ member => ?_, fun isClosed => ?_⟩
      · cases member
      · exact absurd (closes isClosed) loose
  refine (check_eq_nil_of interpreter _ known fun typed => ?_).trans
    ((and_congr_right fun _ => within).trans ⟨fun kept => ?_, fun satisfied => ?_⟩)
  · rw [literalOf] at typed ⊢
    rw [check, typed]
  · obtain ⟨admitted, required, properties, closed⟩ := kept
    refine .of admitted.const admitted.enum admitted.type ?_ ?_ ?_ ?_
    · rintro _ ⟨⟩
      exact required
    · rintro _ ⟨⟩
      exact properties
    · rintro isClosed _ ⟨⟩
      exact closed isClosed
    · rintro _ _ _ ⟨⟩
  · cases satisfied with
    | of const enum type required properties closed _ =>
      exact ⟨⟨const, enum, type⟩, required _ rfl, properties _ rfl,
        fun isClosed => closed isClosed _ rfl⟩

end Node

/-- A value has no fault exactly when it satisfies the schema. -/
theorem check_eq_nil_iff {schema : Schema} (regular : schema.Regular) (value : Value)
    (path : PyStr) :
    check interpreter (literalOf value) schema path = [] ↔ Satisfies schema value := by
  induction value using Value.inductionOn generalizing schema path with
  | list items each =>
    cases regular with
    | external => exact iff_of_true (by rw [check]) (.external _)
    | of known _ _ _ regular =>
      exact check_list_eq_nil interpreter known fun schema member item inside path =>
        each item inside (regular schema member) path
  | dict entries each =>
    cases regular with
    | external => exact iff_of_true (by rw [check]) (.external _)
    | of known named closed regular items =>
      exact check_dict_eq_nil interpreter (.of known named closed regular items)
        fun entry inside property member path =>
          each entry inside (regular property member) path
  | null | bool | int | float | str =>
    cases regular with
    | external => exact iff_of_true (by rw [check]) (.external _)
    | of known _ _ _ _ =>
      exact check_scalar_eq_nil interpreter known
        ⟨(by rintro _ ⟨⟩), (by rintro _ ⟨⟩)⟩

/-! ### The schema of a manifest -/

theorem regular_typed {type : SchemaType} (known : type ≠ .integer) :
    (Schema.typed type).Regular :=
  .of (fun same => known (Option.some.inj same)) .nil (fun closed => by cases closed)
    (fun _ member => by cases member) fun _ member => by cases member

theorem regular_oneOf (texts : List PyStr) : (Schema.oneOf texts).Regular :=
  .of (fun same => by cases same) .nil (fun closed => by cases closed)
    (fun _ member => by cases member) fun _ member => by cases member

theorem regular_array {schema : Schema} (regular : schema.Regular) :
    (Schema.of { type := some .array, items := some schema }).Regular :=
  .of (fun same => by cases same) .nil (fun closed => by cases closed)
    (fun _ member => by cases member) fun _ member => by cases member; exact regular

theorem regular_object {required : List PyStr} {properties : List (PyStr × Schema)}
    (named : (properties.map Prod.fst).Nodup)
    (regular : ∀ property ∈ properties, Schema.Regular property.2) :
    (Schema.of {
      type := some .object
      required := required
      closed := true
      properties := some properties }).Regular :=
  .of (fun same => by cases same) named (fun _ => .inl rfl) regular
    fun _ member => by cases member

theorem regular_resolveSchema : resolveSchema.Regular :=
  regular_object (by decide) (by
    simp only [List.forall_mem_cons]
    exact ⟨.external, regular_oneOf _, List.forall_mem_nil _⟩)

theorem regular_effectSchema : effectSchema.Regular :=
  regular_object (by decide) (by
    simp only [List.forall_mem_cons]
    exact ⟨regular_oneOf _, regular_array (regular_typed (by decide)),
      regular_array regular_resolveSchema, List.forall_mem_nil _⟩)

theorem regular_simulationSchema : simulationSchema.Regular := by
  have execution : ∀ property ∈ ([
      ("opt_in", .typed .boolean),
      ("requires", .of {
        type := some .array
        items := some (.oneOf
          ["isolated_test_account", "resource_allowlist", "dry_run_confirmed"]) })] :
      List (PyStr × Schema)), Schema.Regular property.2 := by
    simp only [List.forall_mem_cons]
    exact ⟨regular_typed (by decide), regular_array (regular_oneOf _),
      List.forall_mem_nil _⟩
  refine regular_object (by decide) ?_
  simp only [List.forall_mem_cons]
  exact ⟨regular_typed (by decide), regular_typed (by decide),
    regular_object (by decide) execution, List.forall_mem_nil _⟩

theorem regular_resetSchema : resetSchema.Regular :=
  regular_object (by decide) (by
    simp only [List.forall_mem_cons]
    exact ⟨regular_oneOf _, regular_typed (by decide),
      List.forall_mem_nil _⟩)

theorem regular_embeddedSchema : embeddedSchema.Regular := by
  have version : (Schema.of { const := some schemaVersion }).Regular :=
    .of (by decide) .nil (fun closed => by cases closed) (fun _ member => by cases member)
      fun _ member => by cases member
  refine regular_object (by decide) ?_
  simp only [List.forall_mem_cons]
  exact ⟨version, regular_typed (by decide), regular_typed (by decide), regular_typed (by decide),
    regular_effectSchema, regular_array (regular_typed (by decide)),
    regular_array (regular_typed (by decide)), regular_typed (by decide),
    regular_simulationSchema, regular_resetSchema, List.forall_mem_nil _⟩

/-- **The check accepts exactly the manifests**: a value has no errors when, and only when, it
satisfies the embedded schema. -/
theorem validator_accepts_exactly (value : Value) :
    validateManifest interpreter (literalOf value) = [] ↔ Satisfies embeddedSchema value :=
  check_eq_nil_iff interpreter regular_embeddedSchema value "$"

end AxorWrap.Compile
