/-
This file says when no allowlist reference governs. A reference stands for an input, and an input
may itself be a reference, or list some.

The expansion follows a reference once and takes what it finds as it is. So a reference that an
input holds is handed on as a destination, unless nothing comes of it: no tool is an egress sink,
or another reference is refused.
-/

import AxorWrap.Compile.Protections

namespace AxorWrap.Compile

open Python Checks

/-! ### What an allowlist stands for -/

/-- The item refers to an input. -/
def IsReference (item : Value) : Prop := ∃ name, item = .str (inputRef ++ name)

/-- What stands for a reference to the value: a list is spliced in. -/
def spliced : Value → List Value
  | .list items => items
  | value => [value]

/-- `inputs[name]`, if there is such an input. -/
def inputNamed (inputs : Option Entries) (name : PyStr) : Option Value :=
  inputs.bind fun inputs => Entries.lookup inputs name

section Meaning

variable (unicode : Unicode) (inputs : Option Entries)

mutual

/-- The texts that an item stands for, with every reference followed to its end. -/
inductive Resolves : Value → List PyStr → Prop
  | literal {item : Value} (plain : ¬ IsReference item) : Resolves item [textOf unicode item]
  | reference {name : PyStr} {value : Value} {texts : List PyStr}
      (named : inputNamed inputs name = some value) (followed : ResolvesAll (spliced value) texts) :
      Resolves (.str (inputRef ++ name)) texts

/-- The texts that items stand for, one after another. -/
inductive ResolvesAll : List Value → List PyStr → Prop
  | nil : ResolvesAll [] []
  | cons {item : Value} {rest : List Value} {texts others : List PyStr}
      (first : Resolves item texts) (later : ResolvesAll rest others) :
      ResolvesAll (item :: rest) (texts ++ others)

end

end Meaning

/-- The compilation refuses an allowlist, or each of its policies has the texts that the allowlist
stands for, and no reference among them. -/
def NoReferenceGoverns (unicode : Unicode) (manifests : List Entries) (policy : Entries)
    (inputs : Option Entries) (allowlist : List Value) : Prop :=
  (∀ error, compileManifests unicode manifests (some policy) inputs = .error error →
      error = .valueError) ∧
    ∀ canon, compileManifests unicode manifests (some policy) inputs = .ok canon →
      ∀ sink, ∀ byArg ∈ canon.valuePolicies.lookup sink, ∀ arg, ∀ spec ∈ byArg.lookup arg,
        (∀ text ∈ spec.enum, text.startsWith inputRef = false) ∧
          ResolvesAll unicode inputs allowlist spec.enum

/-- A reference without an input. -/
def Dangling (inputs : Option Entries) (item : Value) : Prop :=
  ∃ name, item = .str (inputRef ++ name) ∧ inputNamed inputs name = none

/-- The item refers to no input that holds a reference. -/
def Settled (inputs : Option Entries) (item : Value) : Prop :=
  ∀ name, item = .str (inputRef ++ name) → ∀ value, inputNamed inputs name = some value →
    ∀ element ∈ spliced value, ¬ IsReference element

/-! ### The expansion of an item -/

section Item

variable {unicode : Unicode} {inputs : Option Entries} {item : Value} {values : List Value}

theorem startsWith_inputRef {text : PyStr} :
    text.startsWith inputRef = true ↔ ∃ name, text = inputRef ++ name := by
  rw [PyStr.startsWith, List.isPrefixOf_iff_prefix]
  exact exists_congr fun name => eq_comm

theorem expandItem_literal (plain : ¬ IsReference item) : expandItem inputs item = .ok [item] := by
  cases item with
  | str text =>
    refine if_neg fun starts => plain ?_
    obtain ⟨name, rfl⟩ := startsWith_inputRef.mp starts
    exact ⟨name, rfl⟩
  | null | bool flag | int number | float number | list items | dict entries => rfl

theorem expandItem_reference (name : PyStr) :
    expandItem inputs (.str (inputRef ++ name)) =
      (inputNamed inputs name).elim (.error .valueError) fun value => .ok (spliced value) := by
  have dropped : (inputRef ++ name).drop inputRef.length = name := List.drop_left
  rw [expandItem, if_pos (startsWith_inputRef.mpr ⟨name, rfl⟩), dropped]
  unfold inputNamed
  cases inputs.bind fun inputs => Entries.lookup inputs name with
  | none => rfl
  | some value => cases value <;> rfl

theorem expandItem_cases (inputs : Option Entries) (item : Value) :
    (¬ IsReference item ∧ expandItem inputs item = .ok [item]) ∨
      (Dangling inputs item ∧ expandItem inputs item = .error .valueError) ∨
      ∃ name value, item = .str (inputRef ++ name) ∧ inputNamed inputs name = some value ∧
        expandItem inputs item = .ok (spliced value) := by
  by_cases reference : IsReference item
  · obtain ⟨name, rfl⟩ := reference
    rw [expandItem_reference]
    cases named : inputNamed inputs name with
    | none => exact .inr (.inl ⟨⟨name, rfl, named⟩, rfl⟩)
    | some value => exact .inr (.inr ⟨name, value, rfl, named, rfl⟩)
  · exact .inl ⟨reference, expandItem_literal reference⟩

theorem Dangling.refused (dangling : Dangling inputs item) :
    expandItem inputs item = .error .valueError := by
  obtain ⟨name, rfl, unnamed⟩ := dangling
  rw [expandItem_reference, unnamed]
  rfl

/-- What comes of an item has no references exactly when the item is settled. -/
theorem settled_iff (expands : expandItem inputs item = .ok values) :
    Settled inputs item ↔ ∀ value ∈ values, ¬ IsReference value := by
  rcases expandItem_cases inputs item with
    ⟨plain, isItem⟩ | ⟨_, refused⟩ | ⟨name, value, rfl, named, isInput⟩
  · cases expands.symm.trans isItem
    rw [List.forall_mem_singleton]
    exact iff_of_true (fun name same => absurd ⟨name, same⟩ plain) plain
  · cases expands.symm.trans refused
  · cases expands.symm.trans isInput
    constructor
    · intro settled
      exact settled name rfl value named
    · intro plain other same found isFound
      cases List.append_cancel_left (Value.str.inj same)
      cases named.symm.trans isFound
      exact plain

theorem resolvesAll_literals (plain : ∀ value ∈ values, ¬ IsReference value) :
    ResolvesAll unicode inputs values (values.map (textOf unicode)) := by
  induction values with
  | nil => exact .nil
  | cons value rest inductionHypothesis =>
    obtain ⟨first, later⟩ := List.forall_mem_cons.mp plain
    exact .cons (.literal first) (inductionHypothesis later)

theorem resolves_of_plain (expands : expandItem inputs item = .ok values)
    (plain : ∀ value ∈ values, ¬ IsReference value) :
    Resolves unicode inputs item (values.map (textOf unicode)) := by
  rcases expandItem_cases inputs item with
    ⟨literal, isItem⟩ | ⟨_, refused⟩ | ⟨name, value, rfl, named, isInput⟩
  · cases expands.symm.trans isItem
    exact .literal literal
  · cases expands.symm.trans refused
  · cases expands.symm.trans isInput
    exact .reference named (resolvesAll_literals plain)

end Item

/-! ### The expansion of an allowlist -/

section Allowlist

variable {unicode : Unicode} {inputs : Option Entries} {items expanded : List Value}

/-- An allowlist is refused exactly for a reference without an input. -/
theorem expand_cases (inputs : Option Entries) (items : List Value) :
    ((∃ item ∈ items, Dangling inputs item) ∧ expand items inputs = .error .valueError) ∨
      ((∀ item ∈ items, ¬ Dangling inputs item) ∧
        ∃ expanded, expand items inputs = .ok expanded) := by
  unfold expand
  cases mapped : items.mapM (expandItem inputs) with
  | error error =>
    refine .inl ⟨by_contra fun none => ?_, ?_⟩
    · have returns : ∃ values, items.mapM (expandItem inputs) = .ok values :=
        mapM_returns_iff.mpr fun item member => by
          rcases expandItem_cases inputs item with ⟨_, found⟩ | ⟨dangling, _⟩ | ⟨_, _, _, _, found⟩
          · exact ⟨_, found⟩
          · exact absurd ⟨item, member, dangling⟩ none
          · exact ⟨_, found⟩
      rw [mapped] at returns
      obtain ⟨_, wrong⟩ := returns
      cases wrong
    · have each : ∀ item error, expandItem inputs item = .error error → error = .valueError := by
        intro item error failed
        rcases expandItem_cases inputs item with
          ⟨_, found⟩ | ⟨_, refused⟩ | ⟨_, _, _, _, found⟩
        · cases failed.symm.trans found
        · cases failed.symm.trans refused
          rfl
        · cases failed.symm.trans found
      rw [raised_mapM each mapped]
      rfl
  | ok values =>
    refine .inr ⟨fun item member dangling => ?_, _, rfl⟩
    obtain ⟨_, found⟩ := mapM_returns_iff.mp ⟨values, mapped⟩ item member
    cases dangling.refused.symm.trans found

theorem exists_lists (expands : expand items inputs = .ok expanded) :
    ∃ lists, List.Forall₂ (fun item values => expandItem inputs item = .ok values) items lists ∧
      lists.flatten = expanded := by
  obtain ⟨lists, mapped, same⟩ := bind_eq_ok.mp expands
  cases same
  exact ⟨lists, mapM_eq_ok.mp mapped, rfl⟩

/-- What is emitted has no references exactly when every item is settled. -/
theorem settled_items_iff (expands : expand items inputs = .ok expanded) :
    (∀ item ∈ items, Settled inputs item) ↔ ∀ value ∈ expanded, ¬ IsReference value := by
  obtain ⟨lists, each, rfl⟩ := exists_lists expands
  clear expands
  induction each with
  | nil => exact iff_of_true (by simp) (by simp)
  | cons first _ inductionHypothesis =>
    rw [List.forall_mem_cons, List.flatten_cons, List.forall_mem_append, settled_iff first,
      inductionHypothesis]

/-- What is emitted without references is what the allowlist stands for. -/
theorem resolvesAll_expanded (expands : expand items inputs = .ok expanded)
    (plain : ∀ value ∈ expanded, ¬ IsReference value) :
    ResolvesAll unicode inputs items (expanded.map (textOf unicode)) := by
  obtain ⟨lists, each, rfl⟩ := exists_lists expands
  clear expands
  induction each with
  | nil => exact .nil
  | cons first _ inductionHypothesis =>
    rw [List.flatten_cons, List.forall_mem_append] at plain
    rw [List.flatten_cons, List.map_append]
    exact .cons (resolves_of_plain first plain.1) (inductionHypothesis plain.2)

end Allowlist

/-! ### The texts of values -/

section Texts

variable {unicode : Unicode}

theorem not_startsWith_intText (number : Int) :
    (intText number).startsWith inputRef = false := by
  refine Bool.eq_false_iff.mpr fun starts => ?_
  obtain ⟨name, same⟩ := startsWith_inputRef.mp starts
  have member : (36 : CodePoint) ∈ intText number :=
    same ▸ List.mem_append_left _ List.mem_cons_self
  rcases mem_intText member with minus | digit
  · exact absurd minus (by decide)
  · exact absurd digit.1 (by decide)

/-- A text starts as a reference does only when its value is one. -/
theorem startsWith_textOf (floats : ∀ number, (unicode.floatText number).startsWith inputRef = false)
    (value : Value) :
    (textOf unicode value).startsWith inputRef = true ↔ IsReference value := by
  have other : ∀ text : PyStr, text.startsWith inputRef = false → (∀ text, value ≠ .str text) →
      (text.startsWith inputRef = true ↔ IsReference value) := by
    intro text differs noText
    refine iff_of_false (by rw [differs]; exact Bool.false_ne_true) ?_
    rintro ⟨name, rfl⟩
    exact noText _ rfl
  cases value with
  | str text =>
    refine startsWith_inputRef.trans (exists_congr fun name => ?_)
    rw [Value.str.injEq]
    rfl
  | null => exact other _ rfl (by rintro _ ⟨⟩)
  | bool flag => cases flag <;> exact other _ rfl (by rintro _ ⟨⟩)
  | int number => exact other _ (not_startsWith_intText number) (by rintro _ ⟨⟩)
  | float number => exact other _ (floats number) (by rintro _ ⟨⟩)
  | list items => exact other _ rfl (by rintro _ ⟨⟩)
  | dict entries => exact other _ rfl (by rintro _ ⟨⟩)

end Texts

/-! ### What governs -/

section Governs

variable {unicode : Unicode} {policy : Entries} {inputs : Option Entries} {items : List Value}

/-- What an allowlist resolves to, if it has an item. -/
theorem resolvedOf_listed (listed : Entries.lookup policy "allowlist" = some (.list items))
    (nonempty : items ≠ []) :
    resolvedOf unicode (some policy) inputs =
      (expand items inputs).map fun expanded => some (expanded.map (textOf unicode)) := by
  have isListed : allowlistOf (some policy) = .ok (some items) := by
    unfold allowlistOf entryOr
    rw [Option.getD_some, listed]
    cases items with
    | nil => exact absurd rfl nonempty
    | cons => rfl
  unfold resolvedOf
  rw [isListed]
  show (expand items inputs >>= fun _ => _) = _
  cases expand items inputs <;> rfl

/-- An empty allowlist puts up no policy. -/
theorem resolvedOf_empty (listed : Entries.lookup policy "allowlist" = some (.list [])) :
    resolvedOf unicode (some policy) inputs = .ok none := by
  unfold resolvedOf allowlistOf entryOr
  rw [Option.getD_some, listed]
  rfl

variable {manifests : List Entries} {declared : Entries} {interpreter : LiteralInterpreter}

/-- Without a policy, nothing governs that could be a reference. -/
theorem noReferenceGoverns_of_none
    (formed : ∀ manifest ∈ manifests, ∃ effect, Formed manifest effect)
    (isDeclared : declaredOverrides (some policy) = .ok declared)
    (resolves : resolvedOf unicode (some policy) inputs = .ok none) :
    NoReferenceGoverns unicode manifests policy inputs items := by
  unfold NoReferenceGoverns
  rw [compileManifests_map formed isDeclared, resolves]
  refine ⟨by rintro _ ⟨⟩, ?_⟩
  rintro _ ⟨⟩ sink byArg isFound
  obtain ⟨_, wrong, _⟩ := mem_lookup_policiesOf.mp isFound
  cases wrong

/-- With an allowlist that resolves, each sink is held to the texts it resolves to. -/
theorem noReferenceGoverns_iff_of_some
    (formed : ∀ manifest ∈ manifests, ∃ effect, Formed manifest effect)
    (isDeclared : declaredOverrides (some policy) = .ok declared) {texts : List PyStr}
    (resolves : resolvedOf unicode (some policy) inputs = .ok (some texts)) :
    NoReferenceGoverns unicode manifests policy inputs items ↔
      ∀ sink ∈ manifests, IsEgress sink →
        (∀ text ∈ texts, text.startsWith inputRef = false) ∧
          ResolvesAll unicode inputs items texts := by
  unfold NoReferenceGoverns
  rw [compileManifests_map formed isDeclared, resolves]
  constructor
  · rintro ⟨_, governed⟩ sink member sends
    have isSink := mem_egressTools.mpr ⟨sink, member, rfl, sends⟩
    exact governed _ rfl (declaredId sink) _
      (mem_lookup_policiesOf.mpr ⟨texts, rfl, isSink, rfl⟩) _ ⟨texts⟩
      (mem_lookup_singleton.mpr ⟨rfl, rfl⟩)
  · intro each
    refine ⟨by rintro _ ⟨⟩, ?_⟩
    rintro _ ⟨⟩ sink byArg isFound arg spec isSpec
    obtain ⟨_, ⟨⟩, isSink, rfl⟩ := mem_lookup_policiesOf.mp isFound
    obtain ⟨manifest, member, _, sends⟩ := mem_egressTools.mp isSink
    obtain ⟨_, rfl⟩ := mem_lookup_singleton.mp isSpec
    exact each manifest member sends

/-- **No unresolved reference governs** exactly when no tool is an egress sink, or an item refers
to no input and is refused, or no input that an item refers to is or lists a reference. -/
theorem noReferenceGoverns_iff
    (floats : ∀ number, (unicode.floatText number).startsWith inputRef = false)
    (valid : ∀ manifest ∈ manifests,
      validateManifest interpreter (literalOf (.dict manifest)) = [])
    (listed : Entries.lookup policy "allowlist" = some (.list items))
    (isDeclared : declaredOverrides (some policy) = .ok declared) :
    NoReferenceGoverns unicode manifests policy inputs items ↔
      (∀ manifest ∈ manifests, ¬ IsEgress manifest) ∨ (∃ item ∈ items, Dangling inputs item) ∨
        ∀ item ∈ items, Settled inputs item := by
  have formed := formed_of_valid valid
  by_cases nonempty : items = []
  · subst nonempty
    refine iff_of_true (noReferenceGoverns_of_none formed isDeclared (resolvedOf_empty listed)) ?_
    exact .inr (.inr (List.forall_mem_nil _))
  have resolves : resolvedOf unicode (some policy) inputs = _ := resolvedOf_listed listed nonempty
  rcases expand_cases inputs items with ⟨dangling, refused⟩ | ⟨none, expanded, expands⟩
  · rw [refused] at resolves
    refine iff_of_true ⟨fun error failed => ?_, fun canon compiled => ?_⟩ (.inr (.inl dangling))
    · rw [compileManifests_map formed isDeclared, resolves] at failed
      cases failed
      rfl
    · rw [compileManifests_map formed isDeclared, resolves] at compiled
      cases compiled
  · rw [expands] at resolves
    have undangling : ¬ ∃ item ∈ items, Dangling inputs item := by
      rintro ⟨item, member, dangling⟩
      exact none item member dangling
    rw [noReferenceGoverns_iff_of_some formed isDeclared resolves, settled_items_iff expands,
      or_iff_right undangling]
    have free : (∀ text ∈ expanded.map (textOf unicode), text.startsWith inputRef = false) ↔
        ∀ value ∈ expanded, ¬ IsReference value := by
      rw [List.forall_mem_map]
      refine forall₂_congr fun value _ => ?_
      rw [← startsWith_textOf floats, Bool.not_eq_true]
    constructor
    · intro each
      by_cases sends : ∃ sink ∈ manifests, IsEgress sink
      · obtain ⟨sink, member, sends⟩ := sends
        exact .inr (free.mp (each sink member sends).1)
      · exact .inl fun manifest member isEgress => sends ⟨manifest, member, isEgress⟩
    · rintro (nowhere | plain) sink member sends
      · exact absurd sends (nowhere sink member)
      · exact ⟨free.mpr plain, resolvesAll_expanded expands plain⟩

end Governs

/-! ### Known recipients -/

/-- A policy that lets files go to the known recipients, and to one other. -/
def knownRecipients : Entries :=
  [(.str "allowlist", .list [.str "$inputs.known", .str "carol@corp.com"])]

theorem noReferenceGoverns_known :
    NoReferenceGoverns Unicode.ascii [fileSender ["to"]] knownRecipients
      (some [(.str "known", .list [.str "alice@corp.com", .str "bob@corp.com"])])
      [.str "$inputs.known", .str "carol@corp.com"] := by
  have valid : validateManifest .trial (literalOf (.dict (fileSender ["to"]))) = [] := rfl
  have floats : ∀ number, (Unicode.ascii.floatText number).startsWith inputRef = false :=
    fun _ => rfl
  have expands : expand [.str "$inputs.known", .str "carol@corp.com"]
      (some [(.str "known", .list [.str "alice@corp.com", .str "bob@corp.com"])]) =
        .ok [.str "alice@corp.com", .str "bob@corp.com", .str "carol@corp.com"] := rfl
  refine (noReferenceGoverns_iff floats (List.forall_mem_singleton.mpr valid) rfl rfl).mpr
    (.inr (.inr ((settled_items_iff expands).mpr ?_)))
  intro value member reference
  have starts := (startsWith_textOf floats value).mpr reference
  simp only [List.mem_cons, List.not_mem_nil, or_false] at member
  rcases member with rfl | rfl | rfl <;> exact absurd starts (by decide)

/-- An input that is a reference governs as it stands. -/
theorem chained_reference_governs :
    validateManifest .trial (literalOf (.dict (fileSender ["to"]))) = [] ∧
      ¬ NoReferenceGoverns Unicode.ascii [fileSender ["to"]] knownRecipients
        (some [(.str "known", .str "$inputs.team"), (.str "team", .str "alice@corp.com")])
        [.str "$inputs.known", .str "carol@corp.com"] := by
  refine ⟨rfl, ?_⟩
  rintro ⟨_, governed⟩
  have admitted := (governed _ rfl "send_file" _ rfl "to"
    ⟨["$inputs.team", "carol@corp.com"]⟩ rfl).1 "$inputs.team" List.mem_cons_self
  exact absurd admitted (by decide)

end AxorWrap.Compile
