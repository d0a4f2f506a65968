/-
This file reads the declarative output of the compilation back. A quoted text is read as itself,
save that a point above `0xFFFF` is read as its surrogates. The lines of a section are laid out by
the rules of blocks, so the document is the compilation, unless a key is too long for its line.
-/

import AxorWrap.Compile.Governance

namespace AxorWrap.Compile

open Python Yaml

/-! ### Quoted texts -/

/-- An escape of four digits is read as one point. -/
theorem readQuoted_unicodeEscape {point : CodePoint} (low : point.val ≤ 0xffff) (rest : PyStr) :
    readQuoted .text (unicodeEscape point ++ rest) =
      (readQuoted .text rest).map (Prod.map (point :: ·) id) := by
  have digit : ∀ value, hexDigit (hexDigitText (value % 16)) = some (value % 16) :=
    fun value => hexDigit_hexDigitText (Nat.mod_lt value (by decide))
  have value : 16 * (16 * (16 * (16 * 0 + point.val / 4096 % 16) + point.val / 256 % 16) +
      point.val / 16 % 16) + point.val % 16 = point.val := by omega
  have same : Fin.ofNat 0x110000 point.val = point := Fin.ext (Nat.mod_eq_of_lt point.isLt)
  rw [unicodeEscape, hexText_four]
  simp only [List.cons_append, List.nil_append]
  rw [readQuoted, if_neg (by decide), if_pos (by decide), readQuoted]
  have noPoint : simpleEscape 117 = none := rfl
  have width : escapeWidth 117 = some 4 := rfl
  rw [noPoint, width]
  simp only [readQuoted, digit]
  rw [if_pos (by decide), if_pos (by decide), if_pos (by decide), if_neg (by decide), value,
    if_pos point.isLt, same]

theorem readQuoted_jsonPoint (point : CodePoint) (rest : PyStr) :
    readQuoted .text (jsonPoint point ++ rest) =
      (readQuoted .text rest).map (Prod.map (inSurrogates [point] ++ ·) id) := by
  unfold jsonPoint inSurrogates
  rw [List.flatMap_singleton]
  split
  · next letter escaped =>
    unfold shortEscape at escaped
    split at escaped <;> cases escaped
    all_goals
      next is =>
        rw [if_pos (by omega), List.cons_append, List.singleton_append, readQuoted,
          if_neg (by decide), if_pos (by decide), readQuoted]
        rw [show point = Fin.ofNat 0x110000 point.val from
          Fin.ext (Nat.mod_eq_of_lt point.isLt).symm, is]
        rfl
  · next unescaped =>
    by_cases printable : 32 ≤ point.val ∧ point.val ≤ 126
    · have plain : point.val ≠ 34 ∧ point.val ≠ 92 := by
        constructor <;> intro is <;> rw [shortEscape, is] at unescaped <;> cases unescaped
      rw [if_pos printable, if_pos (by omega), List.singleton_append, readQuoted,
        if_neg plain.1, if_neg plain.2]
      rfl
    rw [if_neg printable]
    by_cases low : point.val ≤ 0xffff
    · rw [if_pos low, if_pos low, readQuoted_unicodeEscape low]
      rfl
    · have planes := inPlane_surrogates point
      rw [if_neg low, if_neg low]
      unfold surrogates at planes ⊢
      rw [List.flatMap_cons, List.flatMap_singleton, List.append_assoc,
        readQuoted_unicodeEscape (planes _ List.mem_cons_self),
        readQuoted_unicodeEscape (planes _ (List.mem_cons_of_mem _ List.mem_cons_self)),
        Option.map_map]
      rfl

/-- A quoted text is read up to its closing quote. -/
theorem readQuoted_dumpsText (text rest : PyStr) :
    readQuoted .text (text.flatMap jsonPoint ++ 34 :: rest) = some (inSurrogates text, rest) := by
  induction text with
  | nil => rfl
  | cons point later inductionHypothesis =>
    rw [List.flatMap_cons, List.append_assoc, readQuoted_jsonPoint, inductionHypothesis]
    show some (inSurrogates [point] ++ inSurrogates later, rest) = _
    rw [← inSurrogates_append]
    rfl

/-- What is quoted by JSON's rules is a text in double quotes. -/
theorem quotes_q (value : PyStr) : Quotes (q value) (inSurrogates value) where
  opens := rfl
  reads rest := by
    unfold q dumpsText
    rw [List.cons_append, List.append_assoc, List.singleton_append, readScalar,
      if_pos (by decide), readQuoted_dumpsText]
    rfl

/-- A quoted text stays on its line. -/
theorem unbroken_q (value : PyStr) : (10 : CodePoint) ∉ q value :=
  fun broken => absurd (visible_dumpsText broken) (by decide)

/-! ### Lists of texts -/

/-- The node of a list of texts. -/
def textsNode (values : List PyStr) : Node :=
  .list (values.map fun value => .scalar (.quoted (inSurrogates value)))

/-- The pieces of the items of a list at this depth. -/
def itemPieces (depth : Nat) (values : List PyStr) : List Placed :=
  values.flatMap fun value =>
    ⟨depth, .dash⟩ :: [⟨depth + 2, .scalar (.quoted (inSurrogates value))⟩]

variable {depth least : Nat}

theorem scanLines_items (values : List PyStr) :
    scanLines (values.map (itemLine depth)) = some (itemPieces depth values) :=
  scanLines_map (fun value => scanLine_item (quotes_q value)) values

theorem laid_items {values : List PyStr} (deep : least ≤ depth) (nonempty : values ≠ []) :
    Laid least (textsNode values) (itemPieces depth values) := by
  refine .list deep (by simpa using nonempty) (laidItems_map fun value _ => ?_)
  exact .scalar (Nat.le_succ _)

theorem unbroken_blanks : (10 : CodePoint) ∉ blanks depth := by
  intro broken
  exact absurd (List.eq_of_mem_replicate broken) (by decide)

theorem unbroken_itemLine (value : PyStr) : (10 : CodePoint) ∉ itemLine depth value := by
  intro broken
  rcases List.mem_append.mp broken with blank | later
  · exact unbroken_blanks blank
  rcases List.mem_cons.mp later with dash | later
  · exact absurd dash (by decide)
  rcases List.mem_cons.mp later with blank | quoted
  · exact absurd blank (by decide)
  · exact unbroken_q value quoted

theorem unbroken_keyLine (key : PyStr) : (10 : CodePoint) ∉ keyLine depth key := by
  intro broken
  rcases List.mem_append.mp broken with blank | later
  · exact unbroken_blanks blank
  rcases List.mem_append.mp later with quoted | colon
  · exact unbroken_q key quoted
  · exact absurd (List.mem_singleton.mp colon) (by decide)

/-! ### Predicates -/

def predicateNode (predicate : EnumPredicate) : Node :=
  .map [(.plain "arg", .scalar (.quoted (inSurrogates predicate.arg))),
    (.plain "kind", .scalar (.plain "enum")), (.plain "allowed", textsNode predicate.allowed)]

/-- The pieces of a predicate, after its dash. -/
def predicatePieces (predicate : EnumPredicate) : List Placed :=
  ⟨6, .key (.plain "arg")⟩ :: ⟨11, .scalar (.quoted (inSurrogates predicate.arg))⟩ ::
    ⟨6, .key (.plain "kind")⟩ :: ⟨12, .scalar (.plain "enum")⟩ :: ⟨6, .key (.plain "allowed")⟩ ::
      itemPieces 8 predicate.allowed

theorem scanLines_predicateLines (predicate : EnumPredicate) :
    scanLines (predicateLines predicate) = some (⟨4, .dash⟩ :: predicatePieces predicate) := by
  have isWord : IsWord (PyStr.ofString "arg") := isWord_of_all (by decide) (by decide)
  have entry : scanLine (blanks 4 ++ 45 :: 32 :: (PyStr.ofString "arg" ++ 58 :: 32 ::
      q predicate.arg)) = some [⟨4, .dash⟩, ⟨6, .key (.plain "arg")⟩,
        ⟨11, .scalar (.quoted (inSurrogates predicate.arg))⟩] :=
    scanLine_itemEntry isWord (by decide) (quotes_q predicate.arg)
  have arg : scanLine (PyStr.ofString "    - arg: " ++ q predicate.arg) = _ := entry
  have kind : scanLine (PyStr.ofString "      kind: enum") =
      some [⟨6, .key (.plain "kind")⟩, ⟨12, .scalar (.plain "enum")⟩] := rfl
  have allowed : scanLine (PyStr.ofString "      allowed:") =
      some [⟨6, .key (.plain "allowed")⟩] := rfl
  unfold predicateLines
  rw [scanLines_cons, arg, scanLines_cons, kind, scanLines_cons, allowed, scanLines_items]
  rfl

theorem laid_predicate {predicate : EnumPredicate} (nonempty : predicate.allowed ≠ []) :
    Laid 5 (predicateNode predicate) (predicatePieces predicate) := by
  have arg : Laid 7 (.scalar (.quoted (inSurrogates predicate.arg)))
      [⟨11, .scalar (.quoted (inSurrogates predicate.arg))⟩] := .scalar (by decide)
  have kind : Laid 7 (.scalar (.plain "enum")) [⟨12, .scalar (.plain "enum")⟩] :=
    .scalar (by decide)
  have allowed : Laid 7 (textsNode predicate.allowed) (itemPieces 8 predicate.allowed) :=
    laid_items (by decide) nonempty
  have last : LaidEntries 6 [(.plain "allowed", textsNode predicate.allowed)]
      (⟨6, .key (.plain "allowed")⟩ :: (itemPieces 8 predicate.allowed ++ [])) :=
    .cons allowed .nil
  rw [List.append_nil] at last
  exact .map (by decide : 5 ≤ 6) (List.cons_ne_nil _ _) (.cons arg (.cons kind last))

theorem unbroken_predicateLines (predicate : EnumPredicate) :
    ∀ line ∈ predicateLines predicate, (10 : CodePoint) ∉ line := by
  intro line member
  unfold predicateLines at member
  rcases List.mem_cons.mp member with rfl | member
  · intro broken
    rcases List.mem_append.mp broken with begins | quoted
    · exact absurd begins (by decide)
    · exact unbroken_q predicate.arg quoted
  rcases List.mem_cons.mp member with rfl | member
  · decide
  rcases List.mem_cons.mp member with rfl | member
  · decide
  · obtain ⟨value, _, rfl⟩ := List.mem_map.mp member
    exact unbroken_itemLine value

/-! ### Sections -/

/-- A section that is one list of texts. -/
def listSection (key : PyStr) (values : List PyStr) : Section where
  key := key
  body := values.map (itemLine 2)
  node := textsNode values

/-- A section that is a map from names, with something below each of them. -/
def mapSection (key : PyStr) (names : List PyStr) (body : PyStr → List PyStr)
    (node : PyStr → Node) : Section where
  key := key
  body := names.flatMap fun name => keyLine 2 name :: body name
  node := .map (names.map fun name => (.quoted (inSurrogates name), node name))

/-- The key fits on its line, the colon not too far out. -/
def KeyFits (key : PyStr) : Prop := (q key).length ≤ keyLimit

instance : DecidablePred KeyFits := fun _ => Nat.decLe _ _

variable {key : PyStr} {values names : List PyStr} {body : PyStr → List PyStr}
  {node : PyStr → Node} {pieces : PyStr → List Placed}

theorem sound_listSection (isWord : IsWord key) (short : key.length ≤ keyLimit) :
    (listSection key values).Sound where
  isWord := isWord
  short := short
  unbroken line member := by
    obtain ⟨value, _, rfl⟩ := List.mem_map.mp member
    exact unbroken_itemLine value
  laid found scanned nonempty := by
    cases (scanLines_items values).symm.trans scanned
    exact laid_items (by decide) fun empty => nonempty (by rw [listSection, empty]; rfl)

theorem scanLines_mapSection (each : ∀ name, scanLines (body name) = some (pieces name)) :
    scanLines (mapSection key names body node).body =
      if ∀ name ∈ names, KeyFits name then
        some (names.flatMap fun name => ⟨2, .key (.quoted (inSurrogates name))⟩ :: pieces name)
      else none := by
  refine scanLines_flatMap (fun name => ?_) names
  rw [scanLines_cons, each]
  show (scanLine (blanks 2 ++ (q name ++ [58]))).bind _ = _
  rw [scanLine_key (quotes_q name)]
  by_cases short : (q name).length ≤ keyLimit
  · rw [if_pos short]
    exact (if_pos short).symm
  · rw [if_neg short]
    exact (if_neg short).symm

theorem sound_mapSection (isWord : IsWord key) (short : key.length ≤ keyLimit)
    (unbroken : ∀ name, ∀ line ∈ body name, (10 : CodePoint) ∉ line)
    (each : ∀ name, scanLines (body name) = some (pieces name))
    (laid : ∀ name ∈ names, Laid 3 (node name) (pieces name)) :
    (mapSection key names body node).Sound where
  isWord := isWord
  short := short
  unbroken line member := by
    obtain ⟨name, _, member⟩ := List.mem_flatMap.mp member
    rcases List.mem_cons.mp member with rfl | below
    · exact unbroken_keyLine name
    · exact unbroken name line below
  laid found scanned nonempty := by
    rw [scanLines_mapSection each] at scanned
    split at scanned
    · cases scanned
      have some : names ≠ [] := fun empty => nonempty (by rw [mapSection, empty]; rfl)
      exact .map (by decide : 1 ≤ 2) (by simpa using some) (laidEntries_map laid)
    · cases scanned

/-- What is below the name of a sink. -/
def policyNode (policies : Table (Table EnumSpec)) (sink : PyStr) : Node :=
  .list (((policies.lookup sink).elim [] predicatesOf).map predicateNode)

def policyPieces (policies : Table (Table EnumSpec)) (sink : PyStr) : List Placed :=
  ((policies.lookup sink).elim [] predicatesOf).flatMap fun predicate =>
    ⟨4, .dash⟩ :: predicatePieces predicate

def drivingSection (driving : Table (List PyStr)) : Section :=
  mapSection "driving_args" (sorted driving.keys)
    (fun tool => ((driving.lookup tool).getD []).map (itemLine 4))
    fun tool => textsNode ((driving.lookup tool).getD [])

def policySection (policies : Table (Table EnumSpec)) : Section :=
  mapSection "value_policies" (sorted policies.keys)
    (fun sink => ((policies.lookup sink).elim [] predicatesOf).flatMap predicateLines)
    (policyNode policies)

/-- The sections of a compilation, in order. -/
def sectionsOf (canon : Canon) : List Section :=
  [listSection "untrusted_sources" canon.untrustedSources,
    listSection "sensitive_sources" canon.sensitiveSources,
    listSection "egress_sinks" canon.egressSinks, drivingSection canon.drivingArgs,
    policySection canon.valuePolicies]

theorem bodyLines_eq (canon : Canon) :
    bodyLines canon = (sectionsOf canon).flatMap Section.lines := by
  unfold bodyLines sectionsOf
  simp only [List.flatMap_cons, List.flatMap_nil, List.append_nil, List.append_assoc]
  rfl

/-- Every tool with driving arguments has one, and every policy has a predicate that allows a
value. -/
structure Canon.Formed (canon : Canon) : Prop where
  driving : ∀ tool, ∀ args ∈ canon.drivingArgs.lookup tool, args ≠ []
  policies : ∀ sink, ∀ byArg ∈ canon.valuePolicies.lookup sink, byArg.entries ≠ []
  enums : ∀ sink, ∀ byArg ∈ canon.valuePolicies.lookup sink,
    ∀ predicate ∈ predicatesOf byArg, predicate.allowed ≠ []

/-- A key of a table has a value. -/
theorem exists_lookup {α : Type} {table : Table α} {name : PyStr}
    (member : name ∈ sorted table.keys) : ∃ value, table.lookup name = some value :=
  Option.isSome_iff_exists.mp
    (AList.lookup_isSome.mpr ((List.perm_insertionSort _ _).mem_iff.mp member))

theorem scanLines_policies (policies : Table (Table EnumSpec)) (sink : PyStr) :
    scanLines (((policies.lookup sink).elim [] predicatesOf).flatMap predicateLines) =
      some (policyPieces policies sink) := by
  have each : ∀ predicate, scanLines (predicateLines predicate) =
      if True then some (⟨4, .dash⟩ :: predicatePieces predicate) else none :=
    fun predicate => (scanLines_predicateLines predicate).trans (if_pos trivial).symm
  exact (scanLines_flatMap each _).trans (if_pos fun _ _ => trivial)

theorem isSome_scanLines_mapSection (each : ∀ name, scanLines (body name) = some (pieces name)) :
    (scanLines (mapSection key names body node).body).isSome ↔ ∀ name ∈ names, KeyFits name := by
  rw [scanLines_mapSection each]
  split
  · next fit => exact ⟨fun _ => fit, fun _ => rfl⟩
  · next long => exact ⟨fun wrong => absurd wrong Bool.false_ne_true, fun fit => absurd fit long⟩

/-- The keys of the two maps fit. -/
def Canon.KeysFit (canon : Canon) : Prop :=
  (∀ tool ∈ sorted canon.drivingArgs.keys, KeyFits tool) ∧
    ∀ sink ∈ sorted canon.valuePolicies.keys, KeyFits sink

/-- The sections can be read when the keys fit. -/
theorem scanned_sectionsOf (canon : Canon) :
    (∀ block ∈ sectionsOf canon, (scanLines block.body).isSome) ↔ canon.KeysFit := by
  have list : ∀ key values, (scanLines (listSection key values).body).isSome :=
    fun key values => Option.isSome_of_eq_some (scanLines_items values)
  have driving : (scanLines (drivingSection canon.drivingArgs).body).isSome ↔ _ :=
    isSome_scanLines_mapSection fun tool => scanLines_items _
  have policies : (scanLines (policySection canon.valuePolicies).body).isSome ↔ _ :=
    isSome_scanLines_mapSection (scanLines_policies canon.valuePolicies)
  unfold sectionsOf Canon.KeysFit
  simp only [List.forall_mem_cons, list, driving, policies, true_and]
  exact and_congr_right fun _ => and_iff_left (List.forall_mem_nil _)

/-- Each section, when it can be read, is read as its node. -/
theorem sound_sectionsOf {canon : Canon} (formed : canon.Formed) :
    ∀ block ∈ sectionsOf canon, block.Sound := by
  have driving : ∀ tool ∈ sorted canon.drivingArgs.keys,
      Laid 3 (textsNode ((canon.drivingArgs.lookup tool).getD []))
        (itemPieces 4 ((canon.drivingArgs.lookup tool).getD [])) := by
    intro tool member
    obtain ⟨args, found⟩ := exists_lookup member
    rw [found]
    exact laid_items (by decide) (formed.driving tool args found)
  have policies : ∀ sink ∈ sorted canon.valuePolicies.keys,
      Laid 3 (policyNode canon.valuePolicies sink) (policyPieces canon.valuePolicies sink) := by
    intro sink member
    obtain ⟨byArg, found⟩ := exists_lookup member
    unfold policyNode policyPieces
    rw [found]
    refine .list (by decide : 3 ≤ 4) ?_ (laidItems_map fun predicate isPredicate =>
      laid_predicate (formed.enums sink byArg found predicate isPredicate))
    simpa [predicatesOf] using formed.policies sink byArg found
  intro block member
  simp only [sectionsOf, List.mem_cons, List.not_mem_nil, or_false] at member
  rcases member with rfl | rfl | rfl | rfl | rfl
  · exact sound_listSection (isWord_of_all (by decide) (by decide)) (by decide)
  · exact sound_listSection (isWord_of_all (by decide) (by decide)) (by decide)
  · exact sound_listSection (isWord_of_all (by decide) (by decide)) (by decide)
  · refine sound_mapSection (isWord_of_all (by decide) (by decide)) (by decide)
      (fun tool line member => ?_) (fun tool => scanLines_items _) driving
    obtain ⟨arg, _, rfl⟩ := List.mem_map.mp member
    exact unbroken_itemLine arg
  · refine sound_mapSection (isWord_of_all (by decide) (by decide)) (by decide)
      (fun sink line member => ?_) (scanLines_policies canon.valuePolicies) policies
    obtain ⟨predicate, _, member⟩ := List.mem_flatMap.mp member
    exact unbroken_predicateLines predicate line member

/-! ### The comments -/

theorem unbroken_natText (number : Nat) : (10 : CodePoint) ∉ natText number :=
  fun broken => absurd (digit_of_mem_natText broken).1 (by decide)

theorem unbroken_headerLines (count : Nat) :
    ∀ line ∈ headerLines count, (10 : CodePoint) ∉ line := by
  intro line member
  simp only [headerLines, List.mem_cons, List.not_mem_nil, or_false] at member
  rcases member with rfl | rfl
  · intro broken
    rcases List.mem_append.mp broken with broken | ends
    · rcases List.mem_append.mp broken with begins | digit
      · exact absurd begins (by decide)
      · exact unbroken_natText count digit
    · exact absurd ends (by decide)
  · intro broken
    rcases List.mem_append.mp broken with begins | ends
    · exact absurd begins (by decide)
    · exact absurd ends (by decide)

theorem scanLines_headerLines (count : Nat) : scanLines (headerLines count) = some [] := rfl

/-! ### What is read back -/

/-- The predicate with its texts taken apart. -/
def EnumPredicate.asRead (predicate : EnumPredicate) : EnumPredicate :=
  ⟨inSurrogates predicate.arg, predicate.allowed.map inSurrogates⟩

/-- The compilation with its texts taken apart, and without overrides. -/
def Canon.asRead (canon : Canon) : Config where
  untrustedSources := canon.untrustedSources.map inSurrogates
  sensitiveSources := canon.sensitiveSources.map inSurrogates
  egressSinks := canon.egressSinks.map inSurrogates
  drivingArgs := (sorted canon.drivingArgs.keys).map fun tool =>
    (inSurrogates tool, ((canon.drivingArgs.lookup tool).getD []).map inSurrogates)
  valuePolicies := (sorted canon.valuePolicies.keys).map fun sink =>
    (inSurrogates sink,
      ((canon.valuePolicies.lookup sink).elim [] predicatesOf).map EnumPredicate.asRead)

/-- What is read as its value, item by item, is read as the values. -/
theorem mapM_eq_map {α β γ : Type} {read : γ → Option β} {written : α → γ} {value : α → β}
    (each : ∀ item, read (written item) = some (value item)) (items : List α) :
    (items.map written).mapM read = some (items.map value) := by
  induction items with
  | nil => rfl
  | cons item rest inductionHypothesis =>
    rw [List.map_cons, List.mapM_cons, each, inductionHypothesis]
    rfl

theorem readList_texts (values : List PyStr) :
    readList readText (textsNode values) = some (values.map inSurrogates) := by
  have each : ∀ value, readText (.scalar (.quoted (inSurrogates value))) =
      some (inSurrogates value) := fun _ => rfl
  exact mapM_eq_map each values

/-- The list of a section, which may be left out. -/
theorem readList_section (key : PyStr) (values : List PyStr) :
    readList readText (if (listSection key values).body.isEmpty then .null
      else (listSection key values).node) = some (values.map inSurrogates) := by
  cases values with
  | nil => rfl
  | cons value rest => exact readList_texts (value :: rest)

/-- The map of a section, which may be left out. -/
theorem readTable_section {β : Type} {read : Node → Option β} {value : PyStr → β} (key : PyStr)
    (names : List PyStr) (body : PyStr → List PyStr) {node : PyStr → Node}
    (each : ∀ name, read (node name) = some (value name)) :
    readTable read (if (mapSection key names body node).body.isEmpty then .null
      else (mapSection key names body node).node) =
        some (names.map fun name => (inSurrogates name, value name)) := by
  cases names with
  | nil => rfl
  | cons name rest =>
    refine mapM_eq_map (fun name => ?_) (name :: rest)
    show (read (node name)).bind _ = _
    rw [each]
    rfl

theorem readPredicate_node (predicate : EnumPredicate) :
    readPredicate (predicateNode predicate) = some predicate.asRead := by
  have allowed := readList_texts predicate.allowed
  show (readList readText (textsNode predicate.allowed)).bind _ = _
  rw [allowed]
  rfl

/-- A document that has no sections configures nothing, as an empty map does. -/
theorem readConfig_documentOf (sections : List Section) :
    readConfig (documentOf sections) = readConfig (.map (entriesOf sections)) := by
  unfold documentOf
  by_cases empty : entriesOf sections = []
  · rw [empty]
    rfl
  · rw [if_neg (by simpa using empty)]

/-- The document of a compilation is read as the compilation. -/
theorem readConfig_sectionsOf (canon : Canon) :
    readConfig (documentOf (sectionsOf canon)) = some canon.asRead := by
  have distinct : ((sectionsOf canon).map Section.key).Nodup := by
    show (List.map PyStr.ofString ["untrusted_sources", "sensitive_sources", "egress_sinks",
      "driving_args", "value_policies"]).Nodup
    decide
  have absent : PyStr.ofString "consequence_overrides" ∉ (sectionsOf canon).map Section.key := by
    show _ ∉ List.map PyStr.ofString ["untrusted_sources", "sensitive_sources", "egress_sinks",
      "driving_args", "value_policies"]
    decide
  have lists : ∀ key values, listSection key values ∈ sectionsOf canon →
      readList readText (valueAt key (entriesOf (sectionsOf canon))) =
        some (values.map inSurrogates) := fun key values member =>
    (congrArg (readList readText) (valueAt_entriesOf member distinct)).trans
      (readList_section key values)
  have untrusted := lists "untrusted_sources" canon.untrustedSources (by simp [sectionsOf])
  have sensitive := lists "sensitive_sources" canon.sensitiveSources (by simp [sectionsOf])
  have egress := lists "egress_sinks" canon.egressSinks (by simp [sectionsOf])
  have driving : readTable (readList readText)
      (valueAt "driving_args" (entriesOf (sectionsOf canon))) = some canon.asRead.drivingArgs :=
    (congrArg (readTable (readList readText)) (valueAt_entriesOf
      (show drivingSection canon.drivingArgs ∈ sectionsOf canon by simp [sectionsOf])
      distinct)).trans (readTable_section _ _ _ fun _ => readList_texts _)
  have policies : readTable (readList readPredicate)
      (valueAt "value_policies" (entriesOf (sectionsOf canon))) = some canon.asRead.valuePolicies :=
    (congrArg (readTable (readList readPredicate)) (valueAt_entriesOf
      (show policySection canon.valuePolicies ∈ sectionsOf canon by simp [sectionsOf])
      distinct)).trans (readTable_section _ _ _ fun _ => mapM_eq_map readPredicate_node _)
  have overrides := valueAt_entriesOf_of_notMem absent
  rw [readConfig_documentOf]
  unfold readConfig
  simp only [untrusted, sensitive, egress, driving, policies, overrides]
  rfl

/-- The text of a compilation is read back as the compilation, its texts taken apart. It is refused
when a key does not fit. -/
theorem readBack_yamlOf {count : Nat} {canon : Canon} (formed : canon.Formed) :
    (canon.KeysFit → readBack (yamlOf count canon) = some canon.asRead) ∧
      (¬ canon.KeysFit → readBack (yamlOf count canon) = none) := by
  have header : headerLines count ≠ [] := List.cons_ne_nil _ _
  have document := read_document header (unbroken_headerLines count)
    (scanLines_headerLines count) (sound_sectionsOf formed)
  rw [← bodyLines_eq] at document
  have scanned := scanned_sectionsOf canon
  constructor
  · intro fit
    unfold readBack yamlOf
    rw [document, if_pos (scanned.mpr fit)]
    exact readConfig_sectionsOf canon
  · intro long
    unfold readBack yamlOf
    rw [document, if_neg fun all => long (scanned.mp all)]
    rfl

end AxorWrap.Compile
