/-
This file compares what a call registers and stores with what its caller finally
obtains from it. A call that returns accounts for what it returned, by
registering it, by storing it in its record, or both, and it does so before it
is left. The caller obtains what was returned, or, when that can be awaited,
whatever awaiting it gives.

So what a caller obtains is accounted for exactly when the tool callable returned
it: always when the callable returned nothing that can be awaited, and otherwise
only when awaiting the object gives the object itself.
-/

import AxorWrap.Runtime.Records

namespace AxorWrap.Runtime

open Python Methods Scripts Journals Machines

variable {S : Setting}

/-! ### What a caller obtains -/

/-- `await` takes the object: it is a coroutine, or has another `__await__`. -/
def Object.IsAwaitable : Object S → Prop
  | .plain _ => False
  | .coroutine _ | .awaitable _ => True

/-- After the events `before`, the caller obtains `value` from the call `frame`: the call returned
it, or it returned a coroutine object that was awaited to its end since, or another object of which
an iterator that was made since came to its end. -/
inductive Obtained (events before : List (Nat × Happening S)) (frame : Nat) (value : Object S) :
    Prop
  | returned (plain : ¬ value.IsAwaitable) (after : List (Nat × Happening S))
      (split : events = before ++ (frame, .left (.ok value)) :: after)
  | awaited (handle step : Nat) (after : List (Nat × Happening S))
      (returned : (frame, .left (.ok (.coroutine handle))) ∈ before)
      (awaiting : (step, .awaiting (.iterator handle)) ∈ before)
      (split : events = before ++ (step, .awoke (.ok (some value))) :: after)
  | iterated (program : S.Program) (handle opening step : Nat) (after : List (Nat × Happening S))
      (returned : (frame, .left (.ok (.awaitable program))) ∈ before)
      (opens : (opening, .awaiting (.object program)) ∈ before)
      (opened : (opening, .awoke (.ok (some (.coroutine handle)))) ∈ before)
      (awaiting : (step, .awaiting (.iterator handle)) ∈ before)
      (split : events = before ++ (step, .awoke (.ok (some value))) :: after)

/-- The value was passed to `register_output` for this call. -/
def Registered (before : List (Nat × Happening S)) (frame : Nat) (value : Object S) : Prop :=
  ∃ decision, (frame, .registered decision value) ∈ before

/-- The value is the result in the record of this call. -/
def Stored (state : State S) (before : List (Nat × Happening S)) (frame : Nat) (value : Object S) :
    Prop :=
  ∃ index name args, (frame, .recorded index name args) ∈ before ∧ state.calls[index]? =
    some { tool := name, args := args, executed := true, result := some value }

/-! ### What a call accounts for -/

/-- A call with these own events accounts for what it returned and for nothing else. -/
structure Accounts (registers stores : Prop) (returned : Object S)
    (before after : List (Happening S)) : Prop where
  produced : .produced returned ∈ before
  registered : registers → ∃ decision, .registered decision returned ∈ before
  onlyRegistered : ∀ decision output,
    .registered decision output ∈ before ++ .left (.ok returned) :: after → output = returned
  stored : stores → ∃ index, .kept index returned ∈ before
  onePlace : ∀ first name args second otherName otherArgs,
    .recorded first name args ∈ before ++ .left (.ok returned) :: after →
    .recorded second otherName otherArgs ∈ before ++ .left (.ok returned) :: after →
    first = second

/-- What the calls of a session guarantee: each accounts for what it returned, by registering it,
by storing it, or both. -/
structure Accounting (registers stores : Prop) (state : State S) : Prop where
  faithful : Faithful state
  disciplined : ∀ frame, Disciplined (own state.log.events frame)
  accounts : ∀ frame before returned after,
    own state.log.events frame = before ++ .left (.ok returned) :: after →
    Accounts registers stores returned before after

section Accounting

variable {registers stores : Prop} {state : State S}

/-- What a call returned is registered and stored by the time it is left. -/
theorem Accounting.of_left (accounting : Accounting registers stores state) {frame : Nat}
    {before after : List (Nat × Happening S)} {returned : Object S}
    (split : state.log.events = before ++ (frame, .left (.ok returned)) :: after) :
    (frame, .produced returned) ∈ before ∧ (registers → Registered before frame returned) ∧
      (stores → Stored state before frame returned) := by
  have parts : own state.log.events frame =
      own before frame ++ .left (.ok returned) :: own after frame := by
    rw [split, own_split]
  have account := accounting.accounts frame _ returned _ parts
  refine ⟨mem_own.mp account.produced, fun registering => ?_, fun storing => ?_⟩
  · obtain ⟨decision, member⟩ := account.registered registering
    exact ⟨decision, mem_own.mp member⟩
  · obtain ⟨index, member⟩ := account.stored storing
    obtain ⟨early, late, rfl⟩ := List.append_of_mem (mem_own.mp member)
    rw [List.append_assoc, List.cons_append] at split
    obtain ⟨name, args, recorded, found⟩ :=
      accounting.faithful.kept_record accounting.disciplined split
    exact ⟨index, name, args, List.mem_append_left _ recorded, found⟩

/-- Nothing else is registered or stored for a call that was left. -/
theorem Accounting.eq_of_left (accounting : Accounting registers stores state) {frame : Nat}
    {before after : List (Nat × Happening S)} {returned : Object S} (value : Object S)
    (split : state.log.events = before ++ (frame, .left (.ok returned)) :: after)
    {seen : List (Nat × Happening S)} (seenEvents : seen ⊆ state.log.events) :
    (Registered seen frame value → value = returned) ∧
      (stores → Stored state seen frame value → value = returned) := by
  have parts : own state.log.events frame =
      own before frame ++ .left (.ok returned) :: own after frame := by
    rw [split, own_split]
  have account := accounting.accounts frame _ returned _ parts
  constructor
  · rintro ⟨decision, member⟩
    refine account.onlyRegistered decision value ?_
    rw [← parts]
    exact mem_own.mpr (seenEvents member)
  · rintro storing ⟨index, name, args, member, found⟩
    obtain ⟨-, -, stored⟩ := accounting.of_left split
    obtain ⟨place, otherName, otherArgs, made, holds⟩ := stored storing
    have isMade : (frame, .recorded place otherName otherArgs) ∈ state.log.events := by
      rw [split]
      exact List.mem_append_left _ made
    have same : index = place :=
      account.onePlace index name args place otherName otherArgs
        (parts ▸ mem_own.mpr (seenEvents member)) (parts ▸ mem_own.mpr isMade)
    subst same
    rw [found] at holds
    cases holds
    rfl

/-- What a call that was left before gives to whoever awaits what it returned. -/
theorem left_of_awaited {events before after : List (Nat × Happening S)} {frame step : Nat}
    {value : Object S} (returned : Object S) (awaitable : returned.IsAwaitable)
    (member : (frame, .left (.ok returned)) ∈ before)
    (split : events = before ++ (step, .awoke (.ok (some value))) :: after) :
    ∃ returned early late, events = early ++ (frame, .left (.ok returned)) :: late ∧
      early ⊆ before ∧ before ⊆ events ∧ (returned.IsAwaitable ∨ value = returned) := by
  obtain ⟨early, late, rfl⟩ := List.append_of_mem member
  refine ⟨returned, early, late ++ (step, .awoke (.ok (some value))) :: after, ?_,
    List.subset_append_left _ _, ?_, .inl awaitable⟩
  · rw [split, List.append_assoc]
    rfl
  · rw [split]
    exact List.subset_append_left _ _

/-- What a caller obtains, it obtains from a call that was left before. -/
theorem Obtained.left {events before : List (Nat × Happening S)} {frame : Nat} {value : Object S}
    (obtained : Obtained events before frame value) :
    ∃ returned early late, events = early ++ (frame, .left (.ok returned)) :: late ∧
      early ⊆ before ∧ before ⊆ events ∧ (returned.IsAwaitable ∨ value = returned) := by
  cases obtained with
  | returned plain after split =>
    refine ⟨value, before, after, split, List.Subset.refl before, ?_, .inr rfl⟩
    rw [split]
    exact List.subset_append_left _ _
  | awaited handle step after returned awaiting split =>
    exact left_of_awaited (.coroutine handle) trivial returned split
  | iterated program handle opening step after returned opens opened awaiting split =>
    exact left_of_awaited (.awaitable program) trivial returned split

/-- What a caller obtains is accounted for exactly when the tool callable returned it, which it
does when it returns nothing that can be awaited. -/
theorem Accounting.obtained_iff (accounting : Accounting registers stores state)
    (either : registers ∨ stores) {before : List (Nat × Happening S)} {frame : Nat}
    {value : Object S} (obtained : Obtained state.log.events before frame value) :
    ∃ output, (frame, .produced output) ∈ before ∧
      ((registers → Registered before frame value) ∧ (stores → Stored state before frame value) ↔
        ¬ output.IsAwaitable ∨ value = output) := by
  obtain ⟨returned, early, late, split, isEarly, isSeen, origin⟩ := obtained.left
  obtain ⟨produced, registered, stored⟩ := accounting.of_left split
  refine ⟨returned, isEarly produced, ?_, ?_⟩
  · rintro ⟨isRegistered, isStored⟩
    obtain ⟨sameRegistered, sameStored⟩ := accounting.eq_of_left value split isSeen
    refine .inr ?_
    rcases either with registering | storing
    · exact sameRegistered (isRegistered registering)
    · exact sameStored storing (isStored storing)
  · intro condition
    have same : value = returned := by
      rcases origin with awaitable | same
      · exact condition.resolve_left (not_not.mpr awaitable)
      · exact same
    subst same
    refine ⟨fun registering => ?_, fun storing => ?_⟩
    · obtain ⟨decision, member⟩ := registered registering
      exact ⟨decision, isEarly member⟩
    · obtain ⟨index, name, args, member, found⟩ := stored storing
      exact ⟨index, name, args, isEarly member, found⟩

end Accounting

/-! ### Calls that returned -/

/-- The event is of a call that came to return something. -/
def Happening.Succeeds : Happening S → Prop
  | .kept _ _ | .left (.ok _) => True
  | _ => False

/-- The own events of a call that returned. Before it kept anything the tool had returned the
output and, as far as the session does so, the output was registered and a record made to hold it.
The call then keeps that output in that record and returns it. -/
inductive Returned (registers stores : Prop) : List (Happening S) → Prop
  | intro (early : List (Happening S)) (recorded : Option Nat) (output : Object S)
      (pending : ∀ kind ∈ early, ¬ kind.Succeeds) (produced : .produced output ∈ early)
      (registered : registers → ∃ decision, .registered decision output ∈ early)
      (onlyRegistered : ∀ decision other, .registered decision other ∈ early → other = output)
      (stored : stores → recorded.isSome)
      (places : ∀ index, (∃ name args, .recorded index name args ∈ early) ↔ recorded = some index) :
      Returned registers stores (early ++ keeping recorded output ++ [.left (.ok output)])

section Returned

variable {registers stores : Prop} {mine : List (Happening S)}

theorem Returned.disciplined (returned : Returned registers stores mine) : Disciplined mine := by
  obtain ⟨early, recorded, output, pending, _, _, _, _, places⟩ := returned
  have notEarly : ∀ index other, .kept index other ∉ early :=
    fun index other member => pending _ member trivial
  constructor
  · intro before index other after split
    cases recorded with
    | none =>
      have member : .kept index other ∈ early ++ keeping none output ++ [.left (.ok output)] := by
        rw [split]
        exact List.mem_append_right _ List.mem_cons_self
      simp [keeping, notEarly] at member
    | some place =>
      rw [List.append_assoc] at split
      obtain ⟨rfl, same, _⟩ :=
        (List.append_cons_inj_of_notMem (notEarly index other) (by simp)).mp split
      cases same
      exact (places index).mpr rfl
  · intro index one other first second
    cases recorded <;> simp [keeping, notEarly] at first second
    rw [first.2, second.2]

theorem Returned.accounts (returned : Returned registers stores mine)
    {before after : List (Happening S)} {value : Object S}
    (split : mine = before ++ .left (.ok value) :: after) :
    Accounts registers stores value before after := by
  obtain ⟨early, recorded, output, pending, produced, registered, onlyRegistered, stored, places⟩ :=
    returned
  have notEarly : .left (.ok value) ∉ early ++ keeping recorded output := by
    rw [List.mem_append, not_or]
    exact ⟨fun member => pending _ member trivial, by cases recorded <;> simp [keeping]⟩
  obtain ⟨rfl, same, rfl⟩ :=
    (List.append_cons_inj_of_notMem notEarly (by simp)).mp split
  cases same
  constructor
  case produced => exact List.mem_append_left _ produced
  case registered =>
    intro registering
    obtain ⟨decision, member⟩ := registered registering
    exact ⟨decision, List.mem_append_left _ member⟩
  case onlyRegistered =>
    intro decision other member
    refine onlyRegistered decision other ?_
    cases recorded <;> simpa [keeping] using member
  case stored =>
    intro storing
    obtain ⟨index, rfl⟩ := Option.isSome_iff_exists.mp (stored storing)
    exact ⟨index, List.mem_append_right _ List.mem_cons_self⟩
  case onePlace =>
    intro first name args second otherName otherArgs one two
    have firstPlace :=
      (places first).mp ⟨name, args, by cases recorded <;> simpa [keeping] using one⟩
    have secondPlace :=
      (places second).mp ⟨otherName, otherArgs, by cases recorded <;> simpa [keeping] using two⟩
    exact Option.some_inj.mp (firstPlace.symm.trans secondPlace)

end Returned

/-- A session whose requests keep the records faithful, and whose calls either return so or have
no success to show, accounts for what its calls return. -/
theorem accounting_ran {registers stores : Prop} {finished : List (Happening S) → Prop}
    {surface : Surface S} {limit : Nat}
    (keeps : ∀ request state, KeepsRecords state (final (surface.serve limit request) state))
    (settles : ∀ request state,
      Settled finished state (final (surface.serve limit request) state))
    (closes : ∀ mine, finished mine →
      Returned registers stores mine ∨ ∀ kind ∈ mine, ¬ kind.Succeeds)
    (world : S.World) (admission : Option S.Predicate) (operations : List (Operation S)) :
    Accounting registers stores (surface.ran limit world admission operations) := by
  have closed : ∀ frame,
      let mine := own (surface.ran limit world admission operations).log.events frame
      Returned registers stores mine ∨ ∀ kind ∈ mine, ¬ kind.Succeeds := by
    intro frame
    rcases finished_run settles world admission operations frame with none | complete
    · exact .inr (by simp [none])
    · exact closes _ complete
  refine ⟨?_, fun frame => ?_, fun frame before returned after split => ?_⟩
  · refine related_run keepsRecords_quietly keeps _ operations ⟨rfl, ?_⟩
    intro before frame index name args after split
    cases before <;> cases split
  · rcases closed frame with returned | failed
    · exact returned.disciplined
    · refine ⟨fun before index output after split => ?_, fun index output other first _ => ?_⟩
      · exact absurd trivial (failed (.kept index output) (by simp [split]))
      · exact absurd trivial (failed _ first)
  · rcases closed frame with successful | failed
    · exact successful.accounts split
    · exact absurd trivial (failed (.left (.ok returned)) (by simp [split]))

end AxorWrap.Runtime
