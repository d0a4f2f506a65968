/-
This file is about two traces of one session, the second built when the session
has gone on. The builder goes through the pairs from the first, and its ledger
only gains values, so it repeats what it did for the first trace before it
comes to the pairs that are new: all events and values there were are there
again, in their places and under their ids.

The same goes for failing. What raised once raises again, so a session that has
a trace has one of each of its beginnings.
-/

import AxorWrap.Trace.Lineage

namespace AxorWrap.Trace

open Python Methods

variable {V : Type} {kernel : Kernel} {objects : Objects V}

/-- The document is the earlier one, with more events and values after those it has. -/
structure Document.GoesOn (document earlier : Document V) : Prop where
  events : earlier.events <+: document.events
  values : earlier.values <+: document.values
  rest : document = { earlier with events := document.events, values := document.values }

/-! ### The pairs of the longer session -/

theorem LinesUp.map {C D : Type} {observes : Observes} {calls : List C} {events : List TraceEvent}
    {pairs : List (Option C × TraceEvent)} (linesUp : LinesUp observes calls events pairs)
    (f : C → D) :
    LinesUp observes (calls.map f) events (pairs.map fun pair => (pair.1.map f, pair.2)) := by
  induction linesUp with
  | nil => exact .nil
  | taken takes _ inductionHypothesis => exact .taken takes inductionHypothesis
  | alone takes _ inductionHypothesis => exact .alone takes inductionHypothesis

theorem returns_buildPairs_of_cons {manifests : List Entries} {enforced : Bool} {index seq : Nat}
    {pair : Option (RecordedCall V) × TraceEvent}
    {pairs : List (Option (RecordedCall V) × TraceEvent)} {ledger between left : Ledger V}
    {bodies : List EventBody} {later : List Event}
    (first : Returns (buildPair kernel objects manifests enforced index pair.1 pair.2) ledger bodies
      between)
    (tail : Returns (buildPairs kernel objects manifests enforced (index + 1) (seq + bodies.length)
      pairs) between later left) :
    Returns (buildPairs kernel objects manifests enforced index seq (pair :: pairs)) ledger
      (numbered seq bodies ++ later) left := by
  unfold buildPairs
  exact returns_bind.mpr ⟨bodies, between, first,
    returns_bind.mpr ⟨later, left, tail, returns_pure.mpr ⟨rfl, rfl⟩⟩⟩

/-- The loop builds the first pairs as if they were all, and the others after them. -/
theorem returns_buildPairs_append {manifests : List Entries} {enforced : Bool} {index seq : Nat}
    {first second : List (Option (RecordedCall V) × TraceEvent)} {ledger left : Ledger V}
    {events : List Event}
    (built : Returns (buildPairs kernel objects manifests enforced index seq (first ++ second))
      ledger events left) :
    ∃ earlier between later,
      Returns (buildPairs kernel objects manifests enforced index seq first) ledger earlier
        between ∧
      Returns (buildPairs kernel objects manifests enforced (index + first.length)
        (seq + earlier.length) second) between later left ∧
      events = earlier ++ later := by
  induction first generalizing index seq ledger events with
  | nil => exact ⟨[], ledger, events, returns_pure.mpr ⟨rfl, rfl⟩, built, rfl⟩
  | cons pair pairs inductionHypothesis =>
    obtain ⟨bodies, middle, tail, head, rest, rfl⟩ := returns_buildPairs_cons built
    obtain ⟨earlier, between, later, inFirst, inSecond, rfl⟩ := inductionHypothesis rest
    refine ⟨numbered seq bodies ++ earlier, between, later,
      returns_buildPairs_of_cons head inFirst, ?_, ?_⟩
    · have length : (numbered seq bodies).length = bodies.length := by simp [numbered]
      rw [List.length_append, length, List.length_cons, ← Nat.add_assoc,
        Nat.add_right_comm index, ← Nat.add_assoc]
      exact inSecond
    · rw [List.append_assoc]

/-! ### The document of the longer session -/

/-- The document that is made of events and values. -/
def Material.document (kernel : Kernel) (material : Material V) (events : List Event)
    (values : List (ValueEntry V)) (digest : Option PyStr) : Document V where
  traceId := (given material.traceId).getD (defaultTraceId kernel material.trial)
  trial := material.trial
  producer := { kernelVersion := given material.kernelVersion, runtime := given material.runtime }
  events := events
  values := values
  inputsDigest := given digest

theorem assemble_eq_ok_iff {material : Material V}
    {pairs : List (Option (RecordedCall V) × TraceEvent)} {document : Document V} :
    outcome (assemble kernel objects material pairs) {} = .ok document ↔
      ∃ events left digest,
        Returns (buildPairs kernel objects material.manifests
          (material.enforcement ≠ PyStr.ofString "off") 0 0 pairs) {} events left ∧
        digestOf kernel material = .ok digest ∧
        material.document kernel events left.values digest = document := by
  constructor
  · intro assembled
    obtain ⟨events, left, built, rest⟩ := returns_bind.mp ⟨assembled, rfl⟩
    obtain ⟨digest, _, weighed, last⟩ := returns_bind.mp rest
    obtain ⟨found, rfl⟩ := returns_lift.mp weighed
    obtain ⟨ledger, _, read, made⟩ := returns_bind.mp last
    obtain ⟨rfl, rfl⟩ := returns_get.mp read
    exact ⟨events, left, digest, built, found, (returns_pure.mp made).1⟩
  · rintro ⟨events, left, digest, built, found, rfl⟩
    have assembled : Returns (assemble kernel objects material pairs) {}
        (material.document kernel events left.values digest) left := by
      refine returns_bind.mpr ⟨events, left, built, returns_bind.mpr ⟨digest, left, ?_, ?_⟩⟩
      · exact returns_lift.mpr ⟨found, rfl⟩
      · exact returns_bind.mpr ⟨left, left, returns_get.mpr ⟨rfl, rfl⟩,
          returns_pure.mpr ⟨rfl, rfl⟩⟩
    exact assembled.1

/-- A trace of more pairs goes on from that of the first of them. -/
theorem assemble_append {material : Material V}
    {first second : List (Option (RecordedCall V) × TraceEvent)} {document : Document V}
    (assembled : outcome (assemble kernel objects material (first ++ second)) {} = .ok document) :
    ∃ earlier, outcome (assemble kernel objects material first) {} = .ok earlier ∧
      document.GoesOn earlier := by
  obtain ⟨events, left, digest, built, found, rfl⟩ := assemble_eq_ok_iff.mp assembled
  obtain ⟨earlier, between, later, inFirst, inSecond, rfl⟩ := returns_buildPairs_append built
  refine ⟨_, assemble_eq_ok_iff.mpr ⟨earlier, between, digest, inFirst, found, rfl⟩, ?_, ?_, rfl⟩
  · exact List.prefix_append earlier later
  · obtain ⟨_, _, sound, _⟩ := returns_buildPairs_values Ledger.sound_start inFirst
    obtain ⟨_, _, _, ⟨minted, values, _⟩, _⟩ := returns_buildPairs_values sound inSecond
    exact ⟨minted, values.symm⟩

/-- Once the pairs are there, nothing is refused for a misalignment. -/
theorem buildTrace_ne_traceBuild {material : Material V}
    {pairs : List (Option (RecordedCall V) × TraceEvent)} (paired : material.pairs = .ok pairs)
    (misalignment : Misalignment) :
    buildTrace kernel objects material ≠ .error (.traceBuild misalignment) := by
  rw [buildTrace_of_pairs paired]
  cases outcome (assemble kernel objects material pairs) {} <;> simp [Except.mapError]

/-- So does a trace of the same material with more of its pairs. -/
theorem buildTrace_append {material : Material V} {calls : List (RecordedCall V)}
    {traceEvents : List TraceEvent} {first second : List (Option (RecordedCall V) × TraceEvent)}
    (earlierPairs : material.pairs = .ok first)
    (laterPairs : { material with calls, traceEvents }.pairs = .ok (first ++ second))
    {document : Document V}
    (returned : buildTrace kernel objects { material with calls, traceEvents } = .ok document) :
    ∃ earlier, buildTrace kernel objects material = .ok earlier ∧ document.GoesOn earlier := by
  obtain ⟨pairs, paired, assembled⟩ := assembled_of_returned returned
  rw [laterPairs] at paired
  cases paired
  have longer : outcome (assemble kernel objects material (first ++ second)) {} = .ok document :=
    assembled
  obtain ⟨earlier, made, goesOn⟩ := assemble_append longer
  refine ⟨earlier, ?_, goesOn⟩
  rw [buildTrace_of_pairs earlierPairs, made]
  rfl

end AxorWrap.Trace
