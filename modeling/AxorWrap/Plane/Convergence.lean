/-
This file asks whether a reconnect makes up for lost commands. A session
receives live a part of what was sent, in ascending order, and then accepts a
snapshot that lists everything. The snapshot skips every command up to the newest
version the session has reached, on the ground that it was applied live.

That ground holds when only the newest commands were lost, and then the session
ends where one that lost nothing ends. An older command that was lost while a
newer one arrived is skipped too, and lost for good; whether that shows is a
question about the commands alone, and the theorem below answers it exactly.
-/

import AxorWrap.Plane.Replay

namespace AxorWrap.Plane

open Python Methods Checks Machines

variable (node : Node)

/-! ### The two sessions -/

/-- What commands ask of the lattice, by version. -/
def asked (commands : List Command) : List (Int × Desired) :=
  commands.map fun command => (command.version, desiredOf node (.dict command.delta))

/-- The messages a session received: these commands live, and among them messages it refused. -/
inductive Lossy : List Command → List Message → Prop
  | done : Lossy [] []
  | refused {commands : List Command} {messages : List Message} {message : Message}
      {effect : AppliedEffect} (refusal : Refuses (message.vetted node) effect)
      (rest : Lossy commands messages) : Lossy commands (message :: messages)
  | received {commands : List Command} {messages : List Message} (command : Command)
      (rest : Lossy commands messages) : Lossy (command :: commands) (command.live :: messages)

/-- The snapshot that lists these commands. -/
def snapshotOf (version : Int) (state : Value) (sent : List Command) : Message :=
  .snapshot version state (.list (sent.map Command.entry))

/-- The session after some messages. -/
def deliverAll (session : Session) (messages : List Message) : Session :=
  (sessionMachine node).run session (messages.map Operation.message)

/-- The keys of the lattice. -/
def latticeKeys : List Key := [.str "paused", .str "stopped", .str "budget_cap_calls"]

/-- A session lost some of the commands that were sent, and then accepted the snapshot of all of
them. -/
structure Reconnect (session : Session) (sent received : List Command) (messages : List Message)
    (version : Int) (state : Value) : Prop where
  keyed : node.operatorPubkeys ≠ []
  distinct : (sent.map Command.version).Nodup
  verified : ∀ command ∈ sent, command.Verified node
  lattice : ∀ command ∈ sent, ∀ entry ∈ command.delta, entry.1 ∈ latticeKeys
  part : received.Sublist (sortCommands sent)
  lossy : Lossy node received messages
  newest : (sent.map Command.version).max? = some version
  lasting : state = .dict (signedValues ((sortCommands sent).map Command.pair))
  accepted : ∃ effect, outcome ((snapshotOf version state sent).deliver node)
    (deliverAll node session messages) = .ok effect ∧ effect.kind ≠ .sigInvalid

/-- The reconnected session has the stop, the pause and the cap of one that received everything
live. -/
def Converges (session : Session) (sent : List Command) (messages : List Message) (version : Int)
    (state : Value) : Prop :=
  (final ((snapshotOf version state sent).deliver node)
      (deliverAll node session messages)).posture.settled =
    (deliverLive node session (sortCommands sent)).posture.settled

/-! ### On the posture -/

/-- A refused message keeps the posture. -/
theorem posture_of_refuses {message : Message} {effect : AppliedEffect}
    (refusal : Refuses (message.vetted node) effect) (session : Session) :
    (final (message.deliver node) session).posture = session.posture := by
  have came := delivered node message session
  generalize outcome (message.deliver node) session = answer at came
  generalize final (message.deliver node) session = after at came ⊢
  cases came with
  | raised => rfl
  | refused => rfl
  | applied vetted => cases refusal.symm.trans vetted
  | stopped vetted => cases refusal.symm.trans vetted

theorem posture_chain (commands : List Command) (session : Session) :
    (applyAll node session (chainCommands (commands.map Command.pair))).posture =
      session.posture.run (asked node commands) := by
  rw [posture_applyAll]
  simp [asked, chainCommands, Command.pair, Function.comp_def]

theorem posture_deliverLive {commands : List Command}
    (verified : ∀ command ∈ commands, command.Verified node) (session : Session) :
    (deliverLive node session commands).posture =
      session.posture.run (asked node commands) := by
  rw [deliverLive_eq node verified, posture_chain]

/-- On the posture the received commands are all that happened. -/
theorem posture_lossy {received : List Command} {messages : List Message}
    (lossy : Lossy node received messages)
    (verified : ∀ command ∈ received, command.Verified node) (session : Session) :
    (deliverAll node session messages).posture = session.posture.run (asked node received) := by
  induction lossy generalizing session with
  | done => rfl
  | refused refusal _ inductionHypothesis =>
    unfold deliverAll
    rw [List.map_cons, Machine.run_cons, next_message, ← posture_of_refuses node refusal session]
    exact inductionHypothesis verified _
  | received command _ inductionHypothesis =>
    unfold deliverAll
    have applied : (final (command.live.deliver node) session).posture =
        session.posture.command command.version (desiredOf node (.dict command.delta)) := by
      rw [final_deliver_live node (verified command List.mem_cons_self)]
      exact posture_apply node _ _ session
    rw [List.map_cons, Machine.run_cons, next_message, asked, List.map_cons, Posture.run_cons,
      ← applied]
    exact inductionHypothesis (fun other member =>
      verified other (List.mem_cons_of_mem _ member)) _

/-! ### The snapshot -/

/-- An entry is read back as the command it was made of. -/
theorem readCommand_entry (command : Command) :
    readCommand node command.entry = .ok (command.version, command.delta, .str command.operator,
      .str command.timestamp, .str command.sig) :=
  rfl

/-- The listed entries decode to the commands they were made of. -/
theorem decoded_entries {commands decoded : List Command}
    (decodes : List.Forall₂ (fun entry command => Accepts (decodeCommand node entry) command)
      (commands.map Command.entry) decoded) : decoded = commands := by
  rw [List.forall₂_map_left_iff] at decodes
  induction decodes with
  | nil => rfl
  | @cons command other _ _ accepted _ inductionHypothesis =>
    have read := (accepts_decodeCommand node).mp accepted
    rw [readCommand_entry] at read
    cases command
    cases other
    cases read
    rw [inductionHypothesis]

variable {node}

/-- Sent commands, sorted, ask in strictly ascending order. -/
theorem Reconnect.ascending {session : Session} {sent received : List Command}
    {messages : List Message} {version : Int} {state : Value}
    (reconnect : Reconnect node session sent received messages version state) :
    (asked node (sortCommands sent)).Pairwise fun first second => first.1 < second.1 := by
  have sorted : (sortCommands sent).Pairwise fun first second => first.version ≤ second.version :=
    List.pairwise_insertionSort _ sent
  have distinct : (sortCommands sent).Pairwise
      fun first second => first.version ≠ second.version :=
    List.pairwise_map.mp (((List.perm_insertionSort _ sent).map Command.version).nodup_iff.mpr
      reconnect.distinct)
  exact List.pairwise_map.mpr ((sorted.and distinct).imp fun both => lt_of_le_of_ne both.1 both.2)

/-- The reconnected session is where receiving the part and then everything leads. -/
theorem Reconnect.settled {session : Session} {sent received : List Command}
    {messages : List Message} {version : Int} {state : Value}
    (reconnect : Reconnect node session sent received messages version state) :
    (final ((snapshotOf version state sent).deliver node)
        (deliverAll node session messages)).posture.settled =
      (session.posture.run (asked node received ++ asked node (sortCommands sent))).settled := by
  obtain ⟨effect, returned, accepted⟩ := reconnect.accepted
  obtain ⟨entries, decoded, went, after⟩ := applied_of_returned node
    (List.isEmpty_eq_false_iff.mpr reconnect.keyed) returned accepted
  cases went.iterated
  have same : decoded = sent := decoded_entries node went.decodes
  subst same
  have sortedVerified : ∀ command ∈ received, command.Verified node := fun command member =>
    reconnect.verified command ((List.mem_insertionSort _).mp (reconnect.part.subset member))
  have posture : (final ((snapshotOf version state decoded).deliver node)
      (deliverAll node session messages)).posture.settled =
      ((deliverAll node session messages).posture.run
        (asked node (sortCommands decoded))).settled := by
    rw [← posture_chain]
    exact (congrArg (fun session : Session => session.posture.settled) after).trans rfl
  rw [posture, posture_lossy node reconnect.lossy sortedVerified, Posture.run_append]

/-- A reconnected session converges exactly when it was stopped before, or when the commands that
take hold, those received and those newer than the newest received, settle as all the fresh ones
do. In particular it converges when nothing older than the newest received was lost. -/
theorem reconnect_converges_iff {session : Session} {sent received : List Command}
    {messages : List Message} {version : Int} {state : Value}
    (reconnect : Reconnect node session sent received messages version state) :
    (Converges node session sent messages version state ↔
      session.stopped = true ∨
        settlement session.paused session.budgetCapCalls
            ((reaching session.appliedVersion (asked node received)
              (asked node (sortCommands sent))).map Prod.snd) =
          settlement session.paused session.budgetCapCalls
            (((asked node (sortCommands sent)).filter fun command =>
              session.appliedVersion < command.1).map Prod.snd)) ∧
    ((∀ command ∈ asked node sent, session.appliedVersion < command.1 →
        command ∈ asked node received ∨
          newest session.appliedVersion (asked node received) < command.1) →
      Converges node session sent messages version state) := by
  have part : (asked node received).Sublist (asked node (sortCommands sent)) :=
    reconnect.part.map _
  have ascending := reconnect.ascending
  have sortedVerified : ∀ command ∈ sortCommands sent, command.Verified node :=
    fun command member => reconnect.verified command ((List.mem_insertionSort _).mp member)
  have exactly : Converges node session sent messages version state ↔
      session.stopped = true ∨
        settlement session.paused session.budgetCapCalls
            ((reaching session.appliedVersion (asked node received)
              (asked node (sortCommands sent))).map Prod.snd) =
          settlement session.paused session.budgetCapCalls
            (((asked node (sortCommands sent)).filter fun command =>
              session.appliedVersion < command.1).map Prod.snd) := by
    unfold Converges
    rw [reconnect.settled, posture_deliverLive node sortedVerified,
      Posture.settled_run_part _ part ascending, Posture.settled_run_ascending _ _ ascending]
    cases stopped : session.stopped with
    | true => simp [Session.posture, stopped]
    | false => simp [Session.posture, stopped]
  refine ⟨exactly, fun noneLost => exactly.mpr (.inr ?_)⟩
  rw [reaching_eq_of_none_lost part ascending fun command member fresh => ?_]
  exact noneLost command (((List.perm_insertionSort _ sent).map _).subset member) fresh

/-! ### A pause and a cap -/

/-- A pause, signed by the one operator of the trial node. -/
def signedPause : Command := ⟨1, [field "paused" (.bool true)], "alice", "now", "aa"⟩

/-- A cap, signed after the pause. -/
def signedCap : Command := ⟨2, [field "budget_cap_calls" (.int 50)], "alice", "now", "aa"⟩

/-- Any one of the two may be received live before the snapshot of both. -/
theorem reconnect_pause_cap {received : Command}
    (one : received = signedPause ∨ received = signedCap) :
    Reconnect signedNode signedNode.initial [signedCap, signedPause] [received] [received.live] 2
      (.dict (signedPause.delta ++ signedCap.delta)) where
  keyed := List.cons_ne_nil _ _
  distinct := by decide
  verified command member := by
    simp only [List.mem_cons, List.not_mem_nil, or_false] at member
    rcases member with rfl | rfl <;> rfl
  lattice command member entry inDelta := by
    simp only [List.mem_cons, List.not_mem_nil, or_false] at member
    rcases member with rfl | rfl <;> rw [List.mem_singleton.mp inDelta] <;> decide
  part := by
    show [received].Sublist [signedPause, signedCap]
    rw [List.singleton_sublist]
    simpa using one
  lossy := .received received .done
  newest := rfl
  lasting := rfl
  accepted := by
    rcases one with rfl | rfl
    · exact ⟨⟨.applied, []⟩, rfl, by decide⟩
    · exact ⟨⟨.applied, []⟩, rfl, by decide⟩

/-- The pause arrived and the cap was lost: the snapshot makes up for it. -/
theorem reconnect_converges_pause :
    Converges signedNode signedNode.initial [signedCap, signedPause] [signedPause.live] 2
      (.dict (signedPause.delta ++ signedCap.delta)) := by
  refine (reconnect_converges_iff (reconnect_pause_cap (.inl rfl))).2 fun command member _ => ?_
  simp only [asked, List.map_cons, List.map_nil, List.mem_cons, List.not_mem_nil, or_false]
    at member ⊢
  rcases member with rfl | rfl
  · exact .inr (by decide)
  · exact .inl rfl

/-- The cap arrived and the pause was lost: the snapshot skips the pause, and the node runs on. -/
theorem reconnect_not_always :
    ¬ ∀ (node : Node) (sent received : List Command) (messages : List Message) (version : Int)
      (state : Value), Reconnect node node.initial sent received messages version state →
        Converges node node.initial sent messages version state := by
  intro always
  have converges := always signedNode _ _ _ _ _ (reconnect_pause_cap (.inr rfl))
  exact Bool.false_ne_true (congrArg (fun settled => settled.2.1) converges)

end AxorWrap.Plane
