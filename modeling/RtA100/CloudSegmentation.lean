import RtA100.ForwardOrder

/-!
# Segmentation of the cloud stream

`tcp_client_read_cb` hands every chunk of the byte stream to the cloud queue as
if it were one frame, and the cloud event thread tests each from its first byte.
So a chunk stands for the frame it begins with: frames glued behind it are lost,
and only a segmentation into single frames keeps the frames sent.
-/

namespace RtA100

open Library

def receivedChunks (outputs : List LinkOutput) : List (List UInt8) :=
  outputs.flatMap fun output =>
    match output with
    | .received chunk => [chunk]
    | _ => []

/-- The frames that pass the test of the cloud event thread. -/
def acceptedFrames (outputs : List LinkOutput) : List (List UInt8) :=
  outputs.flatMap fun output =>
    match output with
    | .accepted message => [message.frame]
    | _ => []

/-- The bytes at the start of a chunk that its header declares. -/
def leadingFrame (chunk : List UInt8) : List UInt8 :=
  chunk.take (declaredLength chunk)

/-- The cloud queue is never full when a chunk arrives. -/
def RoomForReads (link : Link) : LinkEvent → Prop
  | .tcpRead _ => ¬link.cloudQueue.Full
  | _ => True

/-- As long as every chunk begins with a complete frame, these frames are what
has been accepted, followed by those that wait. -/
def LeadingInOrder (outputs : List LinkOutput) (_link : Link)
    (waiting : Waiting) : Prop :=
  (∀ chunk ∈ receivedChunks outputs, WellFormed (leadingFrame chunk)) →
    (∀ chunk ∈ waiting.cloud, WellFormed (leadingFrame chunk)) ∧
      (receivedChunks outputs).map leadingFrame =
        acceptedFrames outputs ++ waiting.cloud.map leadingFrame

theorem receivedChunks_append (left right : List LinkOutput) :
    receivedChunks (left ++ right) =
      receivedChunks left ++ receivedChunks right :=
  List.flatMap_append

theorem acceptedFrames_append (left right : List LinkOutput) :
    acceptedFrames (left ++ right) =
      acceptedFrames left ++ acceptedFrames right :=
  List.flatMap_append

theorem leadingFrame_append {frame : List UInt8} (formed : WellFormed frame)
    (rest : List UInt8) : leadingFrame (frame ++ rest) = frame := by
  have minimum := formed.minimum
  rw [leadingFrame, declaredLength_append (by omega), formed.declared]
  exact List.take_left

theorem WellFormed.leading {frame : List UInt8} (formed : WellFormed frame)
    (rest : List UInt8) :
    7 ≤ declaredLength (frame ++ rest) ∧
      declaredLength (frame ++ rest) ≤ (frame ++ rest).length ∧
      HasHeader (frame ++ rest) ∧
      HasChecksum (frame ++ rest) (declaredLength (frame ++ rest)) := by
  have minimum := formed.minimum
  rw [declaredLength_append (by omega), formed.declared, List.length_append]
  exact ⟨minimum, Nat.le_add_right _ _,
    (hasHeader_append (by omega)).mpr formed.header,
    (hasChecksum_append (by omega) (Nat.le_refl _)).mpr formed.checksum⟩

/-- The cloud event thread accepts the frame that a message begins with. -/
theorem cloudEventBody_leadingFrame {table : List MsgProcInf}
    {loop following : CloudEventLoop} {message : List UInt8}
    {fits : message.length ≤ 256} {outcome : Option AcceptedMessage}
    (formed : WellFormed (leadingFrame message))
    (body : cloudEventBody table
        { loop with buf := loop.buf.overwrite message fits } =
      some (following, outcome)) :
    ∃ accepted, outcome = some accepted ∧
      accepted.frame = leadingFrame message := by
  have split : leadingFrame message ++
      message.drop (declaredLength message) = message :=
    List.take_append_drop _ _
  have leading := formed.leading (message.drop (declaredLength message))
  rw [split] at leading
  obtain ⟨minimum, whole, header, matching⟩ := leading
  have test : cloudAccepts loop.buf message = some true := by
    rw [cloudAccepts_true_iff (by omega) fits]
    refine ⟨by omega, header, ?_⟩
    rw [Buffer.overwrite_bytes]
    exact (hasChecksum_append (by omega) whole).mpr matching
  rw [cloudAccepts_overwrite fits] at test
  rcases cloudEventBody_cases body with
    ⟨rejected, _⟩ | ⟨_, _, accepted, rfl, _, frame, _⟩
  · rw [test] at rejected
    cases rejected
  · refine ⟨accepted, rfl, ?_⟩
    rw [frame, Buffer.overwrite_bytes, declaredLength_append (by omega),
      List.take_append_of_le_length whole]
    rfl

theorem SendResult.no_chunks {link sent : Link} {waiting after : Waiting}
    {call : SendCall} {ret : Int} {outputs : List LinkOutput}
    (result : SendResult link waiting call sent after ret outputs) :
    receivedChunks outputs = [] ∧ acceptedFrames outputs = [] := by
  cases result with
  | offline | full | queued => exact ⟨rfl, rfl⟩

theorem LeadingInOrder.unchanged {outputs emitted : List LinkOutput}
    {link following : Link} {waiting after : Waiting}
    (ordered : LeadingInOrder outputs link waiting)
    (sameQueue : after.cloud = waiting.cloud)
    (noChunk : receivedChunks emitted = [])
    (noFrame : acceptedFrames emitted = []) :
    LeadingInOrder (outputs ++ emitted) following after := by
  unfold LeadingInOrder
  rw [receivedChunks_append, acceptedFrames_append, noChunk, noFrame,
    sameQueue, List.append_nil, List.append_nil]
  exact ordered

theorem LeadingInOrder.step {device : Device}
    {outputs emitted : List LinkOutput} {link following : Link}
    {waiting after : Waiting} {event : LinkEvent}
    (represents : link.Represents waiting)
    (ordered : LeadingInOrder outputs link waiting)
    (permitted : RoomForReads link event)
    (transition :
      Transition device link waiting event following after emitted) :
    LeadingInOrder (outputs ++ emitted) following after := by
  cases transition with
  | connected | disconnected | heartbeat | split | frameQueued | frameDropped
  | pieceRefused | cloudIdle | fkz9Idle | fkz9Taken | txIdle | txTaken
  | txWritten =>
      exact ordered.unchanged rfl rfl rfl
  | readQueued chunk cloudQueue _ _ _ =>
      intro leading
      rw [receivedChunks_append] at leading
      have last : WellFormed (leadingFrame chunk) :=
        leading chunk (List.mem_append_right _ (by simp [receivedChunks]))
      obtain ⟨waitingLeading, order⟩ := ordered
        (fun other member => leading other (List.mem_append_left _ member))
      refine ⟨?_, ?_⟩
      · intro other member
        rcases List.mem_append.mp member with earlier | newest
        · exact waitingLeading other earlier
        · rw [List.mem_singleton.mp newest]
          exact last
      · rw [receivedChunks_append, acceptedFrames_append, List.map_append,
          order]
        simp [receivedChunks, acceptedFrames]
  | readDropped chunk full =>
      exact absurd (represents.cloud.full_iff.mpr full) permitted
  | cloudTaken message rest fits _ _ outcome _ pending body =>
      intro leading
      have noChunk : receivedChunks
          (outcome.toList.map LinkOutput.accepted) = [] := by
        cases outcome <;> rfl
      rw [receivedChunks_append, noChunk, List.append_nil] at leading
      obtain ⟨waitingLeading, order⟩ := ordered leading
      rw [pending] at waitingLeading order
      obtain ⟨accepted, rfl, frame⟩ := cloudEventBody_leadingFrame
        (waitingLeading message List.mem_cons_self) body
      refine ⟨fun other member =>
        waitingLeading other (List.mem_cons_of_mem _ member), ?_⟩
      rw [receivedChunks_append, acceptedFrames_append, noChunk,
        List.append_nil, order]
      simp [acceptedFrames, frame]
  | pieceSent _ sent _ _ _ sending | cloudSent _ _ sent _ _ _ _ sending
  | fkz9Sent _ _ sent _ _ _ _ _ sending | navSent _ _ sent _ _ _ _ sending =>
      obtain ⟨noChunk, noFrame⟩ := sending.no_chunks
      obtain ⟨txQueue, tx, rfl, rfl⟩ := sending.frame
      exact ordered.unchanged rfl noChunk noFrame

theorem reaches_leadingInOrder {device : Device} {outputs : List LinkOutput}
    {link : Link}
    (reached : (linkMachine device).Reaches RoomForReads outputs link) :
    ∃ waiting, link.Represents waiting ∧ LeadingInOrder outputs link waiting :=
  @linkMachine_invariant device RoomForReads LeadingInOrder
    (fun _ _ => fun _ => ⟨by simp, by simp [receivedChunks, acceptedFrames]⟩)
    (fun _ _ _ _ _ _ _ represents ordered permitted transition =>
      ordered.step represents permitted transition) outputs link reached

/-- Frames sent in groups, each group glued to one chunk. -/
structure Glued (groups : List (List (List UInt8))) : Prop where
  nonempty : ∀ group ∈ groups, group ≠ []
  formed : ∀ group ∈ groups, ∀ frame ∈ group, WellFormed frame

theorem Glued.leading {groups : List (List (List UInt8))}
    (glued : Glued groups) :
    (∀ chunk ∈ groups.map List.flatten, WellFormed (leadingFrame chunk)) ∧
      (groups.map List.flatten).map leadingFrame =
        groups.map fun group => group.headD [] := by
  have first (group : List (List UInt8)) (member : group ∈ groups) :
      WellFormed (group.headD []) ∧
        leadingFrame group.flatten = group.headD [] := by
    cases group with
    | nil => exact absurd rfl (glued.nonempty [] member)
    | cons frame rest =>
        have formed := glued.formed _ member frame List.mem_cons_self
        exact ⟨formed, leadingFrame_append formed rest.flatten⟩
  constructor
  · intro chunk member
    obtain ⟨group, groupMember, rfl⟩ := List.mem_map.mp member
    obtain ⟨formed, leading⟩ := first group groupMember
    rw [leading]
    exact formed
  · rw [List.map_map]
    apply List.map_congr_left
    intro group member
    exact (first group member).2

theorem length_le_flatten {groups : List (List (List UInt8))}
    (nonempty : ∀ group ∈ groups, group ≠ []) :
    groups.length ≤ groups.flatten.length := by
  induction groups with
  | nil => exact Nat.le_refl 0
  | cons group groups induction =>
      have rest := induction
        (fun other member => nonempty other (List.mem_cons_of_mem _ member))
      have positive := List.length_pos_iff.mpr
        (nonempty group List.mem_cons_self)
      simp only [List.length_cons, List.flatten_cons, List.length_append]
      omega

/-- The first frames of the groups are all frames exactly when no group has a
second one. -/
theorem heads_eq_flatten_iff {groups : List (List (List UInt8))}
    (nonempty : ∀ group ∈ groups, group ≠ []) :
    (groups.map fun group => group.headD []) = groups.flatten ↔
      ∀ group ∈ groups, group.length = 1 := by
  induction groups with
  | nil => simp
  | cons group groups induction =>
      have rest := induction
        (fun other member => nonempty other (List.mem_cons_of_mem _ member))
      have enough := length_le_flatten
        (fun other member => nonempty other (List.mem_cons_of_mem _ member))
      cases group with
      | nil => exact absurd rfl (nonempty [] List.mem_cons_self)
      | cons frame others =>
          simp only [List.map_cons, List.headD_cons, List.flatten_cons,
            List.cons_append, List.cons.injEq, true_and, List.mem_cons,
            forall_eq_or_imp, List.length_cons]
          constructor
          · intro same
            have lengths := congrArg List.length same
            simp only [List.length_map, List.length_append] at lengths
            have alone : others = [] :=
              List.length_eq_zero_iff.mp (by omega)
            subst alone
            exact ⟨rfl, rest.mp same⟩
          · rintro ⟨alone, single⟩
            have none : others = [] :=
              List.length_eq_zero_iff.mp (by omega)
            subst none
            exact rest.mpr single

/-- For a segmentation that cuts no frame, the frames accepted are a prefix of
the frames sent when every chunk is one frame, and when the cloud queue is empty
they are the frames sent exactly when every chunk is one frame. -/
theorem acceptedFrames_segmentation {device : Device}
    {outputs : List LinkOutput} {link : Link}
    (reached : (linkMachine device).Reaches RoomForReads outputs link)
    {groups : List (List (List UInt8))} (glued : Glued groups)
    (chunks : receivedChunks outputs = groups.map List.flatten) :
    ((∀ group ∈ groups, group.length = 1) →
        acceptedFrames outputs <+: groups.flatten) ∧
      (link.cloudQueue.Empty →
        (acceptedFrames outputs = groups.flatten ↔
          ∀ group ∈ groups, group.length = 1)) := by
  obtain ⟨waiting, represents, ordered⟩ := reaches_leadingInOrder reached
  obtain ⟨leading, heads⟩ := glued.leading
  rw [← chunks] at leading heads
  obtain ⟨_, order⟩ := ordered leading
  rw [heads] at order
  constructor
  · intro single
    rw [← (heads_eq_flatten_iff glued.nonempty).mpr single, order]
    exact List.prefix_append _ _
  · intro empty
    rw [represents.cloud.empty_iff.mp empty, List.map_nil, List.append_nil]
      at order
    rw [← order]
    exact heads_eq_flatten_iff glued.nonempty

/-- Chunks of one frame each, of which two wait at once. -/
def frameEvents : List LinkEvent :=
  [.tcpRead oneFrame, .cloudPoll, .tcpRead otherFrame, .tcpRead oneFrame,
    .cloudPoll, .cloudPoll]

def roomCheck (link : Link) : LinkEvent → Bool
  | .tcpRead _ => ¬link.cloudQueue.Full
  | _ => true

theorem roomCheck_sound (link : Link) (event : LinkEvent)
    (checked : roomCheck link event = true) : RoomForReads link event := by
  cases event with
  | tcpRead chunk =>
      have room : ¬link.cloudQueue.Full := of_decide_eq_true checked
      exact room
  | _ => trivial

theorem frame_chunks_segmentation : ∃ outputs link,
    (linkMachine exampleDevice).Reaches RoomForReads outputs link ∧
      receivedChunks outputs = [oneFrame, otherFrame, oneFrame] ∧
      acceptedFrames outputs = [oneFrame, otherFrame, oneFrame] := by
  have computed : ((linkMachine exampleDevice).run roomCheck freshLink
      frameEvents).map (fun result =>
        (decide result.1.cloudQueue.Empty, receivedChunks result.2)) =
      some (true, [oneFrame, otherFrame, oneFrame]) := by
    decide +kernel
  obtain ⟨outputs, link, reached, result⟩ :=
    Machine.Reaches.of_run roomCheck_sound freshLink_initial computed
  obtain ⟨empty, received⟩ := Prod.mk.inj result
  have glued : Glued [[oneFrame], [otherFrame], [oneFrame]] :=
    ⟨by decide, by decide⟩
  have single : ∀ group ∈ [[oneFrame], [otherFrame], [oneFrame]],
      group.length = 1 := by decide
  exact ⟨outputs, link, reached, received,
    ((acceptedFrames_segmentation reached glued received).2
      (of_decide_eq_true empty)).mpr single⟩

def gluedOutputs : List LinkOutput :=
  [.received twoFrames,
    .accepted { ucSign := 0x20, frame := oneFrame, called := []
                actions := [] }]

/-- Of two frames glued to one chunk, the second is lost. -/
theorem glued_frame_lost :
    (∃ link, (linkMachine exampleDevice).Reaches Machine.anyStep gluedOutputs
        link ∧ link.cloudQueue.Empty) ∧
      (receivedChunks gluedOutputs).flatten = [oneFrame, oneFrame].flatten ∧
      acceptedFrames gluedOutputs ≠ [oneFrame, oneFrame] := by
  refine ⟨?_, by decide, by decide⟩
  have emitted : ((linkMachine exampleDevice).run (fun _ _ => true) freshLink
      [.tcpRead twoFrames, .cloudPoll, .cloudPoll]).map
        (fun result => (decide (result.1.cloudQueue.tail =
          result.1.cloudQueue.head), result.2)) =
      some (true, gluedOutputs) := by
    decide +kernel
  obtain ⟨outputs, link, reached, result⟩ :=
    Machine.Reaches.of_run (fun _ _ _ => trivial) freshLink_initial emitted
  obtain ⟨empty, rfl⟩ := Prod.mk.inj result
  exact ⟨link, reached, of_decide_eq_true empty⟩

end RtA100
