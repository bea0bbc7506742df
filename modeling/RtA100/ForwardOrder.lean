import RtA100.Forwarding

/-!
# Order of the frames forwarded to the cloud

A single frame travels through the FKZ9 queue and its event thread, while the
pieces of a longer payload go straight to `tx_queue`.  `KeepsOrder` is the
condition on steps under which no frame is dropped on its way and no piece
overtakes a frame; `InOrder` then says where every delivered frame is.
-/

namespace RtA100

open Library

/-- Cut a list of bytes into pieces of `len` bytes. -/
def pieces (len : Nat) : Nat → List UInt8 → List (List UInt8)
  | 0, _ => []
  | fuel + 1, bytes =>
      if bytes = [] then []
      else bytes.take len :: pieces len fuel (bytes.drop len)

/-- The frames of a payload: itself, or its pieces of the declared length. -/
def framesOf (payload : List UInt8) : List (List UInt8) :=
  if declaredLength payload = payload.length then [payload]
  else pieces (declaredLength payload) payload.length payload

/-- The frames that the MQTT callback has been given, in order of arrival. -/
def deliveredFrames (outputs : List LinkOutput) : List (List UInt8) :=
  outputs.flatMap fun output =>
    match output with
    | .delivered payload => framesOf payload
    | _ => []

/-- The frames put on `tx_queue` for MQTT, in order. -/
def forwardedFrames (outputs : List LinkOutput) : List (List UInt8) :=
  outputs.flatMap fun output =>
    match output with
    | .queued .onMessageCb frame => [frame]
    | .queued .fwToCloud frame => [frame]
    | _ => []

/-- A full ring, as `enqueue` tests it. -/
def ThreadSafeQueue.Full {slotSize : Nat} (queue : ThreadSafeQueue slotSize) :
    Prop :=
  (queue.head + 1) % 64 = queue.tail

def ThreadSafeQueue.Empty {slotSize : Nat} (queue : ThreadSafeQueue slotSize) :
    Prop :=
  queue.tail = queue.head

/-- A frame that the FKZ9 event thread forwards. -/
structure Forwardable (frame : List UInt8) : Prop where
  formed : WellFormed frame
  noRequest : signOf frame ≠ mqttMsgSignHeartbeatReq
  noResponse : signOf frame ≠ mqttMsgSignHeartbeatResp
  quiet : checksumOf frame frame.length < 32768

instance {slotSize : Nat} (queue : ThreadSafeQueue slotSize) :
    Decidable queue.Full :=
  inferInstanceAs (Decidable (_ = _))

instance {slotSize : Nat} (queue : ThreadSafeQueue slotSize) :
    Decidable queue.Empty :=
  inferInstanceAs (Decidable (_ = _))

/-- Several well-formed frames of one length. -/
structure EqualFrames (frames : List (List UInt8)) (len : Nat) : Prop where
  several : 2 ≤ frames.length
  formed : ∀ frame ∈ frames, WellFormed frame
  equal : ∀ frame ∈ frames, frame.length = len

/-- The client is connected whenever the forward path takes a step.  A single
frame finds room in the FKZ9 queue; a payload of several frames finds that queue
empty and its thread idle, and does not begin with a heartbeat request; and the
FKZ9 event thread finds room in `tx_queue`. -/
def KeepsOrder (link : Link) : LinkEvent → Prop
  | .mqttMessage payload =>
      payload.length ≤ 1400 ∧
        ((Forwardable payload ∧ ¬link.fkz9Queue.Full) ∨
          (∃ frames len, EqualFrames frames len ∧
            payload = frames.flatten ∧
            signOf payload ≠ mqttMsgSignHeartbeatReq ∧
            link.fkz9Queue.Empty ∧ link.fkz9Handler = none))
  | .mqttSend => link.isConnected = true
  | .fkz9Send => link.isConnected = true ∧ ¬link.txQueue.Full
  | .disconnected => False
  | _ => True

theorem pieces_flatten {len fuel : Nat} {frames : List (List UInt8)}
    (positive : 0 < len) (equal : ∀ frame ∈ frames, frame.length = len)
    (enough : frames.length ≤ fuel) :
    pieces len fuel frames.flatten = frames := by
  induction frames generalizing fuel with
  | nil => cases fuel <;> simp [pieces]
  | cons frame frames induction =>
      cases fuel with
      | zero => simp at enough
      | succ fuel =>
          have length := equal frame List.mem_cons_self
          have nonempty : frame ++ frames.flatten ≠ [] := by
            intro empty
            have nothing := congrArg List.length empty
            simp only [List.length_append, List.length_nil] at nothing
            omega
          have rest := induction
            (fun other member => equal other (List.mem_cons_of_mem _ member))
            (show frames.length ≤ fuel by
              simpa using enough)
          rw [List.flatten_cons, pieces, if_neg nonempty,
            List.take_left' length, List.drop_left' length, rest]

theorem flatten_length {len : Nat} {frames : List (List UInt8)}
    (equal : ∀ frame ∈ frames, frame.length = len) :
    frames.flatten.length = frames.length * len := by
  induction frames with
  | nil => simp
  | cons frame frames induction =>
      have length := equal frame List.mem_cons_self
      have rest := induction
        (fun other member => equal other (List.mem_cons_of_mem _ member))
      simp only [List.flatten_cons, List.length_append, List.length_cons,
        length, rest, Nat.succ_mul]
      omega

namespace EqualFrames

variable {frames : List (List UInt8)} {len : Nat}

theorem head (equal : EqualFrames frames len) :
    ∃ first second rest, frames = first :: second :: rest := by
  have several := equal.several
  rcases frames with _ | ⟨first, _ | ⟨second, rest⟩⟩
  · simp at several
  · simp at several
  · exact ⟨first, second, rest, rfl⟩

theorem minimum (equal : EqualFrames frames len) : 7 ≤ len := by
  obtain ⟨first, second, rest, rfl⟩ := equal.head
  have formed := (equal.formed first List.mem_cons_self).minimum
  have length := equal.equal first List.mem_cons_self
  omega

theorem declared (equal : EqualFrames frames len) :
    declaredLength frames.flatten = len := by
  obtain ⟨first, second, rest, rfl⟩ := equal.head
  have formed := equal.formed first List.mem_cons_self
  have minimum := formed.minimum
  rw [List.flatten_cons, declaredLength_append (by omega), formed.declared]
  exact equal.equal first List.mem_cons_self

theorem longer (equal : EqualFrames frames len) :
    len < frames.flatten.length := by
  have several := equal.several
  have minimum := equal.minimum
  rw [flatten_length equal.equal]
  calc len < 2 * len := by omega
    _ ≤ frames.length * len := Nat.mul_le_mul_right len several

theorem framesOf_eq (equal : EqualFrames frames len) :
    framesOf frames.flatten = frames := by
  have longer := equal.longer
  have minimum := equal.minimum
  have count : frames.length ≤ frames.flatten.length := by
    rw [flatten_length equal.equal]
    exact Nat.le_mul_of_pos_right _ (by omega)
  rw [framesOf, equal.declared, if_neg (by omega),
    pieces_flatten (by omega) equal.equal count]

end EqualFrames

/-- What the event thread holds of the frames it has taken. -/
def InHand (link : Link) (hand : List (List UInt8)) : Prop :=
  (link.fkz9Handler = none ∧ hand = []) ∨
    (link.fkz9Handler = some .msgFwToCloud ∧
      ∃ frame stale, hand = [frame] ∧ WellFormed frame ∧
        link.fkz9Buf.bytes = frame ++ stale)

/-- What the MQTT callback has still to send of its payload. -/
def InLoop (link : Link) (rest : List (List UInt8)) : Prop :=
  (link.splitting = none ∧ rest = []) ∨
    ∃ loop, link.splitting = some loop ∧ rest ≠ [] ∧ 0 < loop.len ∧
      (∀ frame ∈ rest, frame.length = loop.len) ∧
      loop.payload.drop loop.index = rest.flatten

/-- Every frame delivered has been forwarded, is in the hand of the event
thread, waits in the FKZ9 queue, or is still to be sent by the callback, which
is only the case while nothing waits. -/
def InOrder (outputs : List LinkOutput) (link : Link) (waiting : Waiting) :
    Prop :=
  ∃ hand rest, InHand link hand ∧ InLoop link rest ∧
    (∀ frame ∈ waiting.fkz9, Forwardable frame) ∧
    (rest ≠ [] → hand = [] ∧ waiting.fkz9 = []) ∧
    deliveredFrames outputs =
      forwardedFrames outputs ++ hand ++ waiting.fkz9 ++ rest

theorem deliveredFrames_append (left right : List LinkOutput) :
    deliveredFrames (left ++ right) =
      deliveredFrames left ++ deliveredFrames right :=
  List.flatMap_append

theorem forwardedFrames_append (left right : List LinkOutput) :
    forwardedFrames (left ++ right) =
      forwardedFrames left ++ forwardedFrames right :=
  List.flatMap_append

theorem InOrder.unchanged {outputs emitted : List LinkOutput}
    {link following : Link} {waiting after : Waiting}
    (ordered : InOrder outputs link waiting)
    (sameHandler : following.fkz9Handler = link.fkz9Handler)
    (sameBuf : following.fkz9Buf = link.fkz9Buf)
    (sameLoop : following.splitting = link.splitting)
    (sameQueue : after.fkz9 = waiting.fkz9)
    (noDelivery : deliveredFrames emitted = [])
    (noForward : forwardedFrames emitted = []) :
    InOrder (outputs ++ emitted) following after := by
  obtain ⟨hand, rest, inHand, inLoop, frames, alone, order⟩ := ordered
  refine ⟨hand, rest, ?_, ?_, ?_, ?_, ?_⟩
  · unfold InHand
    rw [sameHandler, sameBuf]
    exact inHand
  · unfold InLoop
    rw [sameLoop]
    exact inLoop
  · rw [sameQueue]
    exact frames
  · rw [sameQueue]
    exact alone
  · rw [deliveredFrames_append, forwardedFrames_append, noDelivery,
      noForward, sameQueue, List.append_nil, List.append_nil]
    exact order

theorem SendResult.not_forwarded {link sent : Link} {waiting after : Waiting}
    {call : SendCall} {ret : Int} {outputs : List LinkOutput}
    (result : SendResult link waiting call sent after ret outputs) :
    deliveredFrames outputs = [] ∧
      (call.sender ≠ .onMessageCb → call.sender ≠ .fwToCloud →
        forwardedFrames outputs = []) := by
  cases result with
  | offline | full => exact ⟨rfl, fun _ _ => rfl⟩
  | queued =>
      refine ⟨rfl, fun notCallback notEvent => ?_⟩
      cases sender : call.sender with
      | onMessageCb => exact absurd sender notCallback
      | fwToCloud => exact absurd sender notEvent
      | devInfoResp | cloudEvent | navDataMsg =>
          simp [forwardedFrames]

/-- A send of the forward path that finds the client connected and puts its
message on `tx_queue`. -/
theorem SendResult.forwarded {link sent : Link} {waiting after : Waiting}
    {call : SendCall} {ret : Int} {outputs : List LinkOutput}
    (result : SendResult link waiting call sent after ret outputs)
    (online : link.isConnected = true)
    (room : ret = 0 ∨ waiting.tx.length ≠ 63)
    (forwards : call.sender = .onMessageCb ∨ call.sender = .fwToCloud) :
    forwardedFrames outputs = [call.data.take call.len] := by
  cases result with
  | offline offline =>
      rw [online] at offline
      cases offline
  | full _ full =>
      rcases room with success | room
      · cases success
      · exact absurd full room
  | queued =>
      rcases forwards with sender | sender
      · simp [forwardedFrames, sender]
      · simp [forwardedFrames, sender]

theorem InOrder.initial {link : Link} (starts : LinkInitial link) :
    InOrder [] link { cloud := [], fkz9 := [], tx := [] } := by
  obtain ⟨_, _, _, _, rfl⟩ := starts
  exact ⟨[], [], Or.inl ⟨rfl, rfl⟩, Or.inl ⟨rfl, rfl⟩, by simp, by simp, rfl⟩

theorem InLoop.next {link following : Link} {loop : SplitLoop}
    {frame : List UInt8} {rest : List (List UInt8)}
    (splitting : link.splitting = some loop)
    (inLoop : InLoop link (frame :: rest))
    (next : following.splitting = loop.next) :
    loop.call.data.take loop.call.len = frame ∧ InLoop following rest := by
  rcases inLoop with ⟨_, nothing⟩ | ⟨other, same, _, positive, equal, left⟩
  · cases nothing
  · rw [splitting, Option.some.injEq] at same
    subst same
    have length := equal frame List.mem_cons_self
    have restEqual : ∀ later ∈ rest, later.length = loop.len :=
      fun later member => equal later (List.mem_cons_of_mem _ member)
    have split : loop.payload.drop loop.index = frame ++ rest.flatten := by
      rw [left, List.flatten_cons]
    refine ⟨?_, ?_⟩
    · rw [SplitLoop.call, split, List.take_left' length]
    · have remaining : loop.payload.length - loop.index =
          loop.len + rest.length * loop.len := by
        have counted := congrArg List.length split
        rw [List.length_drop, List.length_append, length,
          flatten_length restEqual] at counted
        exact counted
      have dropped : loop.payload.drop (loop.index + loop.len) =
          rest.flatten := by
        rw [← List.drop_drop, split, List.drop_left' length]
      cases rest with
      | nil =>
          left
          rw [next, SplitLoop.next, if_neg (by
            simp only [List.length_nil, Nat.zero_mul] at remaining
            omega)]
          exact ⟨rfl, rfl⟩
      | cons second rest =>
          right
          rw [next, SplitLoop.next, if_pos (by
            simp only [List.length_cons, Nat.succ_mul] at remaining
            omega)]
          exact ⟨_, rfl, List.cons_ne_nil _ _, positive, restEqual, dropped⟩

theorem InLoop.outside {link : Link} {rest : List (List UInt8)}
    (inLoop : InLoop link rest) (outside : link.splitting = none) :
    rest = [] := by
  rcases inLoop with ⟨_, nothing⟩ | ⟨loop, inside, _⟩
  · exact nothing
  · rw [outside] at inside
    cases inside

theorem InHand.idle {link : Link} {hand : List (List UInt8)}
    (inHand : InHand link hand) (idle : link.fkz9Handler = none) :
    hand = [] := by
  rcases inHand with ⟨_, nothing⟩ | ⟨busy, _⟩
  · exact nothing
  · rw [idle] at busy
    cases busy

section Step

variable {device : Device} {outputs emitted : List LinkOutput}
  {link : Link} {waiting after : Waiting}

/-- A payload of several frames enters the loops of the callback. -/
theorem InOrder.split {payload : List UInt8}
    (represents : link.Represents waiting)
    (ordered : InOrder outputs link waiting)
    (permitted : KeepsOrder link (.mqttMessage payload))
    (outside : link.splitting = none)
    (several : declaredLength payload ≠ payload.length) :
    InOrder (outputs ++ [.delivered payload])
      { link with
        splitting := some { payload, len := declaredLength payload
                            index := 0 } }
      waiting := by
  obtain ⟨hand, rest, inHand, inLoop, frames, _, order⟩ := ordered
  rcases permitted.2 with
    ⟨single, _⟩ | ⟨parts, len, equal, rfl, _, empty, idle⟩
  · exact absurd single.formed.declared several
  · have noHand := inHand.idle idle
    have noRest := inLoop.outside outside
    have noFrames : waiting.fkz9 = [] :=
      represents.fkz9.empty_iff.mp empty
    subst noHand noRest
    have minimum := equal.minimum
    have delivered : deliveredFrames [.delivered parts.flatten] = parts := by
      simp [deliveredFrames, equal.framesOf_eq]
    refine ⟨[], parts, Or.inl ⟨idle, rfl⟩, Or.inr ⟨_, rfl, ?_, ?_, ?_, ?_⟩,
      frames, fun _ => ⟨rfl, noFrames⟩, ?_⟩
    · obtain ⟨first, second, rest, rfl⟩ := equal.head
      exact List.cons_ne_nil _ _
    · simp only [equal.declared]
      omega
    · simp only [equal.declared]
      exact equal.equal
    · exact List.drop_zero
    · rw [noFrames, List.append_nil, List.append_nil, List.append_nil]
        at order
      rw [deliveredFrames_append, forwardedFrames_append, delivered, order,
        noFrames]
      simp [forwardedFrames]

theorem InOrder.frameQueued {payload : List UInt8}
    {fkz9Queue : ThreadSafeQueue 1400}
    (ordered : InOrder outputs link waiting)
    (permitted : KeepsOrder link (.mqttMessage payload))
    (outside : link.splitting = none)
    (declared : declaredLength payload = payload.length) :
    InOrder (outputs ++ [.delivered payload]) { link with fkz9Queue }
      { waiting with fkz9 := waiting.fkz9 ++ [payload] } := by
  obtain ⟨hand, rest, inHand, inLoop, frames, _, order⟩ := ordered
  rcases permitted.2 with ⟨single, _⟩ | ⟨parts, len, equal, rfl, _⟩
  · have noRest := inLoop.outside outside
    subst noRest
    have delivered : deliveredFrames [.delivered payload] = [payload] := by
      simp [deliveredFrames, framesOf, declared]
    refine ⟨hand, [], inHand, Or.inl ⟨outside, rfl⟩, ?_, by simp, ?_⟩
    · intro frame member
      rcases List.mem_append.mp member with earlier | last
      · exact frames frame earlier
      · rw [List.mem_singleton.mp last]
        exact single
    · rw [List.append_nil] at order
      rw [deliveredFrames_append, forwardedFrames_append, delivered, order]
      simp [forwardedFrames]
  · have longer := equal.longer
    rw [equal.declared] at declared
    omega

theorem InOrder.pieceSent {loop : SplitLoop} {sent : Link}
    (ordered : InOrder outputs link waiting)
    (online : link.isConnected = true)
    (splitting : link.splitting = some loop)
    (sending : SendResult link waiting loop.call sent after 0 emitted) :
    InOrder (outputs ++ emitted) { sent with splitting := loop.next }
      after := by
  have forwarded := sending.forwarded online (Or.inl rfl) (Or.inl rfl)
  have delivered := sending.not_forwarded.1
  obtain ⟨txQueue, tx, rfl, rfl⟩ := sending.frame
  obtain ⟨hand, rest, inHand, inLoop, frames, alone, order⟩ := ordered
  cases rest with
  | nil =>
      rcases inLoop with ⟨outside, _⟩ | ⟨_, _, nonempty, _⟩
      · rw [splitting] at outside
        cases outside
      · exact absurd rfl nonempty
  | cons frame rest =>
      obtain ⟨noHand, noFrames⟩ := alone (List.cons_ne_nil _ _)
      obtain ⟨piece, inLoopNext⟩ :=
        @InLoop.next link { link with txQueue, splitting := loop.next }
          loop frame rest splitting inLoop rfl
      refine ⟨hand, rest, inHand, inLoopNext, frames,
        fun _ => ⟨noHand, noFrames⟩, ?_⟩
      rw [deliveredFrames_append, forwardedFrames_append, delivered,
        forwarded, piece, order, noHand, noFrames]
      simp

/-- The event thread takes a frame and finds it complete. -/
theorem InOrder.fkz9Taken {message : List UInt8}
    {rest : List (List UInt8)} {fits : message.length ≤ 1500}
    {fkz9Queue : ThreadSafeQueue 1400} {passes : Bool}
    (ordered : InOrder outputs link waiting)
    (idle : link.fkz9Handler = none)
    (pending : waiting.fkz9 = message :: rest)
    (test : fkz9FrameTest (link.fkz9Buf.overwrite message fits).bytes =
      some passes) :
    InOrder (outputs ++ [])
      { link with
        fkz9Queue, fkz9Buf := link.fkz9Buf.overwrite message fits
        fkz9Handler :=
          if passes = true then
            chooseHandler link.isInit
              (signOf (link.fkz9Buf.overwrite message fits).bytes)
          else none }
      { waiting with fkz9 := rest } := by
  obtain ⟨hand, left, inHand, inLoop, frames, alone, order⟩ := ordered
  have member : message ∈ waiting.fkz9 := by
    rw [pending]
    exact List.mem_cons_self
  obtain ⟨formed, _, noResponse, quiet⟩ := frames message member
  have minimum := formed.minimum
  rw [fkz9FrameTest_overwrite formed.declared (by omega) fits,
    Option.some.injEq] at test
  have accepted : passes = true := by
    rw [← test]
    exact decide_eq_true ⟨⟨formed.header, formed.checksum⟩, quiet⟩
  have sign : signOf (link.fkz9Buf.overwrite message fits).bytes =
      signOf message :=
    signOf_append (by omega)
  have chosen : chooseHandler link.isInit (signOf message) =
      some .msgFwToCloud := by
    rw [chooseHandler, if_neg noResponse]
  have noHand := inHand.idle idle
  have noLeft : left = [] := by
    cases left with
    | nil => rfl
    | cons frame left =>
        have empty := (alone (List.cons_ne_nil _ _)).2
        rw [pending] at empty
        cases empty
  subst noHand noLeft
  refine ⟨[message], [], ?_, inLoop, ?_, by simp, ?_⟩
  · right
    refine ⟨?_, message, _, rfl, formed, rfl⟩
    simp only [accepted, if_true, sign, chosen]
  · intro frame later
    apply frames
    rw [pending]
    exact List.mem_cons_of_mem _ later
  · rw [List.append_nil, order, pending]
    simp

theorem InOrder.fkz9Sent {handler : Fkz9Handler} {call : SendCall}
    {sent : Link} {ret : Int} (represents : link.Represents waiting)
    (ordered : InOrder outputs link waiting)
    (permitted : KeepsOrder link .fkz9Send)
    (chosen : link.fkz9Handler = some handler)
    (called : handler.call device link.fkz9Buf = some call)
    (sending : SendResult link waiting call sent after ret emitted) :
    InOrder (outputs ++ emitted)
      { sent with
        isInit := sent.isInit || handler == .devInfoResp
        fkz9Handler := none }
      after := by
  obtain ⟨online, notFull⟩ := permitted
  obtain ⟨hand, rest, inHand, inLoop, frames, alone, order⟩ := ordered
  rcases inHand with ⟨idle, _⟩ | ⟨busy, frame, stale, rfl, formed, bytes⟩
  · rw [chosen] at idle
    cases idle
  · rw [chosen, Option.some.injEq] at busy
    subst busy
    have result := Fkz9Handler.call_msgFwToCloud called
    have minimum := formed.minimum
    have declared : declaredLength (frame ++ stale) = frame.length := by
      rw [declaredLength_append (by omega), formed.declared]
    have sender : call.sender = .fwToCloud := by
      rw [result]
    have taken : call.data.take call.len = frame := by
      rw [result]
      simp only [bytes, declared]
      exact List.take_left
    have room : waiting.tx.length ≠ 63 :=
      fun full => notFull (represents.tx.full_iff.mpr full)
    have forwarded := sending.forwarded online (Or.inr room) (Or.inr sender)
    rw [taken] at forwarded
    have delivered := sending.not_forwarded.1
    obtain ⟨txQueue, tx, rfl, rfl⟩ := sending.frame
    refine ⟨[], rest, Or.inl ⟨rfl, rfl⟩, inLoop, frames, ?_, ?_⟩
    · intro nonempty
      exact ⟨rfl, (alone nonempty).2⟩
    · rw [deliveredFrames_append, forwardedFrames_append, delivered,
        forwarded, order]
      simp

theorem InOrder.step {following : Link} {event : LinkEvent}
    (represents : link.Represents waiting)
    (ordered : InOrder outputs link waiting)
    (permitted : KeepsOrder link event)
    (transition :
      Transition device link waiting event following after emitted) :
    InOrder (outputs ++ emitted) following after := by
  cases transition with
  | connected | readQueued | readDropped | cloudIdle | fkz9Idle | txIdle
  | txTaken | txWritten | pieceRefused =>
      exact ordered.unchanged rfl rfl rfl rfl rfl rfl
  | disconnected => exact permitted.elim
  | heartbeat payload _ _ request =>
      rcases permitted.2 with ⟨single, _⟩ | ⟨_, _, _, _, noRequest, _⟩
      · exact absurd request single.noRequest
      · exact absurd request noRequest
  | split payload outside _ _ several =>
      exact ordered.split represents permitted outside several
  | frameQueued payload _ outside _ _ declared _ _ =>
      exact ordered.frameQueued permitted outside declared
  | frameDropped payload _ _ _ declared full =>
      rcases permitted.2 with ⟨_, notFull⟩ | ⟨_, _, _, _, _, empty, _⟩
      · exact absurd (represents.fkz9.full_iff.mpr full) notFull
      · rw [represents.fkz9.empty_iff.mp empty] at full
        cases full
  | pieceSent loop sent _ _ splitting sending =>
      exact ordered.pieceSent permitted splitting sending
  | cloudTaken _ _ _ _ _ outcome _ _ _ =>
      have noDelivery : deliveredFrames
          (outcome.toList.map LinkOutput.accepted) = [] := by
        cases outcome <;> rfl
      have noForward : forwardedFrames
          (outcome.toList.map LinkOutput.accepted) = [] := by
        cases outcome <;> rfl
      exact ordered.unchanged rfl rfl rfl rfl noDelivery noForward
  | cloudSent _ _ sent _ _ _ _ sending =>
      obtain ⟨noDelivery, noForward⟩ := sending.not_forwarded
      obtain ⟨txQueue, tx, rfl, rfl⟩ := sending.frame
      exact ordered.unchanged rfl rfl rfl rfl noDelivery
        (noForward (by simp) (by simp))
  | fkz9Taken message rest fits _ passes idle pending test =>
      exact ordered.fkz9Taken idle pending test
  | fkz9Sent handler call sent _ _ _ chosen called sending =>
      exact ordered.fkz9Sent represents permitted chosen called sending
  | navSent _ _ sent _ _ _ _ sending =>
      obtain ⟨noDelivery, noForward⟩ := sending.not_forwarded
      obtain ⟨txQueue, tx, rfl, rfl⟩ := sending.frame
      exact ordered.unchanged rfl rfl rfl rfl noDelivery
        (noForward (by simp) (by simp))

end Step

/-- In every run whose steps keep the order, the frames put on `tx_queue` are a
prefix of the frames delivered, and all of them once the FKZ9 queue is empty and
neither the event thread nor the callback has one left. -/
theorem forwarded_prefix_delivered {device : Device}
    {outputs : List LinkOutput} {link : Link}
    (reached : (linkMachine device).Reaches KeepsOrder outputs link) :
    forwardedFrames outputs <+: deliveredFrames outputs ∧
      (link.fkz9Queue.Empty → link.fkz9Handler = none →
        link.splitting = none →
          forwardedFrames outputs = deliveredFrames outputs) := by
  obtain ⟨waiting, represents, hand, rest, inHand, inLoop, _, _, order⟩ :=
    @linkMachine_invariant device KeepsOrder InOrder
      (fun _ starts => InOrder.initial starts)
      (fun _ _ _ _ _ _ _ represents ordered permitted transition =>
        ordered.step represents permitted transition) outputs link reached
  constructor
  · rw [order, List.append_assoc, List.append_assoc]
    exact List.prefix_append _ _
  · intro empty idle outside
    rw [order, inHand.idle idle, inLoop.outside outside,
      represents.fkz9.empty_iff.mp empty]
    simp

def oneFrame : List UInt8 := [0xAA, 0xAA, 0, 7, 0x20, 1, 0x7B]

def otherFrame : List UInt8 := [0xAA, 0xAA, 0, 7, 0x21, 1, 0x7C]

theorem otherFrame_forwardable : Forwardable otherFrame :=
  ⟨by decide, by decide, by decide, by decide⟩

theorem twoFrames_equal : EqualFrames [oneFrame, oneFrame] 7 := by
  refine ⟨by decide, ?_, ?_⟩
  · intro frame member
    simp only [List.mem_cons, List.not_mem_nil, or_false, or_self] at member
    subst member
    decide
  · intro frame member
    simp only [List.mem_cons, List.not_mem_nil, or_false, or_self] at member
    subst member
    rfl

/-- A frame is forwarded by the event thread, and the two frames of the next
payload by the callback. -/
def forwardedEvents : List LinkEvent :=
  [.connected, .mqttMessage otherFrame, .fkz9Poll, .fkz9Send,
    .mqttMessage twoFrames, .mqttSend, .mqttSend]

/-- These events keep the order. -/
def keepsOrderCheck (link : Link) : LinkEvent → Bool
  | .mqttMessage payload =>
      payload = otherFrame ∧ ¬link.fkz9Queue.Full ∨
        payload = twoFrames ∧ link.fkz9Queue.Empty ∧ link.fkz9Handler = none
  | .mqttSend => link.isConnected
  | .fkz9Send => link.isConnected = true ∧ ¬link.txQueue.Full
  | .connected | .fkz9Poll => true
  | _ => false

theorem keepsOrderCheck_sound (link : Link) (event : LinkEvent)
    (checked : keepsOrderCheck link event = true) : KeepsOrder link event := by
  cases event with
  | mqttMessage payload =>
      rcases of_decide_eq_true checked with ⟨rfl, room⟩ | ⟨rfl, empty, idle⟩
      · exact ⟨by decide, .inl ⟨otherFrame_forwardable, room⟩⟩
      · exact ⟨by decide, .inr ⟨[oneFrame, oneFrame], 7, twoFrames_equal, rfl,
          by decide, empty, idle⟩⟩
  | mqttSend => exact checked
  | fkz9Send =>
      have ready : link.isConnected = true ∧ ¬link.txQueue.Full :=
        of_decide_eq_true checked
      exact ready
  | connected | fkz9Poll => trivial
  | disconnected | tcpRead | cloudPoll | cloudSend | navTimer | txPoll
  | txWrite => cases checked

theorem forwarded_prefix_delivered_all : ∃ outputs link,
    (linkMachine exampleDevice).Reaches KeepsOrder outputs link ∧
      deliveredFrames outputs = [otherFrame, oneFrame, oneFrame] ∧
      forwardedFrames outputs = deliveredFrames outputs := by
  have computed : ((linkMachine exampleDevice).run keepsOrderCheck freshLink
      forwardedEvents).map (fun result =>
        (deliveredFrames result.2, decide (result.1.fkz9Queue.Empty),
          result.1.fkz9Handler, result.1.splitting)) =
      some ([otherFrame, oneFrame, oneFrame], true, none, none) := by
    decide +kernel
  obtain ⟨outputs, link, reached, result⟩ :=
    Machine.Reaches.of_run keepsOrderCheck_sound freshLink_initial computed
  obtain ⟨delivered, result⟩ := Prod.mk.inj result
  obtain ⟨empty, result⟩ := Prod.mk.inj result
  obtain ⟨idle, outside⟩ := Prod.mk.inj result
  exact ⟨outputs, link, reached, delivered,
    (forwarded_prefix_delivered reached).2 (of_decide_eq_true empty) idle
      outside⟩

/-- A single frame waits for the event thread while the callback sends the
first piece of the next payload. -/
def overtakingEvents : List LinkEvent :=
  [.connected, .mqttMessage otherFrame, .mqttMessage twoFrames, .mqttSend]

def overtakingOutputs : List LinkOutput :=
  [.delivered otherFrame, .delivered twoFrames,
    .queued .onMessageCb oneFrame]

theorem pieces_overtake_frame :
    (∃ link, (linkMachine exampleDevice).Reaches Machine.anyStep
        overtakingOutputs link) ∧
      ¬forwardedFrames overtakingOutputs <+:
        deliveredFrames overtakingOutputs := by
  constructor
  · have emitted : ((linkMachine exampleDevice).run (fun _ _ => true)
        freshLink overtakingEvents).map Prod.snd = some overtakingOutputs := by
      decide +kernel
    obtain ⟨outputs, link, reached, same⟩ :=
      Machine.Reaches.of_run (fun _ _ _ => trivial) freshLink_initial emitted
    rw [← same]
    exact ⟨link, reached⟩
  · decide

end RtA100
