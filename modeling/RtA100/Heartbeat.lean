import RtA100.Library.Topic
import RtA100.Link

/-!
# Heartbeats and the device's own publications

The device publishes its heartbeat requests and the cloud frames of three
groups, and it subscribes to two filters over the same address.  The heartbeat
topic is covered by one of the filters, so the broker returns heartbeats to the
device; `on_message_cb` drops them by their sign.  The group topics are covered
by neither.
-/

namespace RtA100

open Library

/-- The `HeartBeatDataSeg` filled by `heartbeat_req_task_cb`, which stores the
hour in `ucMinute` as well. -/
def heartbeatDataSeg (info : DevBaseInfo) (time : CustomTime) : List UInt8 :=
  littleEndianBytes (dbToBcd info.devAddr) ++
    [byteToBcd (time.usYear - 2000).toUInt8, byteToBcd time.ucMonth,
      byteToBcd time.ucDay, byteToBcd time.ucHour, byteToBcd time.ucHour,
      byteToBcd time.ucSecond] ++
    List.replicate 9 0

/-- The frame published by `heartbeat_req_task_cb`. -/
def heartbeatReq (info : DevBaseInfo) (time : CustomTime) :
    Option (List UInt8) :=
  sealFrame mqttMsgSignHeartbeatReq (heartbeatDataSeg info time)

def heartbeatTopic (devAddr : UInt16) : CString :=
  "fkz9/".toList ++ paddedDecimal 4 devAddr.toNat ++ "/5G/4G/15".toList

/-- The filter `fkz9/<address>/+/<receiver>/#`. -/
def subscription (receiver : CString) (devAddr : UInt16) : CString :=
  "fkz9/".toList ++ paddedDecimal 4 devAddr.toNat ++ "/+/".toList ++
    receiver ++ "/#".toList

/-- The two filters that `fkz9_timer_task_entry` subscribes to. -/
def subscriptions (devAddr : UInt16) : List CString :=
  [subscription "4G".toList devAddr, subscription "5G".toList devAddr]

structure Publication where
  topic : CString
  payload : List UInt8

/-- What the device publishes: heartbeat requests, and whatever one of the
three group handlers makes of its argument. -/
inductive OwnPublication (services : CloudServices) : Publication → Prop where
  | heartbeat (time : CustomTime) (payload : List UInt8) :
      heartbeatReq services.info time = some payload →
      OwnPublication services
        { topic := heartbeatTopic services.info.devAddr, payload }
  | can (arg : List UInt8) (result : HandlerResult) (topic : CString)
      (payload : List UInt8) :
      cloudToCanEntry services arg = some result →
      .publish topic payload ∈ result.actions →
      OwnPublication services { topic, payload }
  | conf (arg : List UInt8) (result : HandlerResult) (topic : CString)
      (payload : List UInt8) :
      cloudToConfEntry services arg = some result →
      .publish topic payload ∈ result.actions →
      OwnPublication services { topic, payload }
  | algorithms (arg : List UInt8) (result : HandlerResult) (topic : CString)
      (payload : List UInt8) :
      cloudToAlgorithmsEntry services arg = some result →
      .publish topic payload ∈ result.actions →
      OwnPublication services { topic, payload }

/-- The broker passes a publication on to the device when a subscription
covers its topic. -/
def brokerDeliver (devAddr : UInt16) (link : Link)
    (publication : Publication) : Option (Link × List LinkOutput) :=
  if (subscriptions devAddr).any (fun filter =>
      Topic.covers filter publication.topic) = true then
    onMessageCb link publication.payload
  else some (link, [])

/-! ## Topics -/

theorem slash_not_mem_toDigits (value : Nat) :
    '/' ∉ Nat.toDigits 16 value := by
  have digit : ∀ digit < 16, '/' ≠ Nat.digitChar digit := by decide
  induction value using Nat.strongRecOn with
  | ind value induction =>
      rw [Nat.toDigits_eq_if (by decide)]
      split
      · rename_i small
        simp [digit value small]
      · rename_i large
        simp only [List.mem_append, List.mem_singleton, not_or]
        exact ⟨induction _ (by omega), digit _ (by omega)⟩

theorem slash_not_mem_paddedDecimal (width value : Nat) :
    '/' ∉ paddedDecimal width value := by
  intro member
  exact absurd (paddedDecimal_isDigit member) (by decide)

theorem slash_not_mem_paddedHex (width value : Nat) :
    '/' ∉ paddedHex width value := by
  intro member
  rcases List.mem_append.mp member with padding | digits
  · exact absurd (List.mem_replicate.mp padding).2 (by decide)
  · exact slash_not_mem_toDigits value digits

/-- Every topic and filter of the device begins with `fkz9` and its address. -/
theorem address_levels (devAddr : UInt16) (rest : CString) :
    Topic.levels ("fkz9/".toList ++ paddedDecimal 4 devAddr.toNat ++
      '/' :: rest) =
      "fkz9".toList :: paddedDecimal 4 devAddr.toNat :: Topic.levels rest := by
  have first : "fkz9/".toList ++ paddedDecimal 4 devAddr.toNat ++
      '/' :: rest =
      "fkz9".toList ++
        '/' :: (paddedDecimal 4 devAddr.toNat ++ '/' :: rest) := by
    simp
  rw [first, Topic.levels_cons (by decide),
    Topic.levels_cons (slash_not_mem_paddedDecimal _ _)]

theorem group_split (address group sign : CString) :
    "fkz9/".toList ++ address ++ "/4G/".toList ++ group ++ "/".toList ++
        sign =
      "fkz9/".toList ++ address ++
        '/' :: ("4G".toList ++ '/' :: (group ++ '/' :: sign)) := by
  simp

theorem filter_split (address receiver : CString) :
    "fkz9/".toList ++ address ++ "/+/".toList ++ receiver ++ "/#".toList =
      "fkz9/".toList ++ address ++
        '/' :: (Topic.singleLevel ++
          '/' :: (receiver ++ '/' :: Topic.multiLevel)) := by
  simp [Topic.singleLevel, Topic.multiLevel]

theorem groupTopic_levels {group : CString} (plain : '/' ∉ group)
    (devAddr : UInt16) (ucSign : UInt8) :
    Topic.levels (groupTopic group devAddr ucSign) =
      ["fkz9".toList, paddedDecimal 4 devAddr.toNat, "4G".toList, group,
        paddedHex 2 ucSign.toNat] := by
  unfold groupTopic
  rw [group_split, address_levels, Topic.levels_cons (by decide),
    Topic.levels_cons plain, Topic.levels_last (slash_not_mem_paddedHex _ _)]

theorem subscription_levels {receiver : CString} (plain : '/' ∉ receiver)
    (devAddr : UInt16) :
    Topic.levels (subscription receiver devAddr) =
      ["fkz9".toList, paddedDecimal 4 devAddr.toNat, Topic.singleLevel,
        receiver, Topic.multiLevel] := by
  unfold subscription
  rw [filter_split, address_levels, Topic.levels_cons (by decide),
    Topic.levels_cons plain, Topic.levels_last (by decide)]

theorem paddedDecimal_ne {width value : Nat} {character : Char}
    (notDigit : character.isDigit = false) :
    paddedDecimal width value ≠ [character] := by
  intro same
  have member : character ∈ paddedDecimal width value := by
    rw [same]
    exact List.mem_singleton_self character
  rw [paddedDecimal_isDigit member] at notDigit
  cases notDigit

/-- A subscription tests the fourth level of a topic. -/
theorem subscription_covers {receiver topic second third fourth : CString}
    {rest : List CString} {devAddr : UInt16} (plain : '/' ∉ receiver)
    (notSingle : receiver ≠ Topic.singleLevel)
    (notMulti : receiver ≠ Topic.multiLevel)
    (topicLevels : Topic.levels topic =
      "fkz9".toList :: second :: third :: fourth :: rest)
    (covered : Topic.covers (subscription receiver devAddr) topic = true) :
    fourth = receiver := by
  have first : "fkz9".toList ≠ Topic.singleLevel := by decide
  have first' : "fkz9".toList ≠ Topic.multiLevel := by decide
  unfold Topic.covers at covered
  split at covered
  · cases covered
  · rw [subscription_levels plain, topicLevels,
      Topic.levelsMatch_plain first first',
      Topic.levelsMatch_plain (paddedDecimal_ne (by decide))
        (paddedDecimal_ne (by decide)),
      Topic.levelsMatch_single,
      Topic.levelsMatch_plain notSingle notMulti] at covered
    simp only [Bool.and_eq_true, beq_iff_eq] at covered
    exact covered.2.2.1.symm

/-- The device is subscribed to none of the group topics. -/
theorem groupTopic_not_covered {group : CString} (plain : '/' ∉ group)
    (no4G : group ≠ "4G".toList) (no5G : group ≠ "5G".toList)
    (devAddr : UInt16) (ucSign : UInt8) :
    (subscriptions devAddr).any (fun filter =>
      Topic.covers filter (groupTopic group devAddr ucSign)) = false := by
  have topicLevels := groupTopic_levels plain devAddr ucSign
  have not4G : ¬Topic.covers (subscription "4G".toList devAddr)
      (groupTopic group devAddr ucSign) = true := fun covered =>
    no4G (subscription_covers (by decide) (by decide) (by decide)
      topicLevels covered)
  have not5G : ¬Topic.covers (subscription "5G".toList devAddr)
      (groupTopic group devAddr ucSign) = true := fun covered =>
    no5G (subscription_covers (by decide) (by decide) (by decide)
      topicLevels covered)
  rw [Bool.not_eq_true] at not4G not5G
  rw [subscriptions, List.any_cons, List.any_cons, not4G, not5G]
  rfl

/-! ## Publications -/

theorem heartbeatDataSeg_length (info : DevBaseInfo) (time : CustomTime) :
    (heartbeatDataSeg info time).length = 17 := by
  simp [heartbeatDataSeg, littleEndianBytes]

theorem heartbeatReq_wellFormed (info : DevBaseInfo) (time : CustomTime) :
    ∃ frame, heartbeatReq info time = some frame ∧ WellFormed frame ∧
      frame.length = 24 ∧ signOf frame = mqttMsgSignHeartbeatReq := by
  have length := heartbeatDataSeg_length info time
  obtain ⟨frame, built, formed, size, sign⟩ := sealFrame_wellFormed
    mqttMsgSignHeartbeatReq (heartbeatDataSeg info time) (by omega)
  exact ⟨frame, built, formed, by omega, sign⟩

theorem group_publication {group : CString} {services : CloudServices}
    {arg : List UInt8} {result : HandlerResult} {topic : CString}
    {payload : List UInt8}
    (handled : cloudToGroupEntry group services arg = some result)
    (published : .publish topic payload ∈ result.actions) :
    ∃ ucSign, topic = groupTopic group services.info.devAddr ucSign := by
  simp only [cloudToGroupEntry, Option.bind_eq_bind,
    Option.bind_eq_some_iff, Option.some.injEq] at handled
  obtain ⟨pHdr, _, content, _, rfl⟩ := handled
  obtain ⟨sameTopic, _⟩ :=
    CloudAction.publish.inj (List.mem_singleton.mp published)
  exact ⟨pHdr.ucSign, sameTopic⟩

/-- A heartbeat request that comes back leaves the link as it was. -/
theorem onMessageCb_heartbeat {link : Link} {payload : List UInt8}
    (free : link.splitting = none) (long : 5 ≤ payload.length)
    (sign : signOf payload = mqttMsgSignHeartbeatReq) :
    onMessageCb link payload = some (link, [.delivered payload]) := by
  obtain ⟨pHdr, headerRead, _, _, signValue⟩ :=
    MsgFramHdr.read_of_length long
  unfold onMessageCb
  rw [if_neg (by simp [free]), headerRead]
  simp [signValue, sign]

/-- What a publication of the device is: a heartbeat request under its topic,
or anything under a group topic. -/
theorem OwnPublication.shape {services : CloudServices}
    {publication : Publication}
    (own : OwnPublication services publication) :
    (5 ≤ publication.payload.length ∧
      signOf publication.payload = mqttMsgSignHeartbeatReq ∧
      publication.topic = heartbeatTopic services.info.devAddr) ∨
    ∃ (group : CString) (ucSign : UInt8), '/' ∉ group ∧
      group ≠ "4G".toList ∧ group ≠ "5G".toList ∧ group.length ≤ 10 ∧
      publication.topic = groupTopic group services.info.devAddr ucSign := by
  cases own with
  | heartbeat time payload built =>
      left
      obtain ⟨frame, result, _, length, sign⟩ :=
        heartbeatReq_wellFormed services.info time
      rw [built, Option.some.injEq] at result
      subst result
      have long : 5 ≤ payload.length := by omega
      exact ⟨long, sign, rfl⟩
  | can arg result topic payload handled published =>
      right
      obtain ⟨ucSign, same⟩ := group_publication handled published
      exact ⟨_, ucSign, by decide, by decide, by decide, by decide, same⟩
  | conf arg result topic payload handled published =>
      right
      obtain ⟨ucSign, same⟩ := group_publication handled published
      exact ⟨_, ucSign, by decide, by decide, by decide, by decide, same⟩
  | algorithms arg result topic payload handled published =>
      right
      obtain ⟨ucSign, same⟩ := group_publication handled published
      exact ⟨_, ucSign, by decide, by decide, by decide, by decide, same⟩

/-- No `snprintf` cuts a topic of the device off. -/
theorem OwnPublication.topic_fits {services : CloudServices}
    {publication : Publication}
    (own : OwnPublication services publication) :
    publication.topic.length < 50 := by
  have address : (paddedDecimal 4 services.info.devAddr.toNat).length ≤ 5 := by
    have bound := services.info.devAddr.toNat_lt
    have digits : (decimal services.info.devAddr.toNat).length ≤ 5 :=
      (Nat.length_toDigits_le_iff (by decide) (by decide)).mpr (by omega)
    simp only [paddedDecimal, padZeros, List.length_append,
      List.length_replicate]
    omega
  rcases own.shape with ⟨_, _, topic⟩ | ⟨group, ucSign, _, _, _, short, topic⟩
  · rw [topic]
    unfold heartbeatTopic
    simp only [List.length_append]
    have ends : "/5G/4G/15".toList.length = 9 := by decide
    have first : "fkz9/".toList.length = 5 := by decide
    omega
  · have sign : (paddedHex 2 ucSign.toNat).length ≤ 2 := by
      have bound := ucSign.toNat_lt
      have digits : (Nat.toDigits 16 ucSign.toNat).length ≤ 2 :=
        (Nat.length_toDigits_le_iff (by decide) (by decide)).mpr (by omega)
      simp only [paddedHex, padZeros, List.length_append,
        List.length_replicate]
      omega
    rw [topic]
    unfold groupTopic
    simp only [List.length_append]
    have first : "fkz9/".toList.length = 5 := by decide
    have sender : "/4G/".toList.length = 4 := by decide
    have slash : "/".toList.length = 1 := by decide
    omega

/-- Heartbeat requests do come back: the first subscription covers them. -/
theorem heartbeatTopic_covered (devAddr : UInt16) :
    Topic.covers (subscription "4G".toList devAddr)
      (heartbeatTopic devAddr) = true := by
  have topicLevels : Topic.levels (heartbeatTopic devAddr) =
      ["fkz9".toList, paddedDecimal 4 devAddr.toNat, "5G".toList,
        "4G".toList, "15".toList] := by
    have split : "/5G/4G/15".toList =
        '/' :: ("5G".toList ++ '/' :: ("4G".toList ++ '/' :: "15".toList)) := by
      decide
    unfold heartbeatTopic
    rw [split, address_levels, Topic.levels_cons (by decide),
      Topic.levels_cons (by decide), Topic.levels_last (by decide)]
  have notReserved : (heartbeatTopic devAddr).head? ≠ some '$' := by
    unfold heartbeatTopic
    simp
  unfold Topic.covers
  rw [if_neg (fun reserved => notReserved reserved.1),
    subscription_levels (by decide), topicLevels,
    Topic.levelsMatch_plain (by decide) (by decide),
    Topic.levelsMatch_plain (paddedDecimal_ne (by decide))
      (paddedDecimal_ne (by decide)),
    Topic.levelsMatch_single,
    Topic.levelsMatch_plain (by decide) (by decide)]
  simp only [beq_self_eq_true, Bool.true_and]
  decide

theorem brokerDeliver_uncovered {devAddr : UInt16} {link : Link}
    {publication : Publication}
    (uncovered : (subscriptions devAddr).any (fun filter =>
      Topic.covers filter publication.topic) = false) :
    brokerDeliver devAddr link publication = some (link, []) := by
  unfold brokerDeliver
  rw [uncovered]
  rfl

/-- Whatever the device publishes, the delivery that its own subscriptions
cause changes neither `event_queue` nor anything else of the link. -/
theorem no_self_echo {services : CloudServices} {publication : Publication}
    (own : OwnPublication services publication) (link : Link) :
    (∀ following outputs,
      brokerDeliver services.info.devAddr link publication =
        some (following, outputs) →
      following = link ∧
        (outputs = [] ∨ outputs = [.delivered publication.payload])) ∧
    (link.splitting = none →
      ∃ outputs, brokerDeliver services.info.devAddr link publication =
        some (link, outputs)) := by
  by_cases covered : (subscriptions services.info.devAddr).any
      (fun filter => Topic.covers filter publication.topic) = true
  · rcases own.shape with ⟨long, sign, _⟩ |
      ⟨group, ucSign, plain, no4G, no5G, _, topic⟩
    · unfold brokerDeliver
      rw [if_pos covered]
      constructor
      · intro following outputs handled
        have free : link.splitting = none := by
          unfold onMessageCb at handled
          split at handled
          · cases handled
          · rename_i free
            simpa using free
        rw [onMessageCb_heartbeat free long sign] at handled
        obtain ⟨rfl, rfl⟩ := Prod.mk.inj (Option.some.inj handled)
        exact ⟨rfl, .inr rfl⟩
      · intro free
        exact ⟨_, onMessageCb_heartbeat free long sign⟩
    · rw [topic, groupTopic_not_covered plain no4G no5G] at covered
      cases covered
  · have ignored := @brokerDeliver_uncovered _ link publication
      (Bool.not_eq_true _ ▸ covered)
    constructor
    · intro following outputs handled
      rw [ignored] at handled
      obtain ⟨rfl, rfl⟩ := Prod.mk.inj (Option.some.inj handled)
      exact ⟨rfl, .inl rfl⟩
    · intro _
      exact ⟨[], ignored⟩

theorem no_self_echo_heartbeat :
    ∃ payload,
      heartbeatReq exampleServices.info exampleServices.time =
        some payload ∧
      (∀ following outputs,
        brokerDeliver exampleServices.info.devAddr freshLink
            { topic := heartbeatTopic exampleServices.info.devAddr
              payload } =
          some (following, outputs) →
        following = freshLink ∧
          (outputs = [] ∨ outputs = [.delivered payload])) ∧
      (freshLink.splitting = none →
        ∃ outputs, brokerDeliver exampleServices.info.devAddr freshLink
            { topic := heartbeatTopic exampleServices.info.devAddr
              payload } =
          some (freshLink, outputs)) := by
  obtain ⟨payload, built, _⟩ :=
    heartbeatReq_wellFormed exampleServices.info exampleServices.time
  exact ⟨payload, built, no_self_echo (.heartbeat _ payload built) freshLink⟩

end RtA100
