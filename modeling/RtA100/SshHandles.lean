/-!
# The SFTP sessions of one SSH client

`sessions` lists every session that `sftp_new` has created, with what has
happened to it; `sftp` is the pointer that the client keeps.
`SSHClient_Connect` leaves the pointer of a session that it has freed in place
when `sftp_init` fails, and overwrites the pointer when it is called again on a
connected client.
-/

namespace RtA100

/-- What has happened to a session that `sftp_new` created. -/
inductive SftpSession where
  | live
  | freed
  | misused
deriving DecidableEq

/-- A call that takes the session. -/
def SftpSession.use : SftpSession → SftpSession
  | .live => .live
  | _ => .misused

/-- `sftp_free` -/
def SftpSession.free : SftpSession → SftpSession
  | .live => .freed
  | _ => .misused

/-- `struct st_SSHClient`, beside the sessions created so far. -/
structure SshClient where
  sftp : Option Nat
  sessions : List SftpSession
deriving DecidableEq

/-- `SSHClient_Init` -/
def sshClientInit : SshClient :=
  { sftp := none
    sessions := [] }

def SshClient.onSftp (client : SshClient)
    (action : SftpSession → SftpSession) : SshClient :=
  match client.sftp with
  | none => client
  | some handle =>
      { client with sessions := client.sessions.modify handle action }

/-- How `ssh_connect`, `ssh_userauth_password`, `sftp_new` and `sftp_init` end,
as far as they are reached. -/
structure ConnectOutcome where
  sshConnect : Bool
  userauth : Bool
  sftpNew : Bool
  sftpInit : Bool
deriving DecidableEq

/-- `SSHClient_Connect` -/
def sshClientConnect (outcome : ConnectOutcome) (client : SshClient) :
    SshClient × Int :=
  if outcome.sshConnect = false then (client, -1)
  else if outcome.userauth = false then (client, -1)
  else if outcome.sftpNew = false then ({ client with sftp := none }, -1)
  else
    let client : SshClient :=
      { sftp := some client.sessions.length
        sessions := client.sessions ++ [.live] }
    let client := client.onSftp SftpSession.use
    if outcome.sftpInit = false then (client.onSftp SftpSession.free, -1)
    else (client, 0)

/-- `SSHClient_Disconnect` -/
def sshClientDisconnect (client : SshClient) : SshClient :=
  { client.onSftp SftpSession.free with sftp := none }

/-- `SSHClient_Destroy` -/
def sshClientDestroy (client : SshClient) : SshClient :=
  client.onSftp SftpSession.free

/-- The calls on a client after its connection.  An upload whose local file does
not open returns before it looks at the session. -/
inductive SshUse where
  | execute
  | uploadFile (localOpens : Bool)
  | downloadFile
  | disconnect

def sshClientUse (client : SshClient) : SshUse → SshClient
  | .execute => client
  | .uploadFile localOpens =>
      if localOpens = true then client.onSftp SftpSession.use else client
  | .downloadFile => client.onSftp SftpSession.use
  | .disconnect => sshClientDisconnect client

def sshConnects (client : SshClient) (attempts : List ConnectOutcome) :
    SshClient :=
  attempts.foldl (fun client outcome => (sshClientConnect outcome client).1)
    client

/-- The life of a client from `SSHClient_Init` to `SSHClient_Destroy`. -/
def sshLifetime (attempts : List ConnectOutcome) (uses : List SshUse) :
    SshClient :=
  sshClientDestroy (uses.foldl sshClientUse
    (sshConnects sshClientInit attempts))

/-- Every session has been freed once, and neither used nor freed after. -/
def ReleasedOnce (client : SshClient) : Prop :=
  ∀ session ∈ client.sessions, session = .freed

instance (client : SshClient) : Decidable (ReleasedOnce client) :=
  inferInstanceAs (Decidable (∀ session ∈ client.sessions, session = .freed))

/-- The pointer that a client keeps: null, of its live session, or of a session
that has been freed. -/
inductive SftpPointer where
  | null
  | owned
  | dangling
deriving DecidableEq

/-- The pointer that an attempt leaves, if it comes as far as `sftp_new`. -/
def ConnectOutcome.pointer (outcome : ConnectOutcome) : Option SftpPointer :=
  if outcome.sshConnect = true ∧ outcome.userauth = true then
    if outcome.sftpNew = false then some .null
    else if outcome.sftpInit = false then some .dangling
    else some .owned
  else none

def connectPointers (attempts : List ConnectOutcome) : List SftpPointer :=
  attempts.filterMap ConnectOutcome.pointer

/-- No attempt comes as far as `sftp_new` on a connected client, and the last
one that comes so far does not fail in `sftp_init`. -/
def ConnectsCleanly (attempts : List ConnectOutcome) : Prop :=
  .owned ∉ (connectPointers attempts).dropLast ∧
    (connectPointers attempts).getLast? ≠ some .dangling

/-! ## What the calls keep -/

/-- The client keeps a pointer of this kind, and every other session is
released. -/
inductive Stands : SftpPointer → SshClient → Prop where
  | null {sessions : List SftpSession}
      (released : ∀ session ∈ sessions, session = .freed) :
      Stands .null { sftp := none, sessions }
  | owned {sessions : List SftpSession}
      (released : ∀ session ∈ sessions, session = .freed) :
      Stands .owned
        { sftp := some sessions.length, sessions := sessions ++ [.live] }
  | dangling {sessions : List SftpSession}
      (released : ∀ session ∈ sessions, session = .freed) :
      Stands .dangling
        { sftp := some sessions.length, sessions := sessions ++ [.freed] }

/-- A live session that the client has no pointer of. -/
def Leaks (client : SshClient) : Prop :=
  ∃ handle, client.sessions[handle]? = some .live ∧
    client.sftp ≠ some handle

/-- The client has misused a session, or will when it is destroyed. -/
def Misuses (client : SshClient) : Prop :=
  .misused ∈ client.sessions ∨
    ∃ handle, client.sftp = some handle ∧
      client.sessions[handle]? = some .freed

theorem modify_last (sessions : List SftpSession) (session : SftpSession)
    (action : SftpSession → SftpSession) :
    (sessions ++ [session]).modify sessions.length action =
      sessions ++ [action session] := by
  induction sessions with
  | nil => rfl
  | cons first sessions induction =>
      rw [List.cons_append, List.length_cons, List.modify_succ_cons, induction]
      rfl

theorem released_snoc {sessions : List SftpSession}
    (released : ∀ session ∈ sessions, session = .freed) :
    ∀ session ∈ sessions ++ [.freed], session = .freed := by
  intro session member
  cases List.mem_append.mp member with
  | inl earlier => exact released session earlier
  | inr last => exact List.mem_singleton.mp last

theorem onSftp_sftp (client : SshClient)
    (action : SftpSession → SftpSession) :
    (client.onSftp action).sftp = client.sftp := by
  unfold SshClient.onSftp
  split
  · rfl
  · rfl

/-- A session without a pointer stays as it is. -/
theorem Leaks.onSftp {client : SshClient} (leaks : Leaks client)
    (action : SftpSession → SftpSession) : Leaks (client.onSftp action) := by
  obtain ⟨handle, live, lost⟩ := leaks
  refine ⟨handle, ?_, by rw [onSftp_sftp]; exact lost⟩
  unfold SshClient.onSftp
  split
  · exact live
  · rename_i kept pointer
    have other : kept ≠ handle := by
      intro same
      rw [same] at pointer
      exact lost pointer
    rw [List.getElem?_modify_ne _ _ other]
    exact live

theorem misused_modify {sessions : List SftpSession}
    {action : SftpSession → SftpSession} (keeps : action .misused = .misused)
    (handle : Nat) (misused : .misused ∈ sessions) :
    .misused ∈ sessions.modify handle action := by
  obtain ⟨place, found⟩ := List.mem_iff_getElem?.mp misused
  refine List.mem_iff_getElem?.mpr ⟨place, ?_⟩
  rw [List.getElem?_modify, found]
  split
  · exact congrArg some keeps
  · rfl

theorem modify_misused {sessions : List SftpSession}
    {action : SftpSession → SftpSession} (breaks : action .freed = .misused)
    {handle : Nat} (freed : sessions[handle]? = some .freed) :
    .misused ∈ sessions.modify handle action := by
  refine List.mem_iff_getElem?.mpr ⟨handle, ?_⟩
  rw [List.getElem?_modify_eq, freed]
  exact congrArg some breaks

/-- A call with a pointer that dangles misuses the session. -/
theorem Misuses.onSftp {client : SshClient} (misuses : Misuses client)
    {action : SftpSession → SftpSession} (keeps : action .misused = .misused)
    (breaks : action .freed = .misused) :
    .misused ∈ (client.onSftp action).sessions := by
  unfold SshClient.onSftp
  cases misuses with
  | inl already =>
      split
      · exact already
      · exact misused_modify keeps _ already
  | inr dangles =>
      obtain ⟨handle, pointer, freed⟩ := dangles
      rw [pointer]
      exact modify_misused breaks freed

theorem not_released_of_leaks {client : SshClient} (leaks : Leaks client) :
    ¬ReleasedOnce client := by
  intro released
  obtain ⟨handle, live, _⟩ := leaks
  have freed := released .live (List.mem_of_getElem? live)
  cases freed

theorem not_released_of_misused {client : SshClient}
    (misused : .misused ∈ client.sessions) : ¬ReleasedOnce client := by
  intro released
  have freed := released .misused misused
  cases freed

/-! ## The attempts -/

/-- What an attempt does, by how far it comes. -/
theorem sshClientConnect_cases (outcome : ConnectOutcome)
    (client : SshClient) :
    (outcome.pointer = none ∧ (sshClientConnect outcome client).1 = client) ∨
      (outcome.pointer = some .null ∧
        (sshClientConnect outcome client).1 = { client with sftp := none }) ∨
      (outcome.pointer = some .owned ∧
        (sshClientConnect outcome client).1 =
          { sftp := some client.sessions.length
            sessions := client.sessions ++ [.live] }) ∨
      (outcome.pointer = some .dangling ∧
        (sshClientConnect outcome client).1 =
          { sftp := some client.sessions.length
            sessions := client.sessions ++ [.freed] }) := by
  obtain ⟨sshConnect, userauth, sftpNew, sftpInit⟩ := outcome
  cases sshConnect <;> cases userauth <;> cases sftpNew <;> cases sftpInit <;>
    simp [ConnectOutcome.pointer, sshClientConnect, SshClient.onSftp,
      modify_last, SftpSession.use, SftpSession.free]

theorem sshClientConnect_unreached {outcome : ConnectOutcome}
    {client : SshClient} (unreached : outcome.pointer = none) :
    (sshClientConnect outcome client).1 = client := by
  rcases sshClientConnect_cases outcome client with
    ⟨_, result⟩ | ⟨other, _⟩ | ⟨other, _⟩ | ⟨other, _⟩
  · exact result
  · rw [unreached] at other
    cases other
  · rw [unreached] at other
    cases other
  · rw [unreached] at other
    cases other

/-- An attempt that comes as far as `sftp_new` loses every live session. -/
theorem leaks_of_live {client : SshClient} {handle : Nat}
    (live : client.sessions[handle]? = some .live)
    {outcome : ConnectOutcome} {pointer : SftpPointer}
    (reaches : outcome.pointer = some pointer) :
    Leaks (sshClientConnect outcome client).1 := by
  have inside : handle < client.sessions.length :=
    (List.getElem?_eq_some_iff.mp live).1
  have stays (session : SftpSession) :
      (client.sessions ++ [session])[handle]? = some .live := by
    rw [List.getElem?_append_left inside, live]
  have elsewhere : some client.sessions.length ≠ some handle := by
    intro same
    have equal := Option.some.inj same
    omega
  rcases sshClientConnect_cases outcome client with
    ⟨unreached, _⟩ | ⟨_, result⟩ | ⟨_, result⟩ | ⟨_, result⟩
  · rw [unreached] at reaches
    cases reaches
  · rw [result]
    exact ⟨handle, live, nofun⟩
  · rw [result]
    exact ⟨handle, stays .live, elsewhere⟩
  · rw [result]
    exact ⟨handle, stays .freed, elsewhere⟩

theorem Leaks.connect {client : SshClient} (leaks : Leaks client)
    (outcome : ConnectOutcome) :
    Leaks (sshClientConnect outcome client).1 := by
  cases reaches : outcome.pointer with
  | none =>
      rw [sshClientConnect_unreached reaches]
      exact leaks
  | some pointer =>
      obtain ⟨handle, live, _⟩ := leaks
      exact leaks_of_live live reaches

theorem Leaks.connects {client : SshClient} (leaks : Leaks client)
    (attempts : List ConnectOutcome) : Leaks (sshConnects client attempts) := by
  induction attempts generalizing client with
  | nil => exact leaks
  | cons outcome attempts induction => exact induction (leaks.connect outcome)

theorem Stands.connect_owned {client : SshClient}
    (stands : Stands .owned client) {outcome : ConnectOutcome}
    {pointer : SftpPointer} (reaches : outcome.pointer = some pointer) :
    Leaks (sshClientConnect outcome client).1 := by
  cases stands with
  | @owned sessions released =>
      have live : (sessions ++ [.live])[sessions.length]? =
          some SftpSession.live := by simp
      exact leaks_of_live live reaches

/-- Without a session of its own the client stands as the attempt leaves it. -/
theorem Stands.connect_free {client : SshClient} {before : SftpPointer}
    (stands : Stands before client) (free : before ≠ .owned)
    {outcome : ConnectOutcome} {pointer : SftpPointer}
    (reaches : outcome.pointer = some pointer) :
    Stands pointer (sshClientConnect outcome client).1 := by
  have released : ∀ session ∈ client.sessions, session = .freed := by
    cases stands with
    | null released => exact released
    | owned _ => exact absurd rfl free
    | dangling released => exact released_snoc released
  rcases sshClientConnect_cases outcome client with
    ⟨same, result⟩ | ⟨same, result⟩ | ⟨same, result⟩ | ⟨same, result⟩
  · rw [same] at reaches
    cases reaches
  · rw [same] at reaches
    cases reaches
    rw [result]
    exact .null released
  · rw [same] at reaches
    cases reaches
    rw [result]
    exact .owned released
  · rw [same] at reaches
    cases reaches
    rw [result]
    exact .dangling released

/-- The attempts leave the pointer of the last one that comes as far as
`sftp_new`, unless one of them meets a connected client. -/
theorem Stands.connects {client : SshClient} {before : SftpPointer}
    (stands : Stands before client) (attempts : List ConnectOutcome) :
    (.owned ∈ (before :: connectPointers attempts).dropLast →
        Leaks (sshConnects client attempts)) ∧
      (.owned ∉ (before :: connectPointers attempts).dropLast →
        ∃ last,
          (before :: connectPointers attempts).getLast? = some last ∧
            Stands last (sshConnects client attempts)) := by
  induction attempts generalizing client before with
  | nil => exact ⟨nofun, fun _ => ⟨before, rfl, stands⟩⟩
  | cons outcome attempts induction =>
      cases reaches : outcome.pointer with
      | none =>
          have skipped : connectPointers (outcome :: attempts) =
              connectPointers attempts :=
            List.filterMap_cons_none reaches
          rw [skipped, sshConnects, List.foldl_cons,
            sshClientConnect_unreached reaches]
          exact induction stands
      | some pointer =>
          have taken : connectPointers (outcome :: attempts) =
              pointer :: connectPointers attempts :=
            List.filterMap_cons_some reaches
          rw [taken, List.dropLast_cons_cons, List.getLast?_cons_cons,
            sshConnects, List.foldl_cons]
          by_cases owned : before = .owned
          · subst owned
            have leaks := stands.connect_owned reaches
            exact ⟨fun _ => leaks.connects attempts,
              fun free => absurd List.mem_cons_self free⟩
          · obtain ⟨lost, kept⟩ :=
              induction (stands.connect_free owned reaches)
            rw [List.mem_cons, or_iff_right (Ne.symm owned)]
            exact ⟨lost, kept⟩

theorem sshClientConnect_zero_iff (outcome : ConnectOutcome)
    (client : SshClient) :
    (sshClientConnect outcome client).2 = 0 ↔
      outcome.pointer = some .owned := by
  obtain ⟨sshConnect, userauth, sftpNew, sftpInit⟩ := outcome
  cases sshConnect <;> cases userauth <;> cases sftpNew <;> cases sftpInit <;>
    simp [ConnectOutcome.pointer, sshClientConnect]

/-- The loop of `init_updater_environment`, with so many tries left. -/
def updaterConnect : Nat → SshClient → List ConnectOutcome → SshClient
  | 0, client, _ => client
  | _ + 1, client, [] => client
  | tries + 1, client, outcome :: outcomes =>
      let (client, ret) := sshClientConnect outcome client
      if ret = 0 then client else updaterConnect tries client outcomes

/-- The loop stops at the first attempt that succeeds, so it loses no session;
it may still leave a pointer of a freed one. -/
theorem updaterConnect_stands (tries : Nat) {client : SshClient}
    {before : SftpPointer} (stands : Stands before client)
    (free : before ≠ .owned) (outcomes : List ConnectOutcome) :
    ∃ pointer, Stands pointer (updaterConnect tries client outcomes) := by
  induction tries generalizing client before outcomes with
  | zero => exact ⟨before, stands⟩
  | succ tries induction =>
      cases outcomes with
      | nil => exact ⟨before, stands⟩
      | cons outcome outcomes =>
          have success := sshClientConnect_zero_iff outcome client
          simp only [updaterConnect]
          by_cases succeeded : outcome.pointer = some .owned
          · rw [if_pos (success.mpr succeeded)]
            exact ⟨.owned, stands.connect_free free succeeded⟩
          · rw [if_neg (mt success.mp succeeded)]
            cases reaches : outcome.pointer with
            | none =>
                rw [sshClientConnect_unreached reaches]
                exact induction stands free outcomes
            | some pointer =>
                have notOwned : pointer ≠ .owned := by
                  intro same
                  rw [reaches, same] at succeeded
                  exact succeeded rfl
                have after := stands.connect_free free reaches
                exact induction after notOwned outcomes

/-! ## The uses and the end -/

/-- What a use of the session and a disconnection keep, all uses keep. -/
theorem uses_keep {holds : SshClient → Prop}
    (used : ∀ client, holds client → holds (client.onSftp SftpSession.use))
    (disconnected : ∀ client, holds client →
      holds (sshClientDisconnect client))
    {client : SshClient} (initially : holds client) (uses : List SshUse) :
    holds (uses.foldl sshClientUse client) := by
  induction uses generalizing client with
  | nil => exact initially
  | cons use uses induction =>
      apply induction
      cases use with
      | execute => exact initially
      | uploadFile localOpens =>
          cases localOpens with
          | false => exact initially
          | true => exact used client initially
      | downloadFile => exact used client initially
      | disconnect => exact disconnected client initially

theorem Leaks.uses {client : SshClient} (leaks : Leaks client)
    (uses : List SshUse) : Leaks (uses.foldl sshClientUse client) := by
  refine uses_keep (fun _ leaks => leaks.onSftp _) ?_ leaks uses
  intro client leaks
  obtain ⟨handle, live, _⟩ := leaks.onSftp SftpSession.free
  exact ⟨handle, live, nofun⟩

theorem Misuses.uses {client : SshClient} (misuses : Misuses client)
    (uses : List SshUse) : Misuses (uses.foldl sshClientUse client) := by
  refine uses_keep (fun _ misuses => .inl (misuses.onSftp rfl rfl)) ?_ misuses
    uses
  intro client misuses
  have misused : .misused ∈ (client.onSftp SftpSession.free).sessions :=
    misuses.onSftp rfl rfl
  exact .inl misused

theorem Stands.misuses {client : SshClient}
    (stands : Stands .dangling client) : Misuses client := by
  cases stands with
  | @dangling sessions released =>
      exact Or.inr ⟨sessions.length, rfl, by simp⟩

/-- A client that owns at most its live session. -/
def Sound (client : SshClient) : Prop :=
  Stands .null client ∨ Stands .owned client

theorem Stands.onSftp_use {client : SshClient}
    (stands : Stands .owned client) :
    client.onSftp SftpSession.use = client := by
  cases stands with
  | owned released => simp [SshClient.onSftp, modify_last, SftpSession.use]

theorem Stands.onSftp_free {client : SshClient}
    (stands : Stands .owned client) :
    ReleasedOnce (client.onSftp SftpSession.free) := by
  cases stands with
  | @owned sessions released =>
      have freed : (SshClient.onSftp { sftp := some sessions.length
                                       sessions := sessions ++ [.live] }
          SftpSession.free).sessions = sessions ++ [.freed] :=
        modify_last sessions .live SftpSession.free
      intro session member
      rw [freed] at member
      exact released_snoc released session member

theorem Sound.onSftp_use {client : SshClient} (sound : Sound client) :
    client.onSftp SftpSession.use = client := by
  cases sound with
  | inl null =>
      cases null with
      | null released => rfl
  | inr owned => exact owned.onSftp_use

theorem Sound.released {client : SshClient} (sound : Sound client) :
    ReleasedOnce (client.onSftp SftpSession.free) := by
  cases sound with
  | inl null =>
      cases null with
      | null released => exact released
  | inr owned => exact owned.onSftp_free

theorem Sound.uses {client : SshClient} (sound : Sound client)
    (uses : List SshUse) : Sound (uses.foldl sshClientUse client) := by
  refine uses_keep ?_ (fun _ sound => .inl (.null sound.released)) sound uses
  intro client sound
  rw [sound.onSftp_use]
  exact sound

/-- Every SFTP session is released once exactly when no attempt comes as far as
`sftp_new` on a connected client and the last one that does so does not fail in
`sftp_init`. -/
theorem sshLifetime_releasedOnce_iff (attempts : List ConnectOutcome)
    (uses : List SshUse) :
    ReleasedOnce (sshLifetime attempts uses) ↔ ConnectsCleanly attempts := by
  have start : Stands .null sshClientInit := .null nofun
  obtain ⟨lost, kept⟩ := start.connects attempts
  have sameOwned :
      .owned ∈ (SftpPointer.null :: connectPointers attempts).dropLast ↔
        .owned ∈ (connectPointers attempts).dropLast := by
    cases connectPointers attempts with
    | nil => simp
    | cons first rest => simp
  have sameLast :
      (SftpPointer.null :: connectPointers attempts).getLast? =
          some .dangling ↔
        (connectPointers attempts).getLast? = some .dangling := by
    cases connectPointers attempts with
    | nil => simp
    | cons first rest => rw [List.getLast?_cons_cons]
  unfold ConnectsCleanly
  rw [← sameOwned, Ne, ← sameLast]
  by_cases leaked :
      .owned ∈ (SftpPointer.null :: connectPointers attempts).dropLast
  · have leaks := ((lost leaked).uses uses).onSftp SftpSession.free
    exact iff_of_false (not_released_of_leaks leaks)
      fun clean => clean.1 leaked
  · obtain ⟨last, isLast, stands⟩ := kept leaked
    rw [isLast]
    cases last with
    | null =>
        have sound := Sound.uses (.inl stands) uses
        exact iff_of_true sound.released ⟨leaked, nofun⟩
    | owned =>
        have sound := Sound.uses (.inr stands) uses
        exact iff_of_true sound.released ⟨leaked, nofun⟩
    | dangling =>
        have misused : .misused ∈ (sshLifetime attempts uses).sessions :=
          (stands.misuses.uses uses).onSftp rfl rfl
        exact iff_of_false (not_released_of_misused misused)
          fun clean => clean.2 rfl

/-- The connection stands, but `sftp_init` fails. -/
def sftpInitFails : ConnectOutcome :=
  { sshConnect := true
    userauth := true
    sftpNew := true
    sftpInit := false }

theorem sftpInitFails_frees_twice :
    ¬∀ (attempts : List ConnectOutcome) (uses : List SshUse),
      ReleasedOnce (sshLifetime attempts uses) := by
  intro claimed
  exact absurd (claimed [sftpInitFails] []) (by decide)

end RtA100
