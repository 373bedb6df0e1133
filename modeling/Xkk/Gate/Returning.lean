import Xkk.Gate.Draining

/-! # A shutdown always comes to its end

Each of the three waits of `Gateway::shutdown` is for something that goes on by
itself: a worker whose connection is closed and whose `sender` is dropped, a
cleanup that makes its calls, a full `JoinSet` in which some task can be joined.
-/

namespace Xkk.Gate

open Xkk.Lib

namespace Frontend

variable {M B : Type} {wire : Wire M B} {config : SessionConfig} {gateId : Int} {s t : Frontend B}

/-- A step of the shutdown, or of a task that runs on by itself. -/
def Own (_ : Frontend B) : Label M → Prop
  | .hangUp _ | .answer _ | .work .. | .takeWorkers _ | .closeNext | .awaitNext | .drain _ | .resetOnline
  | .cleanup _ | .finish => True
  | _ => False

/-- Some step of its own takes the task of the connection below `rank`. -/
def Moves (wire : Wire M B) (config : SessionConfig) (gateId : Int) (s : Frontend B) (conn : Connection)
    (rank : Nat) : Prop :=
  ∃ (l : Label M) (t : Frontend B), Own s l ∧ s.step wire config gateId l = some t ∧ t.shutdown = s.shutdown
    ∧ ∃ client working, t.clients conn = some client ∧ client.worker = some working ∧ working.left < rank

theorem Moves.of_moveTo {conn : Connection} {rank : Nat} (l : Label M) (t : Frontend B) (client : Client)
    (next : Working) (own : Own s l)
    (taken : s.step wire config gateId l = some (t.setClient conn (client.moveTo next)))
    (same : t.shutdown = s.shutdown) (fewer : next.left < rank) : Moves wire config gateId s conn rank := by
  obtain ⟨moved, isMoved, rank⟩ := client.moveTo_left next
  exact ⟨l, _, own, taken, same, _, moved, Function.update_self .., isMoved, by omega⟩

/-- The task that the shutdown waits for can take a step. -/
theorem Attended.worker_moves (attended : Attended gateId s) (wire : Wire M B) (config : SessionConfig)
    {conn : Connection} {left : List Connection} (awaiting : s.shutdown = .awaiting (conn :: left))
    {client : Client} {working : Working} (found : s.clients conn = some client)
    (running : client.worker = some working) (alive : working ≠ .ended) :
    Moves wire config gateId s conn working.left := by
  have owns := attended.owns conn client found working running
  cases working with
  | ended => exact absurd rfl alive
  | receive =>
    -- its `sender` is dropped before it is awaited
    have once := attended.once.2
    rw [awaiting] at once
    have taken : s.workers = [] := attended.taken (by simp [awaiting]) (by simp [awaiting])
    apply Moves.of_moveTo (.hangUp conn) s client .ended trivial _ (by rfl) (by simp [Working.left])
    simp [Frontend.step, found, running, taken, awaiting, Shutdown.senders, (List.nodup_cons.mp once).1]
  | handle =>
    apply Moves.of_moveTo (.answer conn) s client .receive trivial _ (by rfl) (by simp [Working.left])
    simp [Frontend.step, found, running]
  | bind request =>
    apply Moves.of_moveTo (.work conn true 0) s { client with userId := some request.gid } (.check request)
      trivial _ (by rfl) (by simp [Working.left])
    simp [Frontend.step, found, Frontend.work, running]
  | check request =>
    by_cases isClosed : client.isClosed = true
    · apply Moves.of_moveTo (.work conn false 0) s client.close .receive trivial _ (by rfl)
        (by simp [Working.left])
      simp [Frontend.step, found, Frontend.work, running, isClosed]
    · apply Moves.of_moveTo (.work conn false 0) s client (.enter request) trivial _ (by rfl)
        (by simp [Working.left])
      simp [Frontend.step, found, Frontend.work, running, isClosed]
  | enter request =>
    cases request with
    | login gid routes seq =>
      let installed := s.gateway.sessions.installLogin gid conn routes seq
      apply Moves.of_moveTo (.work conn false 0) (s.setSessions installed.2) client
        (if installed.1 then .increment else .handle) trivial _ (by rfl) (by split <;> simp [Working.left])
      simp [Frontend.step, found, Frontend.work, running, installed]
    | reconnect gid previous seq ack =>
      cases entry : s.gateway.sessions.get gid with
      | none =>
        apply Moves.of_moveTo (.work conn false 0) s client.close .receive trivial _ (by rfl)
          (by simp [Working.left])
        simp [Frontend.step, found, Frontend.work, running, entry]
      | some arc =>
        apply Moves.of_moveTo (.work conn false 0) s client (.complete gid arc previous seq ack) trivial _ (by rfl)
          (by simp [Working.left])
        simp [Frontend.step, found, Frontend.work, running, entry]
  | complete gid arc previous seq ack =>
    obtain ⟨session, behind⟩ : ∃ session, s.gateway.sessions.arcs[arc]? = some session :=
      ⟨_, List.getElem?_eq_getElem owns.2⟩
    let completed := session.completeReconnect previous conn seq ack 0 config
    let stored := s.setSessions (s.gateway.sessions.store arc completed.2)
    cases result : completed.1 with
    | ok resumed =>
      apply Moves.of_moveTo (.work conn false 0) stored client
        (if resumed.becameActive then .increment else .handle) trivial _ (by rfl)
        (by split <;> simp [Working.left])
      simp [Frontend.step, found, Frontend.work, running, behind, stored, completed, result]
    | error error =>
      apply Moves.of_moveTo (.work conn false 0) stored client.close .receive trivial _ (by rfl)
        (by simp [Working.left])
      simp [Frontend.step, found, Frontend.work, running, behind, stored, completed, result]
  | increment =>
    let counted := { s.gateway with onlineCount := s.gateway.onlineCount + 1 }
    apply Moves.of_moveTo (.work conn false 0) { s with gateway := counted } client .handle trivial _ (by rfl)
      (by simp [Working.left])
    simp [Frontend.step, found, Frontend.work, running, counted]

variable {validConfig : ValidSessionConfig}

/-- From `s` on, steps of the shutdown and of running tasks lead to a state where
    the shutdown stands at `phase`. -/
def Comes (wire : Wire M B) (config : ValidSessionConfig) (gateId : Int) (s : Frontend B) (phase : Shutdown) :
    Prop :=
  ∃ t, (system wire config gateId).Run Own s t ∧ t.shutdown = phase

theorem Comes.after {phase : Shutdown} (l : Label M) (own : s.Own l)
    (taken : s.step wire validConfig.toSessionConfig gateId l = some t)
    (comes : Comes wire validConfig gateId t phase) : Comes wire validConfig gateId s phase := by
  obtain ⟨u, rest, result⟩ := comes
  have first : (system wire validConfig gateId).Run Own s t := .step .refl own taken
  exact ⟨u, first.trans rest, result⟩

/-- It goes on from where it comes to, which is a reachable state. -/
theorem Comes.next {first second : Shutdown} (reached : (system wire validConfig gateId).Reach System.Any s)
    (comes : Comes wire validConfig gateId s first)
    (rest : ∀ t, (system wire validConfig gateId).Reach System.Any t → t.shutdown = first →
      Comes wire validConfig gateId t second) : Comes wire validConfig gateId s second := by
  obtain ⟨t, run, result⟩ := comes
  obtain ⟨u, further, end_⟩ := rest t (reached.run (run.mono fun _ _ _ => trivial)) result
  exact ⟨u, run.trans further, end_⟩

/-- The task that the shutdown waits for comes to its end. -/
theorem worker_ends {conn : Connection} {left : List Connection} {rank : Nat} :
    ∀ {s : Frontend B} {client : Client} {working : Working},
      (system wire validConfig gateId).Reach System.Any s → s.shutdown = .awaiting (conn :: left) →
      s.clients conn = some client → client.worker = some working → working.left = rank →
      Comes wire validConfig gateId s (.awaiting left) := by
  induction rank using Nat.strongRecOn with
  | ind rank ih =>
    intro s client working reached awaiting found running isRank
    by_cases ended : working = .ended
    · subst ended
      apply Comes.after (t := { s with shutdown := .awaiting left }) .awaitNext trivial _ ⟨_, .refl, rfl⟩
      simp [step, awaiting, found, running]
    · obtain ⟨l, t, own, taken, same, next, moved, isNext, isMoved, fewer⟩ :=
        (attended_reach reached).worker_moves wire validConfig.toSessionConfig awaiting found running ended
      apply Comes.after l own taken
      exact ih moved.left (by omega) (reached.step trivial taken) (same.trans awaiting) isNext isMoved rfl

/-- It waits for all of them. -/
theorem workers_end {workers : List Connection} :
    ∀ {s : Frontend B}, (system wire validConfig gateId).Reach System.Any s → s.shutdown = .awaiting workers →
      Comes wire validConfig gateId s (.awaiting []) := by
  induction workers with
  | nil => exact fun {s} _ awaiting => ⟨s, .refl, awaiting⟩
  | cons conn left ih =>
    intro s reached awaiting
    obtain ⟨client, found, worker⟩ := (attended_reach reached).spawned conn
      (.inr (by simp [awaiting, Shutdown.awaited]))
    obtain ⟨working, running⟩ := Option.ne_none_iff_exists'.mp worker
    exact (worker_ends reached awaiting found running rfl).next reached fun t => ih

/-- The connections are closed one after the other. -/
theorem workers_closed {workers left : List Connection} :
    ∀ {s : Frontend B}, (system wire validConfig gateId).Reach System.Any s → s.shutdown = .closing workers left →
      Comes wire validConfig gateId s (.awaiting workers) := by
  induction left with
  | nil =>
    intro s _ closing
    apply Comes.after (t := { s with shutdown := .awaiting workers }) .closeNext trivial _ ⟨_, .refl, rfl⟩
    simp [step, closing]
  | cons conn left ih =>
    intro s reached closing
    have attended := attended_reach reached
    obtain ⟨client, found, _⟩ := attended.spawned conn
      (.inr (by simpa [closing, Shutdown.awaited] using
        attended.closing workers _ closing conn List.mem_cons_self))
    have taken : s.step wire validConfig.toSessionConfig gateId .closeNext =
        some ({ s with shutdown := .closing workers left }.setClient conn client.close) := by
      simp [step, closing, found]
    exact Comes.after .closeNext trivial taken (ih (reached.step trivial taken) rfl)

/-- The cleanups come to their end. -/
theorem cleanups_end {rank : Nat} :
    ∀ {s : Frontend B}, (system wire validConfig gateId).Reach System.Any s → s.shutdown = .cleaning →
      s.cleanup.left (cleanupShutdownSession gateId) = rank → Comes wire validConfig gateId s .returned := by
  induction rank using Nat.strongRecOn with
  | ind rank ih =>
    intro s reached cleaning isRank
    by_cases finished : s.cleanup.Finished
    · apply Comes.after (t := { s with shutdown := .returned }) .finish trivial _ ⟨_, .refl, rfl⟩
      exact if_pos ⟨cleaning, finished⟩
    · have room : 0 < SHUTDOWN_CLEANUP_CONCURRENCY := by decide
      obtain ⟨l, cleanup, moved, fewer⟩ := FanOut.exists_step (cleanupShutdownSession gateId) room finished
      have taken : s.step wire validConfig.toSessionConfig gateId (.cleanup l) =
          some { s with cleanup := cleanup } := by
        simp [step, cleaning, moved]
      exact Comes.after (.cleanup l) trivial taken
        (ih (cleanup.left (cleanupShutdownSession gateId)) (by omega) (reached.step trivial taken) cleaning rfl)

/-- From every state after the call, the shutdown and the tasks that run on by
    themselves can come to its return, when the calls that they await return: it never
    waits for itself or for a client. -/
theorem shutdown_returns (reached : (system wire validConfig gateId).Reach System.Any s)
    (called : s.shutdown ≠ .uncalled) : Comes wire validConfig gateId s .returned := by
  have cleaned : ∀ s : Frontend B, (system wire validConfig gateId).Reach System.Any s →
      s.shutdown = .cleaning → Comes wire validConfig gateId s .returned :=
    fun s reached cleaning => cleanups_end reached cleaning rfl
  have reset : ∀ s : Frontend B, (system wire validConfig gateId).Reach System.Any s → ∀ sessions,
      s.shutdown = .drained sessions → Comes wire validConfig gateId s .returned := by
    intro s reached sessions drained
    have taken : s.step wire validConfig.toSessionConfig gateId .resetOnline = some { s with
        gateway := { s.gateway with onlineCount := 0 }, shutdown := .cleaning, closed := sessions
        cleanup := .start sessions } := by
      simp [step, drained]
    exact Comes.after .resetOnline trivial taken (cleaned _ (reached.step trivial taken) rfl)
  have drained : ∀ s : Frontend B, (system wire validConfig gateId).Reach System.Any s →
      s.shutdown = .awaiting [] → Comes wire validConfig gateId s .returned := by
    intro s reached awaiting
    obtain ⟨t, taken⟩ : ∃ t,
        s.step wire validConfig.toSessionConfig gateId (.drain s.gateway.sessions.closing) = some t :=
      ⟨_, if_pos ⟨awaiting, .refl _⟩⟩
    have isDrained : t.shutdown = .drained s.gateway.sessions.closing := by
      simp only [step, awaiting, true_and, List.Perm.refl, if_true, Option.some.injEq] at taken
      rw [← taken]
    exact Comes.after (.drain _) trivial taken (reset t (reached.step trivial taken) _ isDrained)
  have awaited : ∀ s : Frontend B, (system wire validConfig gateId).Reach System.Any s → ∀ workers,
      s.shutdown = .awaiting workers → Comes wire validConfig gateId s .returned :=
    fun s reached workers awaiting => (workers_end reached awaiting).next reached drained
  have closed : ∀ s : Frontend B, (system wire validConfig gateId).Reach System.Any s → ∀ workers left,
      s.shutdown = .closing workers left → Comes wire validConfig gateId s .returned :=
    fun s reached workers left closing => (workers_closed reached closing).next reached fun t again =>
      awaited t again workers
  cases phase : s.shutdown with
  | uncalled => exact absurd phase called
  | flagged =>
    have taken : s.step wire validConfig.toSessionConfig gateId (.takeWorkers s.workers) = some { s with
        workers := [], shutdown := .closing s.workers s.workers } := by
      simp [step, phase]
    exact Comes.after (.takeWorkers _) trivial taken (closed _ (reached.step trivial taken) _ _ rfl)
  | closing workers left => exact closed s reached workers left phase
  | awaiting workers => exact awaited s reached workers phase
  | drained sessions => exact reset s reached sessions phase
  | cleaning => exact cleaned s reached phase
  | returned => exact ⟨s, .refl, phase⟩

/-- A client is still being answered when the Gate is told to stop. -/
theorem stopWhileAnswering_returns :
    ∃ s : Frontend Unit, s.shutdown = .flagged ∧ (∃ client ∈ s.clients ⟨7⟩, client.worker = some .handle)
      ∧ Comes Gateway.blankWire .hardLimits 9 s .returned := by
  have run : ∃ s, System.follow System.Any (step Gateway.blankWire SessionConfig.HARD_LIMITS 9) new
      [.onConnected ⟨7⟩, .receive ⟨7⟩, .shutdown] = some s
      ∧ s.shutdown = .flagged ∧ ∃ client ∈ s.clients ⟨7⟩, client.worker = some .handle := by
    decide +kernel
  obtain ⟨s, followed, flagged, answering⟩ := run
  have reached : (system Gateway.blankWire .hardLimits 9).Reach System.Any s :=
    System.reach_of_follow rfl followed
  exact ⟨s, flagged, answering, shutdown_returns reached (by simp [flagged])⟩

end Frontend

end Xkk.Gate
