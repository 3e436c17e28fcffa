import Lading.Algorithm.SplunkHec

/-! # The invariants of the Splunk HEC blackhole and of its process -/

namespace Lading.Blackhole.SplunkHec

/-- `srv` answers the request it was given. It hands out no ack id, or it is a `POST` of an
event path that is handed the value of `ACK_ID` and gets it back in an `HecResponse`. -/
theorem srv_ackId (deps : Deps) (k : Nat) (req : Request) :
    (srv deps k req).request = req ∧ ((srv deps k req).ackId = none ∨
      ((srv deps k req).ackId = some k ∧ req.method = "POST" ∧ req.path ∈ eventPaths ∧
        (srv deps k req).result = .ok ⟨200, some "application/json", hecResponse k⟩)) := by
  unfold srv
  split
  · exact ⟨rfl, .inl rfl⟩
  · split
    · exact ⟨rfl, .inl rfl⟩
    · split_ifs with hev
      · exact ⟨rfl, .inr ⟨rfl, hev.1, hev.2, rfl⟩⟩
      · split <;> exact ⟨rfl, .inl rfl⟩
      · exact ⟨rfl, .inl rfl⟩

/-- The ack ids `srv` has handed out, in the order of their `fetch_add`. -/
def issuedAckIds (answers : List Answer) : List Nat := answers.filterMap Answer.ackId

/-- The number of connections holding a permit. -/
def servingCount (tasks : List Task) : Nat := tasks.countP Task.isServing

/-- Whether `run` has created its semaphore and not failed. -/
def RunPhase.hasSemaphore : RunPhase → Bool
  | .looping | .draining | .returned (.ok _) => true
  | _ => false

/-! ## What each transition can do -/

section Steps

variable {deps : Deps} {limit n n' : Nat} {s s' : HecState}

theorem hecStep_bind_eq_some {r : Except String Unit}
    (h : hecStep deps limit n s (.bind r) = some (n', s')) :
    n' = n ∧ s.phase = .binding ∧ ((∃ m, s' = { s with phase := .returned (.err (.io m)) }) ∨
      (limit ≤ maxPermits ∧ s' = { s with phase := .looping, permits := limit }) ∨
      (maxPermits < limit ∧ s' = { s with phase := .returned (.panic semaphorePanic) })) := by
  simp only [hecStep] at h
  split_ifs at h with hb hl <;> cases h <;> refine ⟨rfl, hb, ?_⟩ <;> rcases r with m | u
  · exact .inl ⟨m, rfl⟩
  · exact .inr (.inl ⟨hl, rfl⟩)
  · exact .inl ⟨m, rfl⟩
  · exact .inr (.inr ⟨Nat.lt_of_not_le hl, rfl⟩)

theorem hecStep_shutdown_eq_some (h : hecStep deps limit n s .shutdown = some (n', s')) :
    n' = n ∧ s.phase = .looping ∧ s' = { s with phase := .draining } := by
  simp only [hecStep] at h
  split_ifs at h with hl
  cases h
  exact ⟨rfl, hl, rfl⟩

theorem hecStep_accept_eq_some {r : Except String Unit}
    (h : hecStep deps limit n s (.accept r) = some (n', s')) :
    n' = n ∧ s.phase = .looping ∧ (s' = { s with tasks := s.tasks ++ [.waiting] } ∨ s' = s) := by
  simp only [hecStep] at h
  split_ifs at h with hl
  cases h
  exact ⟨rfl, hl, by rcases r with _ | _ <;> simp⟩

theorem hecStep_acquire_eq_some {i : Nat}
    (h : hecStep deps limit n s (.acquire i) = some (n', s')) :
    n' = n ∧ s.tasks[i]? = some .waiting ∧ 0 < s.permits ∧
      s' = { s with permits := s.permits - 1, tasks := s.tasks.set i (.serving []) } := by
  simp only [hecStep] at h
  split at h
  · next hi =>
    split_ifs at h with hp
    cases h
    exact ⟨rfl, hi, hp, rfl⟩
  · cases h

theorem hecStep_receive_eq_some {i : Nat} {req : Request}
    (h : hecStep deps limit n s (.receive i req) = some (n', s')) :
    n' = n ∧ ∃ inflight, s.tasks[i]? = some (.serving inflight) ∧
      s' = { s with tasks := s.tasks.set i (.serving (inflight ++ [req])) } := by
  simp only [hecStep] at h
  split at h
  · next inflight hi => cases h; exact ⟨rfl, inflight, hi, rfl⟩
  · cases h

theorem hecStep_respond_eq_some {i j : Nat}
    (h : hecStep deps limit n s (.respond i j) = some (n', s')) :
    ∃ inflight req, s.tasks[i]? = some (.serving inflight) ∧ inflight[j]? = some req ∧
      n' = n + (srv deps (n % 2 ^ 64) req).ackId.toList.length ∧
      s' = { s with
        tasks := s.tasks.set i (.serving (inflight.eraseIdx j)),
        answers := s.answers ++ [srv deps (n % 2 ^ 64) req] } := by
  simp only [hecStep] at h
  split at h
  · next inflight hi =>
    split at h
    · next req hj => cases h; exact ⟨inflight, req, hi, hj, rfl, rfl⟩
    · cases h
  · cases h

theorem hecStep_close_eq_some {i : Nat} (h : hecStep deps limit n s (.close i) = some (n', s')) :
    n' = n ∧ (∃ inflight, s.tasks[i]? = some (.serving inflight)) ∧
      s' = { s with tasks := s.tasks.set i .finished, permits := s.permits + 1 } := by
  simp only [hecStep] at h
  split at h
  · next inflight hi => cases h; exact ⟨rfl, ⟨inflight, hi⟩, rfl⟩
  · cases h

theorem hecStep_join_eq_some (h : hecStep deps limit n s .join = some (n', s')) :
    n' = n ∧ s.phase = .draining ∧ (∀ t ∈ s.tasks, t.isFinished) ∧
      s' = { s with phase := .returned (.ok ()) } := by
  simp only [hecStep] at h
  split_ifs at h with hj
  cases h
  exact ⟨rfl, hj.1, List.all_eq_true.mp hj.2, rfl⟩

end Steps

/-! ## Counting over the tasks and the answers -/

/-- Setting task `i` from `t` to `t'` moves the count of served connections by what the two
contribute. -/
theorem servingCount_set {tasks : List Task} {i : Nat} {t : Task} (t' : Task)
    (h : tasks[i]? = some t) :
    servingCount (tasks.set i t') + (if t.isServing then 1 else 0) =
      servingCount tasks + (if t'.isServing then 1 else 0) := by
  obtain ⟨hi, rfl⟩ := List.getElem?_eq_some_iff.mp h
  have := List.boole_getElem_le_countP Task.isServing tasks i hi
  rw [servingCount, servingCount, List.countP_set _ _ _ _ hi]
  omega

theorem issuedAckIds_append (answers : List Answer) (a : Answer) :
    issuedAckIds (answers ++ [a]) = issuedAckIds answers ++ a.ackId.toList := by
  cases h : a.ackId <;> simp [issuedAckIds, h]

/-- Each answer that took an ack id `k` was a `POST` to an event path, and got `k` back in an
`HecResponse`. -/
def AcksAnswered (answers : List Answer) : Prop :=
  ∀ a ∈ answers, ∀ k, a.ackId = some k →
    a.request.method = "POST" ∧ a.request.path ∈ eventPaths ∧
      a.result = .ok ⟨200, some "application/json", hecResponse k⟩

theorem AcksAnswered.srv {deps : Deps} {answers : List Answer} (k : Nat) (req : Request)
    (hl : AcksAnswered answers) : AcksAnswered (answers ++ [srv deps k req]) := by
  intro a ha k' hk
  rcases List.mem_append.mp ha with ha | ha
  · exact hl a ha k' hk
  obtain rfl := List.mem_singleton.mp ha
  obtain ⟨hreq, hn | ⟨hs, hm, hp, hres⟩⟩ := srv_ackId deps k req
  · simp [hn] at hk
  · obtain rfl : k = k' := Option.some.inj (hs.symm.trans hk)
    rw [hreq]
    exact ⟨hm, hp, hres⟩

/-! ## The invariant of one run -/

/-- What holds of every state `run` reaches with `concurrent_requests_max = limit`. -/
structure HecInv (limit : Nat) (s : HecState) : Prop where
  /-- without a semaphore, no connection was accepted and no request answered -/
  unbound : s.phase.hasSemaphore = false → s.tasks = [] ∧ s.answers = [] ∧ s.permits = 0
  /-- the free permits and the served connections make `limit` -/
  permits : s.phase.hasSemaphore → s.permits + servingCount s.tasks = limit
  /-- `run` returns `Ok` once every task has finished, an `Io` error from the bind, or the
  panic of `Semaphore::new` over `MAX_PERMITS` -/
  returned : ∀ r, s.phase = .returned r →
    (r = .ok () ∧ ∀ t ∈ s.tasks, t.isFinished) ∨ (∃ m, r = .err (.io m)) ∨
      (r = .panic semaphorePanic ∧ maxPermits < limit)
  acks : AcksAnswered s.answers

section Preservation

variable {deps : Deps} {limit n n' : Nat} {s s' : HecState}

theorem hecInv_init : HecInv limit HecState.init where
  unbound _ := ⟨rfl, rfl, rfl⟩
  permits h := nomatch h
  returned _ h := nomatch h
  acks _ h := nomatch h

theorem HecInv.bind {r : Except String Unit} (hi : HecInv limit s)
    (h : hecStep deps limit n s (.bind r) = some (n', s')) : HecInv limit s' := by
  obtain ⟨-, hb, hs'⟩ := hecStep_bind_eq_some h
  have hu := hi.unbound (by simp [hb, RunPhase.hasSemaphore])
  rcases hs' with ⟨m, rfl⟩ | ⟨hl, rfl⟩ | ⟨hl, rfl⟩
  · exact ⟨fun _ => hu, fun h => by simp [RunPhase.hasSemaphore] at h,
      fun _ hr => .inr (.inl ⟨m, (RunPhase.returned.inj hr).symm⟩), hi.acks⟩
  · exact ⟨fun h => by simp [RunPhase.hasSemaphore] at h, fun _ => by simp [hu.1, servingCount],
      fun _ hr => (nomatch hr), hi.acks⟩
  · exact ⟨fun _ => hu, fun h => by simp [RunPhase.hasSemaphore] at h,
      fun _ hr => .inr (.inr ⟨(RunPhase.returned.inj hr).symm, hl⟩), hi.acks⟩

theorem HecInv.shutdown (hi : HecInv limit s)
    (h : hecStep deps limit n s .shutdown = some (n', s')) : HecInv limit s' := by
  obtain ⟨-, hl, rfl⟩ := hecStep_shutdown_eq_some h
  have hsem : s.phase.hasSemaphore := by simp [hl, RunPhase.hasSemaphore]
  exact ⟨fun h => by simp [RunPhase.hasSemaphore] at h, fun _ => hi.permits hsem,
    fun _ h => (nomatch h), hi.acks⟩

theorem HecInv.accept {r : Except String Unit} (hi : HecInv limit s)
    (h : hecStep deps limit n s (.accept r) = some (n', s')) : HecInv limit s' := by
  obtain ⟨-, hl, rfl | rfl⟩ := hecStep_accept_eq_some h
  · have hsem : s.phase.hasSemaphore := by simp [hl, RunPhase.hasSemaphore]
    refine ⟨fun h => absurd hsem (by simpa using h), fun _ => ?_, fun _ h => ?_, hi.acks⟩
    · simpa [servingCount, Task.isServing] using hi.permits hsem
    · simp [hl] at h
  · exact hi

/-- Task `i` moves from a place that has not finished to `t'`, taking or giving back a
permit as it goes: the phase stays, and the invariant rests on the permits and on the
answers. -/
theorem HecInv.setTask {i : Nat} {t : Task} (t' : Task) (permits : Nat) (answers : List Answer)
    (hi : HecInv limit s) (ht : s.tasks[i]? = some t) (hfin : t.isFinished = false)
    (hperm : permits + (if t'.isServing then 1 else 0) =
      s.permits + (if t.isServing then 1 else 0))
    (hacks : AcksAnswered answers) :
    HecInv limit ⟨s.phase, permits, s.tasks.set i t', answers⟩ := by
  have hsem : s.phase.hasSemaphore := by
    by_contra h
    simp [(hi.unbound (by simpa using h)).1] at ht
  have hc := servingCount_set t' ht
  refine ⟨fun h => absurd hsem (by simpa using h), fun _ => ?_, fun r hr => ?_, hacks⟩
  · have := hi.permits hsem
    dsimp only
    omega
  · change s.phase = _ at hr
    rcases hi.returned r hr with ⟨-, hall⟩ | ⟨m, rfl⟩ | ⟨rfl, -⟩
    · simpa [hfin] using hall t (List.getElem?_mem ht)
    all_goals simp [hr, RunPhase.hasSemaphore] at hsem

theorem HecInv.acquire {i : Nat} (hi : HecInv limit s)
    (h : hecStep deps limit n s (.acquire i) = some (n', s')) : HecInv limit s' := by
  obtain ⟨-, ht, hp, rfl⟩ := hecStep_acquire_eq_some h
  exact hi.setTask _ _ _ ht rfl (by simp [Task.isServing]; omega) hi.acks

theorem HecInv.receive {i : Nat} {req : Request} (hi : HecInv limit s)
    (h : hecStep deps limit n s (.receive i req) = some (n', s')) : HecInv limit s' := by
  obtain ⟨-, inflight, ht, rfl⟩ := hecStep_receive_eq_some h
  exact hi.setTask _ _ _ ht rfl rfl hi.acks

theorem HecInv.respond {i j : Nat} (hi : HecInv limit s)
    (h : hecStep deps limit n s (.respond i j) = some (n', s')) : HecInv limit s' := by
  obtain ⟨inflight, req, ht, -, -, rfl⟩ := hecStep_respond_eq_some h
  exact hi.setTask _ _ _ ht rfl rfl (hi.acks.srv _ req)

theorem HecInv.close {i : Nat} (hi : HecInv limit s)
    (h : hecStep deps limit n s (.close i) = some (n', s')) : HecInv limit s' := by
  obtain ⟨-, ⟨inflight, ht⟩, rfl⟩ := hecStep_close_eq_some h
  exact hi.setTask _ _ _ ht rfl rfl hi.acks

theorem HecInv.join (hi : HecInv limit s) (h : hecStep deps limit n s .join = some (n', s')) :
    HecInv limit s' := by
  obtain ⟨-, hd, hall, rfl⟩ := hecStep_join_eq_some h
  have hsem : s.phase.hasSemaphore := by simp [hd, RunPhase.hasSemaphore]
  refine ⟨fun h => by simp [RunPhase.hasSemaphore] at h, fun _ => hi.permits hsem,
    fun r hr => .inl ⟨(RunPhase.returned.inj hr).symm, hall⟩, hi.acks⟩

theorem HecInv.step {a : HecAction} (hi : HecInv limit s)
    (h : hecStep deps limit n s a = some (n', s')) : HecInv limit s' := by
  cases a with
  | bind r => exact hi.bind h
  | shutdown => exact hi.shutdown h
  | accept r => exact hi.accept h
  | acquire i => exact hi.acquire h
  | receive i req => exact hi.receive h
  | respond i j => exact hi.respond h
  | close i => exact hi.close h
  | join => exact hi.join h

end Preservation

theorem reachable_hecInv {deps : Deps} {limit : Nat} {s : HecState}
    (h : HecReachable deps limit s) : HecInv limit s := by
  induction h with
  | refl => exact hecInv_init
  | tail _ hn ih =>
    obtain ⟨_, _, _, ha⟩ := hn
    exact ih.step ha

/-- A decoder that passes every body through, and a parser that accepts nothing. -/
def plainDeps : Deps := ⟨fun _ body => .ok body, fun _ => none, id⟩

/-- An empty event posted to the collector. -/
def eventRequest : Request := ⟨"POST", "/services/collector/event", none, .ok []⟩

/-- One connection, holding the only permit, that has posted one event. -/
def servedState : HecState :=
  ⟨.looping, 0, [.serving []],
    [⟨eventRequest, some 0, .ok ⟨200, some "application/json", hecResponse 0⟩⟩]⟩

theorem servedState_reachable : HecReachable plainDeps 1 servedState :=
  @hecRun_reachable plainDeps 1 (0, HecState.init) _ [.bind (.ok ()), .accept (.ok ()),
    .acquire 0, .receive 0 eventRequest, .respond 0 0] .refl rfl

/-- At most `concurrent_requests_max` connections are served at once: once the semaphore
exists, its free permits and the connections being served make exactly that. -/
theorem reachable_permits {deps : Deps} {limit : Nat} {s : HecState}
    (h : HecReachable deps limit s) :
    servingCount s.tasks ≤ limit ∧
      (s.phase.hasSemaphore → s.permits + servingCount s.tasks = limit) := by
  have hi := reachable_hecInv h
  refine ⟨?_, hi.permits⟩
  cases hsem : s.phase.hasSemaphore
  · simp [(hi.unbound hsem).1, servingCount]
  · have := hi.permits hsem
    omega

theorem servedState_permits :
    HecReachable plainDeps 1 servedState ∧
      (servingCount servedState.tasks ≤ 1 ∧
        (servedState.phase.hasSemaphore →
          servedState.permits + servingCount servedState.tasks = 1)) :=
  ⟨servedState_reachable, reachable_permits servedState_reachable⟩

/-! ## The process and `ACK_ID` -/

/-- The ack ids handed out by every blackhole of the process. -/
def allAckIds (p : HecProcess) : List Nat := p.runs.flatMap fun s => issuedAckIds s.answers

/-- Replacing an element whose image grows by `x` grows the concatenation by `x`, up to
order. -/
theorem flatMap_set_perm {α β : Type} (f : α → List β) (x : List β) :
    ∀ {l : List α} {b : Nat} {s s' : α}, l[b]? = some s → f s' = f s ++ x →
      ((l.set b s').flatMap f).Perm (l.flatMap f ++ x)
  | [], _, _, _, h, _ => nomatch h
  | y :: ys, 0, s, s', h, hf => by
    obtain rfl : y = s := by simpa using h
    simp only [List.set_cons_zero, List.flatMap_cons, hf, List.append_assoc]
    exact List.perm_append_comm.append_left _
  | y :: ys, b + 1, s, s', h, hf => by
    simp only [List.set_cons_succ, List.flatMap_cons, List.append_assoc]
    exact (flatMap_set_perm f x (by simpa using h) hf).append_left _

/-- A step of one run hands out no ack id, or the value of `ACK_ID`, which moves on by one. -/
theorem hecStep_issued {deps : Deps} {limit n n' : Nat} {s s' : HecState} {a : HecAction}
    (h : hecStep deps limit n s a = some (n', s')) :
    ∃ x, issuedAckIds s'.answers = issuedAckIds s.answers ++ x ∧
      (List.range n').map (· % 2 ^ 64) = (List.range n).map (· % 2 ^ 64) ++ x := by
  cases a with
  | bind r => obtain ⟨rfl, -, ⟨m, rfl⟩ | ⟨-, rfl⟩ | ⟨-, rfl⟩⟩ := hecStep_bind_eq_some h <;>
      exact ⟨[], by simp, by simp⟩
  | shutdown => obtain ⟨rfl, -, rfl⟩ := hecStep_shutdown_eq_some h; exact ⟨[], by simp, by simp⟩
  | accept r =>
    obtain ⟨rfl, -, rfl | rfl⟩ := hecStep_accept_eq_some h <;> exact ⟨[], by simp, by simp⟩
  | acquire i => obtain ⟨rfl, -, -, rfl⟩ := hecStep_acquire_eq_some h; exact ⟨[], by simp, by simp⟩
  | receive i req =>
    obtain ⟨rfl, _, -, rfl⟩ := hecStep_receive_eq_some h; exact ⟨[], by simp, by simp⟩
  | close i => obtain ⟨rfl, -, rfl⟩ := hecStep_close_eq_some h; exact ⟨[], by simp, by simp⟩
  | join => obtain ⟨rfl, -, -, rfl⟩ := hecStep_join_eq_some h; exact ⟨[], by simp, by simp⟩
  | respond i j =>
    obtain ⟨_, req, -, -, rfl, rfl⟩ := hecStep_respond_eq_some h
    refine ⟨_, issuedAckIds_append _ _, ?_⟩
    rcases (srv_ackId deps (n % 2 ^ 64) req).2 with hn | ⟨hs, -⟩
    · rw [hn]; simp
    · rw [hs]; simp [List.range_succ]

/-- What holds of every state of the process. -/
structure ProcessInv (deps : Deps) (limits : List Nat) (p : HecProcess) : Prop where
  length : p.runs.length = limits.length
  runs : ∀ (b : Nat) (s : HecState), p.runs[b]? = some s →
    ∃ limit, limits[b]? = some limit ∧ HecReachable deps limit s
  acks : (allAckIds p).Perm ((List.range p.acks).map (· % 2 ^ 64))

theorem processInv_init (deps : Deps) (limits : List Nat) :
    ProcessInv deps limits (HecProcess.init limits) where
  length := List.length_replicate _ _
  runs b s h := by
    obtain ⟨hb, rfl⟩ : b < limits.length ∧ HecState.init = s := by
      simpa [HecProcess.init, List.getElem?_replicate] using h
    exact ⟨_, List.getElem?_eq_getElem hb, .refl⟩
  acks := by simp [allAckIds, HecProcess.init, HecState.init, issuedAckIds]

theorem ProcessInv.step {deps : Deps} {limits : List Nat} {p p' : HecProcess} {b : Nat}
    {a : HecAction} (hi : ProcessInv deps limits p) (h : processStep deps limits p b a = some p') :
    ProcessInv deps limits p' := by
  unfold processStep at h
  split at h
  · rename_i s limit hs hl
    obtain ⟨⟨n', s'⟩, hstep, rfl⟩ := Option.map_eq_some'.mp h
    obtain ⟨x, hissued, hrange⟩ := hecStep_issued hstep
    refine ⟨by simp [hi.length], fun c t ht => ?_, ?_⟩
    · by_cases hcb : b = c
      · subst hcb
        rw [List.getElem?_set_self (List.getElem?_eq_some_iff.mp hs).1] at ht
        cases ht
        obtain ⟨_, hl', hreach⟩ := hi.runs b s hs
        obtain rfl := Option.some.inj (hl.symm.trans hl')
        exact ⟨limit, hl, hreach.tail ⟨p.acks, n', a, hstep⟩⟩
      · rw [List.getElem?_set_ne hcb] at ht
        exact hi.runs c t ht
    · simp only [allAckIds]
      rw [hrange]
      exact (flatMap_set_perm _ x hs hissued).trans (hi.acks.append_right x)
  · cases h

theorem reachable_processInv {deps : Deps} {limits : List Nat} {p : HecProcess}
    (h : ProcessReachable deps limits p) : ProcessInv deps limits p := by
  induction h with
  | refl => exact processInv_init deps limits
  | tail _ hn ih =>
    obtain ⟨b, a, ha⟩ := hn
    exact ih.step ha

/-- `n` ids taken modulo `m` are distinct exactly when there are at most `m` of them. -/
theorem nodup_range_map_mod (n : Nat) {m : Nat} (hm : 0 < m) :
    ((List.range n).map (· % m)).Nodup ↔ n ≤ m := by
  refine ⟨fun hnd => Nat.le_of_not_lt fun hlt => ?_, fun hle => ?_⟩
  · have := List.inj_on_of_nodup_map hnd (List.mem_range.mpr (hm.trans hlt))
      (List.mem_range.mpr hlt) (by simp)
    omega
  · refine (List.nodup_range n).map_on fun x hx y hy hxy => ?_
    rwa [Nat.mod_eq_of_lt (by simp at hx; omega), Nat.mod_eq_of_lt (by simp at hy; omega)] at hxy

section Process

variable {deps : Deps} {limits : List Nat} {p : HecProcess}

/-- Every blackhole of the process is at a state its own `run` reaches, whatever the others
do: the permit bound and the drain hold for each of them. -/
theorem processReachable_runs (h : ProcessReachable deps limits p) :
    p.runs.length = limits.length ∧ ∀ (b : Nat) (s : HecState), p.runs[b]? = some s →
      ∃ limit, limits[b]? = some limit ∧ HecReachable deps limit s :=
  let hi := reachable_processInv h
  ⟨hi.length, hi.runs⟩

/-- Across every blackhole of the process and every interleaving of their connections, the
ack ids `srv` has handed out are `0, 1, …, n - 1` modulo `2^64`, in some order, for the `n`
calls of `ACK_ID.fetch_add` so far; and each went to a `POST` of an event path that got it
back in `{"text":"Success","code":0,"ackId":k}`. -/
theorem processReachable_ackIds (h : ProcessReachable deps limits p) :
    (allAckIds p).Perm ((List.range p.acks).map (· % 2 ^ 64)) ∧
      ∀ (b : Nat) (s : HecState), p.runs[b]? = some s → ∀ a ∈ s.answers, ∀ k, a.ackId = some k →
        a.request.method = "POST" ∧ a.request.path ∈ eventPaths ∧
          a.result = .ok ⟨200, some "application/json", hecResponse k⟩ := by
  have hi := reachable_processInv h
  refine ⟨hi.acks, fun b s hs => ?_⟩
  obtain ⟨_, -, hreach⟩ := hi.runs b s hs
  exact (reachable_hecInv hreach).acks

/-- No two requests of the process get the same ack id until more than `2^64` have been
handed out; then `ACK_ID` has wrapped and an id comes round again. While at most `2^64` have,
the ids of each blackhole are distinct. -/
theorem ackIds_nodup_iff (h : ProcessReachable deps limits p) :
    ((allAckIds p).Nodup ↔ p.acks ≤ 2 ^ 64) ∧
      ∀ (b : Nat) (s : HecState), p.runs[b]? = some s → p.acks ≤ 2 ^ 64 →
        (issuedAckIds s.answers).Nodup := by
  have hnd : (allAckIds p).Nodup ↔ p.acks ≤ 2 ^ 64 :=
    ((reachable_processInv h).acks.nodup_iff).trans (nodup_range_map_mod _ (by positivity))
  refine ⟨hnd, fun b s hs hle => ?_⟩
  have hsub : (issuedAckIds s.answers).Sublist (allAckIds p) :=
    List.sublist_flatten_of_mem (List.mem_map_of_mem _ (List.getElem?_mem hs))
  exact hsub.nodup (hnd.mpr hle)

end Process

/-- Two blackholes of one connection each, the second answering an event before the first. -/
def twoPostsRun : List (Nat × HecAction) :=
  [(0, .bind (.ok ())), (1, .bind (.ok ())), (0, .accept (.ok ())), (1, .accept (.ok ())),
    (0, .acquire 0), (1, .acquire 0), (1, .receive 0 eventRequest), (0, .receive 0 eventRequest),
    (1, .respond 0 0), (0, .respond 0 0)]

theorem twoPostsRun_runs :
    ∃ p, processRun plainDeps [1, 1] (HecProcess.init [1, 1]) twoPostsRun = some p ∧
      (p.runs.length = [1, 1].length ∧ ∀ (b : Nat) (s : HecState), p.runs[b]? = some s →
        ∃ limit, [1, 1][b]? = some limit ∧ HecReachable plainDeps limit s) :=
  ⟨_, rfl, processReachable_runs (@processRun_reachable plainDeps [1, 1] _ _ twoPostsRun .refl rfl)⟩

theorem twoPostsRun_ackIds :
    ∃ p, processRun plainDeps [1, 1] (HecProcess.init [1, 1]) twoPostsRun = some p ∧
      allAckIds p = [1, 0] ∧
      ((allAckIds p).Perm ((List.range p.acks).map (· % 2 ^ 64)) ∧
        ∀ (b : Nat) (s : HecState), p.runs[b]? = some s → ∀ a ∈ s.answers, ∀ k, a.ackId = some k →
          a.request.method = "POST" ∧ a.request.path ∈ eventPaths ∧
            a.result = .ok ⟨200, some "application/json", hecResponse k⟩) :=
  ⟨_, rfl, rfl,
    processReachable_ackIds (@processRun_reachable plainDeps [1, 1] _ _ twoPostsRun .refl rfl)⟩

theorem twoPostsRun_ackIds_nodup :
    ∃ p, processRun plainDeps [1, 1] (HecProcess.init [1, 1]) twoPostsRun = some p ∧
      (((allAckIds p).Nodup ↔ p.acks ≤ 2 ^ 64) ∧
        ∀ (b : Nat) (s : HecState), p.runs[b]? = some s → p.acks ≤ 2 ^ 64 →
          (issuedAckIds s.answers).Nodup) :=
  ⟨_, rfl, ackIds_nodup_iff (@processRun_reachable plainDeps [1, 1] _ _ twoPostsRun .refl rfl)⟩

end Lading.Blackhole.SplunkHec
