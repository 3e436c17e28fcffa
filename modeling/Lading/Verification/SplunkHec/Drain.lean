import Lading.Verification.SplunkHec.Invariant

/-! # Shutdown of the Splunk HEC blackhole -/

namespace Lading.Blackhole.SplunkHec

/-- What is left of a task before `join_next` can return it: a waiting task must acquire and
close, a served one only close. -/
def Task.pending : Task → Nat
  | .waiting => 2
  | .serving _ => 1
  | .finished => 0

def pendingWork (tasks : List Task) : Nat := (tasks.map Task.pending).sum

theorem pendingWork_set : ∀ {tasks : List Task} {i : Nat} {t : Task} (t' : Task),
    tasks[i]? = some t → pendingWork (tasks.set i t') + t.pending = pendingWork tasks + t'.pending
  | [], _, _, _, h => nomatch h
  | u :: tasks, 0, t, t', h => by
    obtain rfl : u = t := by simpa using h
    simp only [pendingWork, List.set_cons_zero, List.map_cons, List.sum_cons]
    omega
  | u :: tasks, i + 1, t, t', h => by
    have := pendingWork_set t' (by simpa using h : tasks[i]? = some t)
    simp only [pendingWork, List.set_cons_succ, List.map_cons, List.sum_cons] at this ⊢
    omega

/-- One accepted connection, not yet served, after the shutdown signal. -/
def drainingState (permits : Nat) : HecState :=
  ⟨.draining, permits, [.waiting], []⟩

/-! ## No permits -/

section Zero

variable {deps : Deps} {n n' : Nat} {s s' : HecState}

/-- With no permit to give, a step serves nothing: the answers stay as they are and every task
stays waiting. -/
theorem hecStep_zero {a : HecAction} (hi : HecInv 0 s) (hw : ∀ t ∈ s.tasks, t = .waiting)
    (h : hecStep deps 0 n s a = some (n', s')) :
    s'.answers = s.answers ∧ ∀ t ∈ s'.tasks, t = .waiting := by
  have hperm : s.permits = 0 := by
    cases hsem : s.phase.hasSemaphore
    · exact (hi.unbound hsem).2.2
    · have := hi.permits hsem
      omega
  have hserving : ∀ i inflight, s.tasks[i]? ≠ some (Task.serving inflight) := fun i _ ht =>
    nomatch hw _ (List.getElem?_mem ht)
  cases a with
  | bind r =>
    rcases (hecStep_bind_eq_some h).2.2 with ⟨m, rfl⟩ | ⟨-, rfl⟩ | ⟨-, rfl⟩ <;> exact ⟨rfl, hw⟩
  | shutdown =>
    obtain ⟨-, -, rfl⟩ := hecStep_shutdown_eq_some h
    exact ⟨rfl, hw⟩
  | accept r =>
    obtain ⟨-, -, rfl | rfl⟩ := hecStep_accept_eq_some h
    · exact ⟨rfl, fun t ht => (List.mem_append.mp ht).elim (hw t) List.mem_singleton.mp⟩
    · exact ⟨rfl, hw⟩
  | acquire i => exact absurd (hecStep_acquire_eq_some h).2.2.1 (by omega)
  | receive i req =>
    obtain ⟨-, inflight, ht, -⟩ := hecStep_receive_eq_some h
    exact absurd ht (hserving i inflight)
  | respond i j =>
    obtain ⟨inflight, _, ht, -⟩ := hecStep_respond_eq_some h
    exact absurd ht (hserving i inflight)
  | close i =>
    obtain ⟨-, ⟨inflight, ht⟩, -⟩ := hecStep_close_eq_some h
    exact absurd ht (hserving i inflight)
  | join =>
    obtain ⟨-, -, -, rfl⟩ := hecStep_join_eq_some h
    exact ⟨rfl, hw⟩

/-- With `concurrent_requests_max = 0` no connection ever gets a permit: no request is read
or answered, so this blackhole never calls `ACK_ID.fetch_add`, and once a connection has been
accepted `run` never returns, not even after the shutdown signal. -/
theorem zero_limit_never_serves (h : HecReachable deps 0 s) :
    s.answers = [] ∧ (∀ t ∈ s.tasks, t = .waiting) ∧
      (s.tasks ≠ [] → ∀ r, s.phase ≠ .returned r) := by
  have hz : s.answers = [] ∧ ∀ t ∈ s.tasks, t = .waiting := by
    induction h with
    | refl => exact ⟨rfl, fun _ h => nomatch h⟩
    | tail hr hn ih =>
      obtain ⟨_, _, _, ha⟩ := hn
      obtain ⟨h₁, h₂⟩ := hecStep_zero (reachable_hecInv hr) ih.2 ha
      exact ⟨h₁.trans ih.1, h₂⟩
  refine ⟨hz.1, hz.2, fun hne r hr => ?_⟩
  have hi := reachable_hecInv h
  obtain ⟨t, ht⟩ := List.exists_mem_of_ne_nil _ hne
  rcases hi.returned r hr with ⟨-, hall⟩ | ⟨m, rfl⟩ | ⟨rfl, -⟩
  · simpa [hz.2 t ht, Task.isFinished] using hall t ht
  all_goals exact hne (hi.unbound (by simp [hr, RunPhase.hasSemaphore])).1

theorem zero_limit_hangs_after_accept :
    HecReachable plainDeps 0 (drainingState 0) ∧
      ((drainingState 0).answers = [] ∧ (∀ t ∈ (drainingState 0).tasks, t = .waiting) ∧
        ((drainingState 0).tasks ≠ [] → ∀ r, (drainingState 0).phase ≠ .returned r)) :=
  have hr : HecReachable plainDeps 0 (drainingState 0) :=
    @hecRun_reachable plainDeps 0 (0, HecState.init) _ [.bind (.ok ()), .accept (.ok ()),
      .shutdown] .refl rfl
  ⟨hr, zero_limit_never_serves hr⟩

end Zero

/-! ## Draining with permits -/

section Drain

variable {deps : Deps} {limit : Nat} {s : HecState}

/-- Closing served connection `i`. -/
theorem hecStep_close {i n : Nat} {inflight : List Request}
    (ht : s.tasks[i]? = some (.serving inflight)) :
    hecStep deps limit n s (.close i) =
      some (n, { s with tasks := s.tasks.set i .finished, permits := s.permits + 1 }) := by
  simp only [hecStep, ht]

/-- Waiting task `i` taking a free permit. -/
theorem hecStep_acquire {i n : Nat} (ht : s.tasks[i]? = some .waiting) (hp : 0 < s.permits) :
    hecStep deps limit n s (.acquire i) =
      some (n, { s with permits := s.permits - 1, tasks := s.tasks.set i (.serving []) }) := by
  simp only [hecStep, ht, if_pos hp]

/-- While some task has not finished, one step of a connection brings the drain closer: a
served connection closes, or, when none is served, every permit is free and a waiting task
takes one. -/
theorem drain_step (hpos : 0 < limit) (h : HecReachable deps limit s)
    (hd : s.phase = .draining) (hne : ¬ ∀ t ∈ s.tasks, t.isFinished) :
    ∃ s', HecNext deps limit s s' ∧ s'.phase = .draining ∧
      pendingWork s'.tasks < pendingWork s.tasks := by
  by_cases hs : ∃ (i : Nat) (inflight : List Request), s.tasks[i]? = some (.serving inflight)
  · obtain ⟨i, inflight, ht⟩ := hs
    have hw := pendingWork_set .finished ht
    simp only [Task.pending] at hw
    exact ⟨_, ⟨0, 0, .close i, hecStep_close ht⟩, hd, by dsimp only; omega⟩
  · obtain ⟨i, ht⟩ : ∃ i, s.tasks[i]? = some Task.waiting :=
      Classical.byContradiction fun hw => hne fun t hmem => by
        obtain ⟨i, ht⟩ := List.getElem?_of_mem hmem
        cases t with
        | waiting => exact absurd ⟨i, ht⟩ hw
        | serving inflight => exact absurd ⟨i, inflight, ht⟩ hs
        | finished => rfl
    have hfree : servingCount s.tasks = 0 := List.countP_eq_zero.mpr fun t hmem hserv => by
      obtain ⟨j, hj⟩ := List.getElem?_of_mem hmem
      cases t with
      | serving inflight => exact hs ⟨j, inflight, hj⟩
      | _ => simp [Task.isServing] at hserv
    have hperm := (reachable_hecInv h).permits (by simp [hd, RunPhase.hasSemaphore])
    have hw := pendingWork_set (.serving []) ht
    simp only [Task.pending] at hw
    exact ⟨_, ⟨0, 0, .acquire i, hecStep_acquire ht (by omega)⟩, hd, by dsimp only; omega⟩

/-- With at least one permit, shutdown cannot deadlock: from every state `run` reaches in its
drain, some run of the connections lets every task finish and `run` return `Ok`. -/
theorem drain_finishes (hpos : 0 < limit) (h : HecReachable deps limit s)
    (hd : s.phase = .draining) :
    ∃ s', Relation.ReflTransGen (HecNext deps limit) s s' ∧ s'.phase = .returned (.ok ()) := by
  obtain ⟨n, hn⟩ : ∃ n, pendingWork s.tasks = n := ⟨_, rfl⟩
  induction n using Nat.strong_induction_on generalizing s with
  | _ n ih =>
    by_cases hall : ∀ t ∈ s.tasks, t.isFinished
    · refine ⟨{ s with phase := .returned (.ok ()) }, .single ⟨0, 0, .join, ?_⟩, rfl⟩
      simp only [hecStep, hd, List.all_eq_true.mpr hall, and_self, if_true]
    · obtain ⟨s₁, hnext, hd₁, hlt⟩ := drain_step hpos h hd hall
      obtain ⟨s', hrun, hret⟩ := ih _ (hn ▸ hlt) (h.tail hnext) hd₁ rfl
      exact ⟨s', .head hnext hrun, hret⟩

theorem drain_finishes_after_accept :
    0 < 1 ∧ HecReachable plainDeps 1 (drainingState 1) ∧
      (drainingState 1).phase = .draining ∧
      ∃ s', Relation.ReflTransGen (HecNext plainDeps 1) (drainingState 1) s' ∧
        s'.phase = .returned (.ok ()) :=
  have hr : HecReachable plainDeps 1 (drainingState 1) :=
    @hecRun_reachable plainDeps 1 (0, HecState.init) _ [.bind (.ok ()), .accept (.ok ()),
      .shutdown] .refl rfl
  ⟨Nat.one_pos, hr, rfl, drain_finishes Nat.one_pos hr rfl⟩

end Drain

end Lading.Blackhole.SplunkHec
