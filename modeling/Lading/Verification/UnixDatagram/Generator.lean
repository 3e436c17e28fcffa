import Lading.Algorithm.UnixDatagram.Generator
import Lading.Verification.UnixDatagram.Ceiling
import Lading.Verification.UnixDatagram.Construction

/-! # The datagram generator as a whole -/

namespace Lading.Generator.UnixDatagram

/-! ## What a child step can do -/

section ChildSteps

variable {emit : Nat → Block} {s t : SpinState} {a : Action}

theorem step_isReturned (h : step emit s a = some t) : s.phase.isReturned = false := by
  cases hs : s.phase <;> simp only [Phase.isReturned]
  rw [step_of_returned hs] at h
  cases h

/-- Before the broadcast a child can only wait for it. -/
theorem step_of_starting (hs : s.phase = .starting) (h : step emit s a = some t) :
    ∃ r, a = .startup r := by
  cases a <;> simp [step, callStep, connectStep, produceStep, peekStep, grantedStep,
    shutdownStep, hs, Phase.running] at h ⊢

/-- A call checked with `?` moves to its next phase or returns its wrapped error. -/
theorem callStep_phase {here next : Phase} {wrap : String → Error} {r : Except String Unit}
    (h : callStep s here next wrap r = some t) :
    s.phase = here ∧ (∀ u, r = .ok u → t.phase = next) ∧
      ∀ m, r = .error m → t.phase = .returned (.err (wrap m)) := by
  unfold callStep at h
  split_ifs at h with hph
  cases h
  exact ⟨hph, fun u hu => by subst hu; rfl, fun m hm => by subst hm; rfl⟩

/-- The connect loop is left only by a successful connect; shutdown is not polled there. -/
theorem step_of_connecting (hs : s.phase = .connecting) (h : step emit s a = some t) :
    a = .connect (.ok ()) ∨ t.phase = .connecting := by
  cases a with
  | connect r =>
    obtain ⟨-, rfl | ⟨m, rfl⟩⟩ := connectStep_eq_some h
    · cases r with
      | ok u => exact .inl rfl
      | error m => simp [step, connectStep, hs] at h
    · exact .inr hs
  | _ => simp [step, callStep, produceStep, peekStep, grantedStep, shutdownStep, hs,
      Phase.running] at h

/-- The phases before the send loop. -/
def Phase.preLoop : Phase → Bool
  | .starting => true
  | .binding => true
  | .connecting => true
  | .spawning => true
  | .peeking => false
  | .selecting _ => false
  | .returned _ => false

theorem Phase.preLoop_of_running {p : Phase} (h : p.running) : p.preLoop = false := by
  cases p <;> first | rfl | cases h

/-- A step into a phase before the send loop comes from one, and makes no call on the loop's
collaborators. -/
theorem step_preLoop (h : step emit s a = some t) (ht : t.phase.preLoop) :
    s.phase.preLoop ∧ t.log = s.log := by
  cases a with
  | startup r | unbound r | spawn r =>
    obtain ⟨hph, p, rfl, -⟩ := callStep_eq_some h
    exact ⟨by rw [hph]; rfl, rfl⟩
  | connect r =>
    obtain ⟨hph, rfl | ⟨m, rfl⟩⟩ := connectStep_eq_some h <;> exact ⟨by rw [hph]; rfl, rfl⟩
  | produce =>
    obtain ⟨hrun, -, rfl⟩ := produceStep_eq_some h
    simp [Phase.preLoop_of_running hrun] at ht
  | peek =>
    obtain ⟨hph, ⟨blk, rest, -, ⟨-, rfl⟩ | ⟨-, rfl⟩⟩ | ⟨-, -, rfl⟩⟩ := peekStep_eq_some h <;>
      simp [hph, Phase.preLoop] at ht
  | granted r =>
    obtain ⟨tb, blk, rest, -, -, rfl⟩ := grantedStep_eq_some h
    simp [Phase.preLoop] at ht
  | shutdown =>
    obtain ⟨tb, -, rfl⟩ := shutdownStep_eq_some h
    simp [Phase.preLoop] at ht

/-- Before the send loop the child has made no call on the loop's collaborators. -/
theorem cacheReachable_log (h : CacheReachable emit s) (hs : s.phase.preLoop) : s.log = [] := by
  induction h with
  | refl => rfl
  | tail _ hnext ih =>
    rcases hnext with ⟨a, ha⟩ | ha
    · obtain ⟨hpre, hlog⟩ := step_preLoop ha hs
      exact hlog.trans (ih hpre)
    · obtain ⟨hrun, -, rfl⟩ := cacheEnd_eq_some ha
      simp [Phase.preLoop_of_running hrun] at hs

/-- The steps into `returned`: a failed wait for the startup broadcast, a failed
`unbound()` or thread spawn before the loop (`Error::Io`), the shutdown branch (`Ok(())`),
and the peek on a closed, drained channel (a panic). -/
theorem step_eq_returned {r : Ret Error Unit} (h : step emit s a = some t)
    (hr : t.phase = .returned r) :
    (∃ m, a = .startup (.error m)) ∨ r = .ok () ∨
      (∃ m, r = .err (.io m) ∧ s.phase.preLoop ∧ t.log = s.log) ∨
      r = .panic blockCacheEmpty ∧ t.rcv.closed = true := by
  cases a with
  | startup e =>
    obtain ⟨-, hok, -⟩ := callStep_phase h
    cases e with
    | ok u => cases (hok u rfl).symm.trans hr
    | error m => exact .inl ⟨m, rfl⟩
  | unbound e | spawn e =>
    obtain ⟨hph, hok, herr⟩ := callStep_phase h
    obtain ⟨-, p, rfl, -⟩ := callStep_eq_some h
    cases e with
    | ok u => cases (hok u rfl).symm.trans hr
    | error m =>
      cases (herr m rfl).symm.trans hr
      exact .inr (.inr (.inl ⟨m, rfl, by rw [hph]; rfl, rfl⟩))
  | connect e =>
    obtain ⟨hph, rfl | ⟨m, rfl⟩⟩ := connectStep_eq_some h
    · cases hr
    · cases hph.symm.trans hr
  | produce =>
    obtain ⟨hrun, -, rfl⟩ := produceStep_eq_some h
    rw [show s.phase = .returned r from hr] at hrun
    cases hrun
  | peek =>
    obtain ⟨hph, ⟨blk, rest, -, ⟨-, rfl⟩ | ⟨-, rfl⟩⟩ | ⟨-, hclosed, rfl⟩⟩ := peekStep_eq_some h
    · cases hph.symm.trans hr
    · cases hr
    · cases hr
      exact .inr (.inr (.inr ⟨rfl, hclosed⟩))
  | granted e =>
    obtain ⟨tb, blk, rest, -, -, rfl⟩ := grantedStep_eq_some h
    rw [afterSend_phase] at hr
    cases hr
  | shutdown =>
    obtain ⟨tb, -, rfl⟩ := shutdownStep_eq_some h
    cases hr
    exact .inr (.inl rfl)

end ChildSteps

/-! ## What each generator step does -/

section Inversion

variable {emit : Nat → Nat → Block} {g g' : GeneratorState}

theorem generatorStep_sendStartup_eq_some (h : generatorStep emit g .sendStartup = some g') :
    g.parent = .starting ∧
      g' = if g.children.all (·.phase.isReturned) then
          { g with parent := .returned (.err .startupSend) }
        else { g with parent := .waiting, startupSent := true } := by
  simp only [generatorStep] at h
  split at h
  · rename_i hp
    exact ⟨hp, (Option.some.inj h).symm⟩
  · cases h

theorem generatorStep_signal : generatorStep emit g .signal = some { g with shutdown := true } :=
  rfl

theorem generatorStep_wake_eq_some (h : generatorStep emit g .wake = some g') :
    g.parent = .waiting ∧ g.shutdown = true ∧ g' = { g with parent := .joining } := by
  simp only [generatorStep] at h
  split at h
  · rename_i hp
    exact ⟨hp.1, hp.2, (Option.some.inj h).symm⟩
  · cases h

theorem generatorStep_join_eq_some (h : generatorStep emit g .join = some g') :
    g.parent = .joining ∧ ∃ rs, joinAll g.children = some rs ∧
      g' = { g with parent := .returned (joinResults rs) } := by
  simp only [generatorStep] at h
  split at h
  · rename_i hp
    obtain ⟨rs, hrs, rfl⟩ := Option.map_eq_some'.mp h
    exact ⟨hp, rs, hrs, rfl⟩
  · cases h

theorem generatorStep_child_eq_some {i : Nat} {a : Action}
    (h : generatorStep emit g (.child i a) = some g') :
    g.admits a = true ∧ ∃ c c', g.children[i]? = some c ∧ step (emit i) c a = some c' ∧
      g' = { g with children := g.children.set i c' } := by
  simp only [generatorStep] at h
  split at h
  · rename_i ha
    split at h
    · rename_i c hc
      obtain ⟨c', hc', rfl⟩ := Option.map_eq_some'.mp h
      exact ⟨ha, c, c', hc, hc', rfl⟩
    · cases h
  · cases h

theorem generatorStep_cacheEnds_eq_some {i : Nat}
    (h : generatorStep emit g (.cacheEnds i) = some g') :
    ∃ c c', g.children[i]? = some c ∧ cacheEnd c = some c' ∧
      g' = { g with children := g.children.set i c' } := by
  simp only [generatorStep] at h
  split at h
  · rename_i c hc
    obtain ⟨c', hc', rfl⟩ := Option.map_eq_some'.mp h
    exact ⟨c, c', hc, hc', rfl⟩
  · cases h

/-- What a generator step does to child `i`: nothing, or a step of that child or of its block
cache thread. -/
theorem generatorStep_childAt {i : Nat} {c : SpinState} {a : GeneratorAction}
    (h : generatorStep emit g a = some g') (hc : g.children[i]? = some c) :
    g'.children[i]? = some c ∨ ∃ c', g'.children[i]? = some c' ∧
      ((∃ a', a = .child i a' ∧ step (emit i) c a' = some c') ∨
        a = .cacheEnds i ∧ cacheEnd c = some c') := by
  have hself : ∀ d', (g.children.set i d')[i]? = some d' :=
    fun d' => List.getElem?_set_self (List.getElem?_eq_some_iff.mp hc).1
  cases a with
  | sendStartup =>
    obtain ⟨-, rfl⟩ := generatorStep_sendStartup_eq_some h
    split_ifs <;> exact .inl hc
  | signal => cases h; exact .inl hc
  | wake => obtain ⟨-, -, rfl⟩ := generatorStep_wake_eq_some h; exact .inl hc
  | join => obtain ⟨-, rs, -, rfl⟩ := generatorStep_join_eq_some h; exact .inl hc
  | child j a' =>
    obtain ⟨-, d, d', hd, hstep, rfl⟩ := generatorStep_child_eq_some h
    by_cases hji : j = i
    · subst hji
      obtain rfl : d = c := Option.some.inj (hd.symm.trans hc)
      exact .inr ⟨d', hself d', .inl ⟨a', rfl, hstep⟩⟩
    · exact .inl (by rw [List.getElem?_set_ne hji]; exact hc)
  | cacheEnds j =>
    obtain ⟨d, d', hd, hend, rfl⟩ := generatorStep_cacheEnds_eq_some h
    by_cases hji : j = i
    · subst hji
      obtain rfl : d = c := Option.some.inj (hd.symm.trans hc)
      exact .inr ⟨d', hself d', .inr ⟨rfl, hend⟩⟩
    · exact .inl (by rw [List.getElem?_set_ne hji]; exact hc)

end Inversion

/-! ## `join_all` -/

section Join

theorem joinAll_isReturned {cs : List SpinState} {rs : List (Ret Error Unit)}
    (h : joinAll cs = some rs) : ∀ c ∈ cs, c.phase.isReturned := by
  induction cs generalizing rs with
  | nil => simp
  | cons c cs ih =>
    cases hc : c.phase
    case returned r =>
      simp only [joinAll, hc] at h
      obtain ⟨rs', hrs', -⟩ := Option.map_eq_some'.mp h
      exact List.forall_mem_cons.mpr ⟨by simp [hc, Phase.isReturned], ih hrs'⟩
    all_goals simp [joinAll, hc] at h

/-- Child `c` has returned something other than `Ok(())`, which `spin` reports as `e`: an I/O
error it returned before making any send, or the panic of its peek on its closed and drained
channel, which `join_all` yields as a `JoinError`. -/
def FailedWith (c : SpinState) (e : SpinError) : Prop :=
  (∃ m, c.phase = .returned (.err (.io m)) ∧ c.log = [] ∧ e = .returned (.io m)) ∨
    c.phase = .returned (.panic blockCacheEmpty) ∧ c.rcv.closed = true ∧
      e = .child blockCacheEmpty

end Join

/-! ## The invariant -/

/-- What holds at every reachable state of a generator with `n` children. -/
structure GeneratorInv (emit : Nat → Nat → Block) (n : Nat) (g : GeneratorState) : Prop where
  length : g.children.length = n
  reachable : ∀ i c, g.children[i]? = some c → CacheReachable (emit i) c
  barrier : g.startupSent = false → ∀ c ∈ g.children, c = init
  outcome : ∀ c ∈ g.children, ∀ r, c.phase = .returned r → r = .ok () ∨ ∃ e, FailedWith c e
  sent : g.startupSent = true → g.children ≠ []
  starting : g.parent = .starting → g.startupSent = false
  waiting : g.parent = .waiting → g.startupSent = true
  joining : g.parent = .joining → g.startupSent = true ∧ g.shutdown = true
  returned : ∀ r, g.parent = .returned r → (g.children = [] ∧ r = .err .startupSend) ∨
    (g.startupSent = true ∧ g.shutdown = true ∧ ∃ rs, joinAll g.children = some rs ∧
      r = joinResults rs)

theorem generatorInv_init (emit : Nat → Nat → Block) (n : Nat) :
    GeneratorInv emit n (GeneratorState.init n) where
  length := List.length_replicate n init
  reachable i c h := by
    obtain ⟨-, rfl⟩ : i < n ∧ init = c := by
      simpa [GeneratorState.init, List.getElem?_replicate] using h
    exact .refl
  barrier _ c hc := List.eq_of_mem_replicate hc
  outcome c hc r h := by cases (List.eq_of_mem_replicate hc ▸ h : Phase.starting = _)
  sent h := by cases h
  starting _ := rfl
  waiting h := by cases h
  joining h := by cases h
  returned r h := by cases h

section Preservation

variable {emit : Nat → Nat → Block} {n : Nat} {g g' : GeneratorState}

/-- A returned parent has joined every child, if it had any. -/
theorem GeneratorInv.children_returned (hi : GeneratorInv emit n g) {r : Ret SpinError Unit}
    (hr : g.parent = .returned r) : ∀ c ∈ g.children, c.phase.isReturned := by
  rcases hi.returned r hr with ⟨hnil, -⟩ | ⟨-, -, rs, hrs, -⟩
  · simp [hnil]
  · exact joinAll_isReturned hrs

theorem GeneratorInv.sendStartup (hi : GeneratorInv emit n g)
    (h : generatorStep emit g .sendStartup = some g') : GeneratorInv emit n g' := by
  obtain ⟨hp, rfl⟩ := generatorStep_sendStartup_eq_some h
  have hinit := hi.barrier (hi.starting hp)
  split_ifs with hall
  · have hnil : g.children = [] := List.eq_nil_iff_forall_not_mem.mpr fun c hc => by
      simpa [hinit c hc, init, Phase.isReturned] using List.all_eq_true.mp hall c hc
    exact { hi with
      starting := fun h => by cases h
      waiting := fun h => by cases h
      joining := fun h => by cases h
      returned := fun r h => by cases h; exact .inl ⟨hnil, rfl⟩ }
  · exact { hi with
      barrier := fun h => by cases h
      sent := fun _ (hnil : g.children = []) => hall (by simp [hnil])
      starting := fun h => by cases h
      waiting := fun _ => rfl
      joining := fun h => by cases h
      returned := fun r h => by cases h }

theorem GeneratorInv.signal (hi : GeneratorInv emit n g) :
    GeneratorInv emit n { g with shutdown := true } :=
  { hi with
    joining := fun h => ⟨(hi.joining h).1, rfl⟩
    returned := fun r h => (hi.returned r h).imp id fun ⟨hs, _, hj⟩ => ⟨hs, rfl, hj⟩ }

theorem GeneratorInv.wake (hi : GeneratorInv emit n g)
    (h : generatorStep emit g .wake = some g') : GeneratorInv emit n g' := by
  obtain ⟨hp, hs, rfl⟩ := generatorStep_wake_eq_some h
  exact { hi with
    starting := fun h => by cases h
    waiting := fun h => by cases h
    joining := fun _ => ⟨hi.waiting hp, hs⟩
    returned := fun r h => by cases h }

theorem GeneratorInv.join (hi : GeneratorInv emit n g)
    (h : generatorStep emit g .join = some g') : GeneratorInv emit n g' := by
  obtain ⟨hp, rs, hrs, rfl⟩ := generatorStep_join_eq_some h
  exact { hi with
    starting := fun h => by cases h
    waiting := fun h => by cases h
    joining := fun h => by cases h
    returned := fun r h => by
      cases h
      exact .inr ⟨(hi.joining hp).1, (hi.joining hp).2, rs, hrs, rfl⟩ }

/-- A child steps only after the broadcast, and never by a failed wait for it. -/
theorem GeneratorInv.child_admitted (hi : GeneratorInv emit n g) {i : Nat} {a : Action}
    {c c' : SpinState} (ha : g.admits a = true) (hc : g.children[i]? = some c)
    (hstep : step (emit i) c a = some c') :
    g.startupSent = true ∧ ∀ m, a ≠ .startup (.error m) := by
  refine ⟨?_, fun m hm => by simp [hm, GeneratorState.admits] at ha⟩
  cases hs : g.startupSent
  · obtain ⟨r, rfl⟩ := step_of_starting
      (by rw [hi.barrier hs c (List.getElem?_mem hc)]; rfl) hstep
    cases r <;> simp [GeneratorState.admits, hs] at ha
  · rfl

/-- Replacing child `i` by a state one move of its own away keeps the invariant, when the
new state returned only as a child may and the parent has not returned. -/
theorem GeneratorInv.set (hi : GeneratorInv emit n g) {i : Nat} {c c' : SpinState}
    (hc : g.children[i]? = some c) (hnext : CacheNext (emit i) c c') (hsent : g.startupSent)
    (hout : ∀ r, c'.phase = .returned r → r = .ok () ∨ ∃ e, FailedWith c' e)
    (hret : c.phase.isReturned = false) :
    GeneratorInv emit n { g with children := g.children.set i c' } := by
  have hlt : i < g.children.length := (List.getElem?_eq_some_iff.mp hc).1
  refine { hi with
    length := by simp [hi.length]
    reachable := fun j d hd => ?_
    barrier := fun h => by simp [hsent] at h
    sent := fun hs (hnil : g.children.set i c' = []) =>
      hi.sent hs ((List.set_eq_nil_iff i c').mp hnil)
    outcome := fun d hd r hr => ?_
    returned := fun r hr => ?_ }
  · by_cases hji : i = j
    · subst hji
      rw [List.getElem?_set_self hlt] at hd
      cases hd
      exact (hi.reachable i c hc).tail hnext
    · rw [List.getElem?_set_ne hji] at hd
      exact hi.reachable j d hd
  · rcases List.mem_or_eq_of_mem_set hd with hd | rfl
    · exact hi.outcome d hd r hr
    · exact hout r hr
  · have := hi.children_returned hr c (List.getElem?_mem hc)
    rw [hret] at this
    cases this

theorem GeneratorInv.child (hi : GeneratorInv emit n g) {i : Nat} {a : Action}
    (h : generatorStep emit g (.child i a) = some g') : GeneratorInv emit n g' := by
  obtain ⟨ha, c, c', hc, hstep, rfl⟩ := generatorStep_child_eq_some h
  obtain ⟨hsent, hnofail⟩ := hi.child_admitted ha hc hstep
  refine hi.set hc (.inl ⟨a, hstep⟩) hsent (fun r hr => ?_) (step_isReturned hstep)
  rcases step_eq_returned hstep hr with ⟨m, rfl⟩ | rfl | ⟨m, rfl, hpre, hlog⟩ | ⟨rfl, hclosed⟩
  · exact absurd rfl (hnofail m)
  · exact .inl rfl
  · exact .inr ⟨_, .inl ⟨m, hr, hlog.trans (cacheReachable_log (hi.reachable i c hc) hpre), rfl⟩⟩
  · exact .inr ⟨_, .inr ⟨hr, hclosed, rfl⟩⟩

theorem GeneratorInv.cacheEnds (hi : GeneratorInv emit n g) {i : Nat}
    (h : generatorStep emit g (.cacheEnds i) = some g') : GeneratorInv emit n g' := by
  obtain ⟨c, c', hc, hend, rfl⟩ := generatorStep_cacheEnds_eq_some h
  obtain ⟨hrun, -, rfl⟩ := cacheEnd_eq_some hend
  have hsent : g.startupSent = true := by
    cases hs : g.startupSent
    · rw [hi.barrier hs c (List.getElem?_mem hc)] at hrun; cases hrun
    · rfl
  have hret : c.phase.isReturned = false := by
    cases hph : c.phase <;> rw [hph] at hrun <;> first | rfl | cases hrun
  exact hi.set hc (.inr hend) hsent
    (fun r hr => by rw [show c.phase = _ from hr] at hret; cases hret) hret

theorem GeneratorInv.step (hi : GeneratorInv emit n g) {a : GeneratorAction}
    (h : generatorStep emit g a = some g') : GeneratorInv emit n g' := by
  cases a with
  | sendStartup => exact hi.sendStartup h
  | signal => cases h; exact hi.signal
  | wake => exact hi.wake h
  | join => exact hi.join h
  | child i a => exact hi.child h
  | cacheEnds i => exact hi.cacheEnds h

theorem reachable_generatorInv (h : GeneratorReachable emit n g) : GeneratorInv emit n g := by
  induction h with
  | refl => exact generatorInv_init emit n
  | tail _ hnext ih => exact ih.step hnext.choose_spec

end Preservation

/-! ## The generator's contract -/

section Contract

variable {emit : Nat → Nat → Block} {n : Nat} {g g' : GeneratorState}

/-- Every child of a reachable generator is at a state `Child::spin` reaches on its own
emission order, under any interleaving of the children, their block cache threads, the parent
and the driver; while its block cache thread runs, at a state its own steps reach, so that the
contracts of the send loop hold for it. -/
theorem generatorReachable_children (h : GeneratorReachable emit n g) :
    g.children.length = n ∧ ∀ i c, g.children[i]? = some c →
      CacheReachable (emit i) c ∧ (c.rcv.closed = false → Reachable (emit i) c) :=
  let hi := reachable_generatorInv h
  ⟨hi.length, fun i c hc => ⟨hi.reachable i c hc, (hi.reachable i c hc).reachable⟩⟩

/-- A step other than child `i`'s successful connect leaves child `i` in its connect loop. -/
theorem generatorStep_connecting {i : Nat} {c : SpinState} {a : GeneratorAction}
    (h : generatorStep emit g a = some g') (ha : a ≠ .child i (.connect (.ok ())))
    (hc : g.children[i]? = some c) (hph : c.phase = .connecting) :
    ∃ c', g'.children[i]? = some c' ∧ c'.phase = .connecting := by
  rcases generatorStep_childAt h hc with hc' | ⟨c', hc', ⟨a', rfl, hstep⟩ | ⟨-, hend⟩⟩
  · exact ⟨c, hc', hph⟩
  · rcases step_of_connecting hph hstep with rfl | hph'
    · exact absurd rfl ha
    · exact ⟨c', hc', hph'⟩
  · obtain ⟨hrun, -⟩ := cacheEnd_eq_some hend
    simp [hph, Phase.running] at hrun

/-- A run in which child `i` never connects leaves it in its connect loop. -/
theorem generatorRun_connecting {i : Nat} {c : SpinState} {as : List GeneratorAction}
    (hc : g.children[i]? = some c) (hph : c.phase = .connecting)
    (has : ∀ a ∈ as, a ≠ .child i (.connect (.ok ())))
    (hrun : generatorRun emit g as = some g') :
    ∃ c', g'.children[i]? = some c' ∧ c'.phase = .connecting := by
  induction as generalizing g c with
  | nil => cases hrun; exact ⟨c, hc, hph⟩
  | cons a as ih =>
    obtain ⟨g₁, h₁, hrest⟩ := Option.bind_eq_some.mp hrun
    obtain ⟨c₁, hc₁, hph₁⟩ :=
      generatorStep_connecting h₁ (has a (List.mem_cons_self _ _)) hc hph
    exact ih hc₁ hph₁ (fun a' ha' => has a' (List.mem_cons_of_mem _ ha')) hrest

/-- The connect loop does not poll shutdown. While child `i`'s connects fail, it stays in the
loop whatever else happens, the shutdown signal included, and `spin`, which joins every
child, cannot return. -/
theorem connect_loop_blocks_spin (h : GeneratorReachable emit n g) {i : Nat} {c : SpinState}
    (hc : g.children[i]? = some c) (hph : c.phase = .connecting) {as : List GeneratorAction}
    (has : ∀ a ∈ as, a ≠ .child i (.connect (.ok ()))) (hrun : generatorRun emit g as = some g') :
    (∃ c', g'.children[i]? = some c' ∧ c'.phase = .connecting) ∧
      ∀ r, g'.parent ≠ .returned r := by
  obtain ⟨c', hc', hph'⟩ := generatorRun_connecting hc hph has hrun
  refine ⟨⟨c', hc', hph'⟩, fun r hr => ?_⟩
  have := (reachable_generatorInv (generatorRun_reachable as h hrun)).children_returned hr c'
    (List.getElem?_mem hc')
  simp [hph', Phase.isReturned] at this

/-- A generator of two children on one-byte blocks. The first connects on its second try,
sends one block and takes the shutdown branch at its next `select!`; the second connects, but
its block cache thread ends before sending anything, and its peek panics. The driver signals
shutdown and the parent joins both. -/
def twoChildRun : List GeneratorAction :=
  [.sendStartup, .child 0 (.startup (.ok ())), .child 1 (.startup (.ok ())),
    .child 0 (.unbound (.ok ())), .child 1 (.unbound (.ok ())),
    .child 0 (.connect (.error "No such file or directory (os error 2)")),
    .child 0 (.connect (.ok ())), .child 1 (.connect (.ok ())), .child 0 (.spawn (.ok ())),
    .child 1 (.spawn (.ok ())), .cacheEnds 1, .child 1 .peek, .child 0 .produce,
    .child 0 .peek, .child 0 (.granted (.ok 1)), .child 0 .produce, .child 0 .peek, .signal,
    .child 0 .shutdown, .wake, .join]

theorem twoChildRun_children :
    ∃ g, generatorRun (fun _ _ => oneByte) (GeneratorState.init 2) twoChildRun = some g ∧
      g.children.length = 2 ∧ ∀ (i : Nat) (c : SpinState), g.children[i]? = some c →
        CacheReachable (fun _ => oneByte) c ∧
          (c.rcv.closed = false → Reachable (fun _ => oneByte) c) :=
  ⟨_, rfl, generatorReachable_children
    (@generatorRun_reachable (fun _ _ => oneByte) 2 _ _ twoChildRun .refl rfl)⟩

/-- One child whose socket path does not exist: it keeps failing to connect while the driver
signals shutdown and the parent wakes to join it. -/
def unconnectedRun : List GeneratorAction :=
  [.sendStartup, .child 0 (.startup (.ok ())), .child 0 (.unbound (.ok ()))]

/-- Two failed connects around the shutdown signal and the parent's wake. -/
def failedConnects : List GeneratorAction :=
  [.child 0 (.connect (.error "No such file or directory (os error 2)")), .signal, .wake,
    .child 0 (.connect (.error "No such file or directory (os error 2)"))]

theorem spin_waits_for_unconnected_child :
    ∃ g c g', generatorRun (fun _ _ => oneByte) (GeneratorState.init 1) unconnectedRun = some g ∧
      g.children[0]? = some c ∧ c.phase = .connecting ∧
      (∀ a ∈ failedConnects, a ≠ .child 0 (.connect (.ok ()))) ∧
      generatorRun (fun _ _ => oneByte) g failedConnects = some g' ∧
      (∃ c', g'.children[0]? = some c' ∧ c'.phase = .connecting) ∧
      ∀ r, g'.parent ≠ .returned r :=
  ⟨_, _, _, rfl, rfl, rfl, by simp [failedConnects], rfl,
    @connect_loop_blocks_spin (fun _ _ => oneByte) 1 _ _
      (generatorRun_reachable unconnectedRun .refl rfl) 0 _ rfl rfl failedConnects
      (by simp [failedConnects]) rfl⟩

end Contract

end Lading.Generator.UnixDatagram
