import Lading.Verification.UnixDatagram.Semantics

/-! # The send loop refines its sequential meaning -/

namespace Lading.Generator.UnixDatagram

/-- The phases at which the receiver's slot holds the peeked block. -/
def Phase.holdsBlock : Phase → Bool
  | .selecting _ => true
  | .returned (.ok _) => true
  | _ => false

/-! ## What each step does -/

section Inversion

variable {s t : SpinState}

theorem callStep_eq_some {here next : Phase} {wrap : String → Error} {r : Except String Unit}
    (h : callStep s here next wrap r = some t) :
    s.phase = here ∧ ∃ p, t = { s with phase := p } ∧ (p = next ∨ ∃ e, p = .returned (.err e)) := by
  unfold callStep at h
  split at h
  · refine ⟨‹_›, _, (Option.some.inj h).symm, ?_⟩
    cases r
    · exact .inr ⟨_, rfl⟩
    · exact .inl rfl
  · cases h

theorem connectStep_eq_some {r : Except String Unit} (h : connectStep s r = some t) :
    s.phase = .connecting ∧ (t = { s with phase := .spawning } ∨
      ∃ m, t = { s with connectionFailure := s.connectionFailure ++ [m] }) := by
  unfold connectStep at h
  split at h
  · refine ⟨‹_›, ?_⟩
    cases r
    · exact .inr ⟨_, (Option.some.inj h).symm⟩
    · exact .inl (Option.some.inj h).symm
  · cases h

theorem produceStep_eq_some {emit : Nat → Block} (h : produceStep s emit = some t) :
    s.phase.running ∧ s.rcv.closed = false ∧
      t = { s with rcv := s.rcv.push (emit s.produced), produced := s.produced + 1 } := by
  unfold produceStep at h
  split at h
  · exact ⟨‹_ ∧ _›.1, ‹_ ∧ _ ∧ _›.2.1, (Option.some.inj h).symm⟩
  · cases h

/-- The top of the loop skips the peeked block, enters the `select!` with it, or panics on a
closed and drained channel. -/
theorem peekStep_eq_some (h : peekStep s = some t) :
    s.phase = .peeking ∧ ((∃ blk rest,
      s.rcv.peek = some (blk, ⟨some blk, rest, s.rcv.closed⟩) ∧
      ((s.maxDetectedBytes < blk.totalBytes.get ∧
          t = { s with rcv := ⟨none, rest, s.rcv.closed⟩, log := s.log ++ [.next blk] }) ∨
        (blk.totalBytes.get ≤ s.maxDetectedBytes ∧
          t = { s with phase := .selecting blk.totalBytes,
                       rcv := ⟨some blk, rest, s.rcv.closed⟩ }))) ∨
      (s.rcv.pending = [] ∧ s.rcv.closed = true ∧
        t = { s with phase := .returned (.panic blockCacheEmpty) })) := by
  unfold peekStep at h
  split at h
  · rename_i blk rcv hph hpeek
    obtain ⟨rest, -, rfl, -⟩ := PeekableReceiver.peek_eq_some.mp hpeek
    refine ⟨hph, .inl ⟨blk, rest, hpeek, ?_⟩⟩
    split at h
    · exact .inl ⟨‹_›, (Option.some.inj h).symm⟩
    · exact .inr ⟨by omega, (Option.some.inj h).symm⟩
  · rename_i hph hpeek
    split at h
    · exact ⟨hph, .inr ⟨PeekableReceiver.peek_eq_none.mp hpeek, ‹_›, (Option.some.inj h).symm⟩⟩
    · cases h
  · cases h

theorem grantedStep_eq_some {r : SendResult} (h : grantedStep s r = some t) :
    ∃ tb blk rest, s.phase = .selecting tb ∧ s.rcv.next = some (blk, ⟨none, rest, s.rcv.closed⟩) ∧
      t = afterSend { s with
        phase := .peeking, rcv := ⟨none, rest, s.rcv.closed⟩,
        log := s.log ++ [.waitFor tb.get, .next blk, .send blk.bytes r] } blk r := by
  unfold grantedStep at h
  split at h
  · rename_i tb blk rcv hph hnext
    obtain ⟨rest, -, rfl⟩ := PeekableReceiver.next_eq_some.mp hnext
    exact ⟨tb, blk, rest, hph, hnext, (Option.some.inj h).symm⟩
  · cases h

theorem shutdownStep_eq_some (h : shutdownStep s = some t) :
    ∃ tb, s.phase = .selecting tb ∧ t = { s with phase := .returned (.ok ()) } := by
  unfold shutdownStep at h
  split at h
  · exact ⟨_, ‹_›, (Option.some.inj h).symm⟩
  · cases h

theorem cacheEnd_eq_some (h : cacheEnd s = some t) :
    s.phase.running ∧ s.rcv.closed = false ∧ t = { s with rcv := s.rcv.close } := by
  unfold cacheEnd at h
  split at h
  · exact ⟨‹_ ∧ _›.1, ‹_ ∧ _›.2, (Option.some.inj h).symm⟩
  · cases h

@[simp] theorem afterSend_phase (blk : Block) (r : SendResult) :
    (afterSend s blk r).phase = s.phase := by cases r <;> rfl

@[simp] theorem afterSend_rcv (blk : Block) (r : SendResult) :
    (afterSend s blk r).rcv = s.rcv := by cases r <;> rfl

@[simp] theorem afterSend_produced (blk : Block) (r : SendResult) :
    (afterSend s blk r).produced = s.produced := by cases r <;> rfl

@[simp] theorem afterSend_log (blk : Block) (r : SendResult) :
    (afterSend s blk r).log = s.log := by cases r <;> rfl

/-- A child that has returned takes no step. -/
theorem step_of_returned {emit : Nat → Block} {r : Ret Error Unit} (hs : s.phase = .returned r)
    (a : Action) : step emit s a = none := by
  cases a <;> simp [step, callStep, connectStep, produceStep, peekStep, grantedStep,
    shutdownStep, hs, Phase.running]

/-- Nor does its block cache thread move it any more. -/
theorem cacheNext_of_returned {emit : Nat → Block} {r : Ret Error Unit}
    (hs : s.phase = .returned r) : ¬ CacheNext emit s t := by
  rintro (⟨a, ha⟩ | ha)
  · rw [step_of_returned hs] at ha
    cases ha
  · obtain ⟨hrun, -⟩ := cacheEnd_eq_some ha
    simp [hs, Phase.running] at hrun

/-- The child's own steps never close its channel: only the cache thread's end does. -/
theorem step_closed {emit : Nat → Block} {a : Action} (h : step emit s a = some t) :
    t.rcv.closed = s.rcv.closed := by
  cases a with
  | startup r | unbound r | spawn r => obtain ⟨-, p, rfl, -⟩ := callStep_eq_some h; rfl
  | connect r => obtain ⟨-, rfl | ⟨m, rfl⟩⟩ := connectStep_eq_some h <;> rfl
  | produce => obtain ⟨-, -, rfl⟩ := produceStep_eq_some h; rfl
  | peek =>
    obtain ⟨-, ⟨blk, rest, -, ⟨-, rfl⟩ | ⟨-, rfl⟩⟩ | ⟨-, -, rfl⟩⟩ := peekStep_eq_some h <;> rfl
  | granted r => obtain ⟨tb, blk, rest, -, -, rfl⟩ := grantedStep_eq_some h; simp
  | shutdown => obtain ⟨tb, -, rfl⟩ := shutdownStep_eq_some h; rfl

@[simp] theorem afterSend_maxDetectedBytes (blk : Block) (r : SendResult) :
    (afterSend s blk r).maxDetectedBytes = ceilingAfter s.maxDetectedBytes blk r := by
  cases r <;> rfl

end Inversion

/-! ## The invariant -/

/-- What holds of a reachable state that has taken `k` blocks off the channel. -/
structure Inv (emit : Nat → Block) (s : SpinState) (k : Nat) : Prop where
  served : Served emit k s.maxDetectedBytes s.log
  taken_le : k ≤ s.produced
  pending : s.rcv.pending = window emit k s.produced
  slot : s.rcv.peeked = if s.phase.holdsBlock then some (emit k) else none
  selecting : ∀ tb, s.phase = .selecting tb →
    tb = (emit k).totalBytes ∧ tb.get ≤ s.maxDetectedBytes

theorem inv_init (emit : Nat → Block) : Inv emit init 0 :=
  ⟨.start, le_rfl, rfl, rfl, fun _ h => (by cases h)⟩

section Preservation

variable {emit : Nat → Block} {s t : SpinState} {k : Nat}

/-- A phase change outside the send loop keeps the invariant. -/
theorem Inv.setPhase (hi : Inv emit s k) {p : Phase} (hs : s.phase.holdsBlock = false)
    (hp : p.holdsBlock = false) (hsel : ∀ tb, p ≠ .selecting tb) :
    Inv emit { s with phase := p } k :=
  { hi with
    slot := by simpa [hs, hp] using hi.slot
    selecting := fun tb h => absurd h (hsel tb) }

theorem Inv.callStep (hi : Inv emit s k) {here next : Phase} {wrap : String → Error}
    {r : Except String Unit} (h : callStep s here next wrap r = some t)
    (hh : here.holdsBlock = false) (hn : next.holdsBlock = false)
    (hsel : ∀ tb, next ≠ .selecting tb) : Inv emit t k := by
  obtain ⟨rfl, p, rfl, hp⟩ := callStep_eq_some h
  rcases hp with rfl | ⟨e, rfl⟩
  · exact hi.setPhase hh hn hsel
  · exact hi.setPhase hh rfl (fun _ h => by cases h)

theorem Inv.connectStep (hi : Inv emit s k) {r : Except String Unit}
    (h : connectStep s r = some t) : Inv emit t k := by
  obtain ⟨hph, rfl | ⟨m, rfl⟩⟩ := connectStep_eq_some h
  · exact hi.setPhase (by simp [hph, Phase.holdsBlock]) rfl (fun _ h => by cases h)
  · exact { hi with selecting := fun tb h => by simp [hph] at h }

theorem Inv.produceStep (hi : Inv emit s k) (h : produceStep s emit = some t) :
    Inv emit t k := by
  obtain ⟨-, -, rfl⟩ := produceStep_eq_some h
  exact { hi with
    taken_le := hi.taken_le.trans (Nat.le_succ _)
    pending := by simp [hi.pending, window_succ_right hi.taken_le]
    slot := by simpa using hi.slot }

theorem Inv.peekStep (hi : Inv emit s k) (h : peekStep s = some t) :
    Inv emit t k ∨ Inv emit t (k + 1) := by
  obtain ⟨hph, ⟨blk, rest, hpeek, hcase⟩ | ⟨-, -, rfl⟩⟩ := peekStep_eq_some h
  · have hslot : s.rcv.peeked = none := by simpa [hph, Phase.holdsBlock] using hi.slot
    obtain ⟨rest', hpend, hr, -⟩ := PeekableReceiver.peek_eq_some.mp hpeek
    cases hr
    obtain ⟨hlt, rfl, rfl⟩ := window_eq_cons_iff (hi.pending.symm.trans hpend)
    rcases hcase with ⟨hover, rfl⟩ | ⟨hfit, rfl⟩
    · exact .inr ⟨hi.served.skip hover, hlt, rfl, by simp [hph, Phase.holdsBlock],
        fun tb h => by simp [hph] at h⟩
    · exact .inl { hi with
        pending := by simp [window_eq_cons hlt]
        slot := by simp [Phase.holdsBlock]
        selecting := fun tb h => by cases h; exact ⟨rfl, hfit⟩ }
  · exact .inl (hi.setPhase (by simp [hph, Phase.holdsBlock]) rfl fun _ h => by cases h)

theorem Inv.grantedStep (hi : Inv emit s k) {r : SendResult} (h : grantedStep s r = some t) :
    Inv emit t (k + 1) := by
  obtain ⟨tb, blk, rest, hph, hnext, rfl⟩ := grantedStep_eq_some h
  obtain ⟨rfl, hfit⟩ := hi.selecting tb hph
  have hslot : s.rcv.peeked = some (emit k) := by simpa [hph, Phase.holdsBlock] using hi.slot
  obtain ⟨rest', hpend, hr⟩ := PeekableReceiver.next_eq_some.mp hnext
  cases hr
  have hw := hi.pending
  rw [PeekableReceiver.pending, hslot] at hw
  rw [PeekableReceiver.pending, hslot] at hpend
  obtain ⟨rfl, rfl⟩ : emit k = blk ∧ s.rcv.buffer = rest := by simpa using hpend
  obtain ⟨hlt, -, hrest⟩ := window_eq_cons_iff hw.symm
  refine ⟨?_, by simpa using hlt, by simpa using hrest, by simp [Phase.holdsBlock],
    fun tb h => by simp at h⟩
  simpa [sendCalls] using hi.served.sent r hfit

theorem Inv.shutdownStep (hi : Inv emit s k) (h : shutdownStep s = some t) : Inv emit t k := by
  obtain ⟨tb, hph, rfl⟩ := shutdownStep_eq_some h
  exact { hi with
    slot := by simpa [hph, Phase.holdsBlock] using hi.slot
    selecting := fun tb h => by cases h }

/-- Every action keeps the invariant, for the same count of blocks taken or one more. -/
theorem Inv.step (hi : Inv emit s k) {a : Action} (h : step emit s a = some t) :
    Inv emit t k ∨ Inv emit t (k + 1) := by
  cases a with
  | startup r => exact .inl (hi.callStep h rfl rfl (fun _ h => by cases h))
  | unbound r => exact .inl (hi.callStep h rfl rfl (fun _ h => by cases h))
  | connect r => exact .inl (hi.connectStep h)
  | spawn r => exact .inl (hi.callStep h rfl rfl (fun _ h => by cases h))
  | produce => exact .inl (hi.produceStep h)
  | peek => exact hi.peekStep h
  | granted r => exact .inr (hi.grantedStep h)
  | shutdown => exact .inl (hi.shutdownStep h)

/-- The end of the cache thread keeps every block sent and not yet taken. -/
theorem Inv.cacheEnd (hi : Inv emit s k) (h : cacheEnd s = some t) : Inv emit t k := by
  obtain ⟨-, -, rfl⟩ := cacheEnd_eq_some h
  exact { hi with pending := by simpa using hi.pending, slot := by simpa using hi.slot }

theorem Reachable.cacheReachable (h : Reachable emit s) : CacheReachable emit s :=
  Relation.ReflTransGen.mono (fun _ _ => .inl) h

theorem cacheReachable_inv (h : CacheReachable emit s) : ∃ k, Inv emit s k := by
  induction h with
  | refl => exact ⟨0, inv_init emit⟩
  | tail _ hnext ih =>
    obtain ⟨k, hk⟩ := ih
    rcases hnext with ⟨a, ha⟩ | ha
    · rcases hk.step ha with h' | h'
      · exact ⟨k, h'⟩
      · exact ⟨k + 1, h'⟩
    · exact ⟨k, hk.cacheEnd ha⟩

theorem reachable_inv (h : Reachable emit s) : ∃ k, Inv emit s k :=
  cacheReachable_inv h.cacheReachable

/-- A state the child reaches with its channel still open is reached by its own steps alone. -/
theorem CacheReachable.reachable (h : CacheReachable emit s) (hopen : s.rcv.closed = false) :
    Reachable emit s := by
  induction h with
  | refl => exact .refl
  | tail _ hnext ih =>
    rcases hnext with ⟨a, ha⟩ | ha
    · exact (ih ((step_closed ha).symm.trans hopen)).tail ⟨a, ha⟩
    · obtain ⟨-, -, rfl⟩ := cacheEnd_eq_some ha
      cases hopen

end Preservation

/-! ## The send loop's contract -/

/-- The contract of the send loop at a reachable state. It has taken the first `k` blocks of
the emission order, in order and each once, skipping exactly those over the ceiling of the
moment and charging each other one its own `total_bytes` before sending it; after a return
on shutdown the next block waits unconsumed in the receiver's slot; and the shutdown branch
changes neither the receiver, the counters nor the calls made. -/
structure SendLoopSpec (emit : Nat → Block) (s : SpinState) : Prop where
  serves : ∃ k, Served emit k s.maxDetectedBytes s.log ∧
    s.log.filterMap Event.taken? = (List.range k).map emit ∧
    (s.phase = .returned (.ok ()) →
      s.rcv.peeked = some (emit k) ∧ s.rcv.pending = window emit k s.produced)
  shutdown : ∀ t, step emit s .shutdown = some t →
    t.rcv = s.rcv ∧ t.bytesWritten = s.bytesWritten ∧ t.packetsSent = s.packetsSent ∧
      t.log = s.log

theorem shutdown_frame {emit : Nat → Block} {s t : SpinState}
    (h : step emit s .shutdown = some t) :
    t.rcv = s.rcv ∧ t.bytesWritten = s.bytesWritten ∧ t.packetsSent = s.packetsSent ∧
      t.log = s.log := by
  obtain ⟨tb, -, rfl⟩ := shutdownStep_eq_some h
  exact ⟨rfl, rfl, rfl, rfl⟩

theorem reachable_sendLoopSpec {emit : Nat → Block} {s : SpinState} (h : Reachable emit s) :
    SendLoopSpec emit s := by
  obtain ⟨k, hk⟩ := reachable_inv h
  refine ⟨⟨k, hk.served, hk.served.taken, fun hr => ⟨?_, hk.pending⟩⟩, fun _ => shutdown_frame⟩
  simpa [hr, Phase.holdsBlock] using hk.slot

/-- Blocks of three and of five bytes, alternating. -/
def alternating (i : Nat) : Block :=
  if i % 2 = 0 then (Block.tryFrom [0, 0, 0]).get rfl else (Block.tryFrom [0, 0, 0, 0, 0]).get rfl

/-- A run that connects on the second try, sends a block, fails a send, sends again, skips
a block over the learnt ceiling, and takes the shutdown branch. -/
def shutdownRun : List Action :=
  [.startup (.ok ()), .unbound (.ok ()), .connect (.error "refused"), .connect (.ok ()),
    .spawn (.ok ()), .produce, .produce, .peek, .granted (.ok 3), .peek, .granted (.err "too big"),
    .produce, .produce, .peek, .granted (.ok 3), .peek, .produce, .peek, .shutdown]

theorem sendLoopSpec_after_shutdown :
    ∃ s, run alternating init shutdownRun = some s ∧ SendLoopSpec alternating s :=
  ⟨_, rfl, reachable_sendLoopSpec (run_reachable shutdownRun .refl rfl)⟩

end Lading.Generator.UnixDatagram
