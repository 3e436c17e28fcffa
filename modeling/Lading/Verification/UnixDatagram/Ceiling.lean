import Lading.Verification.UnixDatagram.SendLoop

/-! # The adaptive datagram ceiling -/

namespace Lading.Generator.UnixDatagram

section Steps

variable {emit : Nat → Block} {s t : SpinState}

/-- Only the throttle branch can change the ceiling. -/
theorem step_ceiling_eq {a : Action} (h : step emit s a = some t) (ha : ∀ r, a ≠ .granted r) :
    t.maxDetectedBytes = s.maxDetectedBytes := by
  cases a with
  | startup r => obtain ⟨-, p, rfl, -⟩ := callStep_eq_some h; rfl
  | unbound r => obtain ⟨-, p, rfl, -⟩ := callStep_eq_some h; rfl
  | connect r => obtain ⟨-, rfl | ⟨m, rfl⟩⟩ := connectStep_eq_some h <;> rfl
  | spawn r => obtain ⟨-, p, rfl, -⟩ := callStep_eq_some h; rfl
  | produce => obtain ⟨-, -, rfl⟩ := produceStep_eq_some h; rfl
  | peek =>
    obtain ⟨-, ⟨blk, rest, -, ⟨-, rfl⟩ | ⟨-, rfl⟩⟩ | ⟨-, -, rfl⟩⟩ := peekStep_eq_some h <;> rfl
  | granted r => exact absurd rfl (ha r)
  | shutdown => obtain ⟨tb, -, rfl⟩ := shutdownStep_eq_some h; rfl

/-- At a reachable `select!`, the throttle branch sends the peeked block, which fitted under
the ceiling, and leaves the ceiling that `socket.send`'s answer dictates. -/
theorem granted_sends_peeked (hs : Reachable emit s) {r : SendResult}
    (h : step emit s (.granted r) = some t) :
    ∃ tb blk, s.phase = .selecting tb ∧ blk.totalBytes = tb ∧ tb.get ≤ s.maxDetectedBytes ∧
      t.log = s.log ++ sendCalls blk r ∧
      t.maxDetectedBytes = ceilingAfter s.maxDetectedBytes blk r := by
  obtain ⟨k, hk⟩ := reachable_inv hs
  obtain ⟨tb, blk, rest, hph, hnext, rfl⟩ := grantedStep_eq_some h
  obtain ⟨rfl, hfit⟩ := hk.selecting tb hph
  have hslot : s.rcv.peeked = some (emit k) := by simpa [hph, Phase.holdsBlock] using hk.slot
  obtain ⟨rest', hpend, -⟩ := PeekableReceiver.next_eq_some.mp hnext
  obtain ⟨rfl, -⟩ : emit k = blk ∧ _ := by simpa [PeekableReceiver.pending, hslot] using hpend
  exact ⟨_, emit k, hph, rfl, hfit, by simp [sendCalls], by simp⟩

theorem step_ceiling_le (hs : Reachable emit s) {a : Action} (h : step emit s a = some t) :
    t.maxDetectedBytes ≤ s.maxDetectedBytes := by
  by_cases ha : ∃ r, a = .granted r
  · obtain ⟨r, rfl⟩ := ha
    obtain ⟨tb, blk, -, rfl, hfit, -, heq⟩ := granted_sends_peeked hs h
    exact heq ▸ ceilingAfter_le hfit r
  · exact (step_ceiling_eq h fun r hr => ha ⟨r, hr⟩).le

end Steps

/-! ## The ceiling along every run -/

/-- The ceiling's contract at a reachable state: it never exceeds `usize::MAX`, no later
state has a higher one, only a failed send changes it, a failed send sets it to the block's
length less one (at least one byte long, so no wrap) strictly under its `total_bytes`, which
fitted under the ceiling; and the block a `select!` sends has the `total_bytes` checked
against the ceiling when it was peeked. -/
structure CeilingSpec (emit : Nat → Block) (s : SpinState) : Prop where
  le_usizeMax : s.maxDetectedBytes ≤ usizeMax
  antitone : ∀ u, Relation.ReflTransGen (Next emit) s u → u.maxDetectedBytes ≤ s.maxDetectedBytes
  unchanged : ∀ a t, step emit s a = some t → (∀ m, a ≠ .granted (.err m)) →
    t.maxDetectedBytes = s.maxDetectedBytes
  failure : ∀ m t, step emit s (.granted (.err m)) = some t → ∃ blk,
    t.log = s.log ++ sendCalls blk (.err m) ∧ 1 ≤ blk.bytes.length ∧
    t.maxDetectedBytes = blk.bytes.length - 1 ∧ blk.bytes.length - 1 < blk.totalBytes.get ∧
    blk.totalBytes.get ≤ s.maxDetectedBytes
  within : ∀ tb, s.phase = .selecting tb → tb.get ≤ s.maxDetectedBytes ∧
    ∀ r t, step emit s (.granted r) = some t → ∃ blk, blk.totalBytes = tb ∧
      t.log = s.log ++ sendCalls blk r

theorem reachable_antitone {emit : Nat → Block} {s u : SpinState} (hs : Reachable emit s)
    (h : Relation.ReflTransGen (Next emit) s u) : u.maxDetectedBytes ≤ s.maxDetectedBytes := by
  induction h with
  | refl => exact le_rfl
  | tail hsu hnext ih =>
    obtain ⟨a, ha⟩ := hnext
    exact (step_ceiling_le (hs.trans hsu) ha).trans ih

theorem reachable_ceilingSpec {emit : Nat → Block} {s : SpinState} (hs : Reachable emit s) :
    init.maxDetectedBytes = usizeMax ∧ CeilingSpec emit s := by
  refine ⟨rfl, reachable_antitone .refl hs, fun u h => reachable_antitone hs h, ?_, ?_, ?_⟩
  · intro a t h ha
    by_cases hg : ∃ r, a = .granted r
    · obtain ⟨r, rfl⟩ := hg
      cases r with
      | ok n =>
        obtain ⟨tb, blk, -, -, -, -, heq⟩ := granted_sends_peeked hs h
        exact heq
      | err m => exact absurd rfl (ha m)
    · exact step_ceiling_eq h fun r hr => hg ⟨r, hr⟩
  · intro m t h
    obtain ⟨tb, blk, -, rfl, hfit, hlog, heq⟩ := granted_sends_peeked hs h
    exact ⟨blk, hlog, blk.one_le_length, heq, blk.length_sub_one_lt, hfit⟩
  · intro tb hph
    obtain ⟨k, hk⟩ := reachable_inv hs
    refine ⟨(hk.selecting tb hph).2, fun r t h => ?_⟩
    obtain ⟨tb', blk, hph', rfl, -, hlog, -⟩ := granted_sends_peeked hs h
    obtain rfl : tb = blk.totalBytes := by simpa [hph] using hph'
    exact ⟨blk, rfl, hlog⟩

/-- A run from a connect-first start that fails its first send. -/
def failedSendRun : List Action :=
  [.startup (.ok ()), .unbound (.ok ()), .connect (.ok ()), .spawn (.ok ()), .produce, .peek,
    .granted (.err "Message too long")]

theorem ceilingSpec_after_failed_send :
    ∃ s, run alternating init failedSendRun = some s ∧
      init.maxDetectedBytes = usizeMax ∧ CeilingSpec alternating s :=
  ⟨_, rfl, reachable_ceilingSpec (run_reachable failedSendRun .refl rfl)⟩

/-! ## A ceiling below every block -/

/-- One move from the top of the loop while the ceiling `m` is under every block the cache
can still deliver: a skip, a block handed over, the cache thread's end, or the panic of the
peek on the closed and drained channel. -/
theorem cacheNext_skip {emit : Nat → Block} {m : Nat} {t u : SpinState}
    (hemit : ∀ i, m < (emit i).totalBytes.get) (hph : t.phase = .peeking)
    (hmax : t.maxDetectedBytes = m) (hp : ∀ b ∈ t.rcv.pending, m < b.totalBytes.get)
    (h : CacheNext emit t u) :
    (u.phase = .peeking ∨ u.phase = .returned (.panic blockCacheEmpty) ∧ u.rcv.closed = true) ∧
      u.maxDetectedBytes = m ∧ ∀ b ∈ u.rcv.pending, m < b.totalBytes.get := by
  rcases h with ⟨a, ha⟩ | ha
  · cases a with
    | startup r | unbound r | spawn r =>
      obtain ⟨h', -⟩ := callStep_eq_some ha
      simp [hph] at h'
    | connect r => obtain ⟨h', -⟩ := connectStep_eq_some ha; simp [hph] at h'
    | produce =>
      obtain ⟨-, -, rfl⟩ := produceStep_eq_some ha
      refine ⟨.inl hph, hmax, fun b hb => ?_⟩
      simp only [PeekableReceiver.pending_push, List.mem_append, List.mem_singleton] at hb
      rcases hb with hb | rfl
      · exact hp b hb
      · exact hemit _
    | peek =>
      obtain ⟨-, ⟨blk, rest, hpeek, hcase⟩ | ⟨-, hclosed, rfl⟩⟩ := peekStep_eq_some ha
      · obtain ⟨rest', hpend', hr, -⟩ := PeekableReceiver.peek_eq_some.mp hpeek
        cases hr
        have hover := hp blk (by simp [hpend'])
        rcases hcase with ⟨-, rfl⟩ | ⟨hfit, -⟩
        · exact ⟨.inl hph, hmax, fun b hb => hp b (by simp_all)⟩
        · omega
      · exact ⟨.inr ⟨rfl, hclosed⟩, hmax, hp⟩
    | granted r => obtain ⟨tb, -, -, h', -⟩ := grantedStep_eq_some ha; simp [hph] at h'
    | shutdown => obtain ⟨tb, h', -⟩ := shutdownStep_eq_some ha; simp [hph] at h'
  · obtain ⟨-, -, rfl⟩ := cacheEnd_eq_some ha
    exact ⟨.inl hph, hmax, by simpa using hp⟩

/-- Once the ceiling is under every block the cache can still deliver, the loop stays at its
top, each peek taking the skip branch, until the cache thread has ended and the peek on the
drained channel panics: the `select!` that polls shutdown is never entered again. -/
theorem skips_until_panic {emit : Nat → Block} {s t : SpinState} (hs : s.phase = .peeking)
    (hemit : ∀ i, s.maxDetectedBytes < (emit i).totalBytes.get)
    (hpend : ∀ b ∈ s.rcv.pending, s.maxDetectedBytes < b.totalBytes.get)
    (h : Relation.ReflTransGen (CacheNext emit) s t) :
    (t.phase = .peeking ∨ t.phase = .returned (.panic blockCacheEmpty) ∧ t.rcv.closed = true) ∧
      t.maxDetectedBytes = s.maxDetectedBytes ∧
      ∀ b ∈ t.rcv.pending, s.maxDetectedBytes < b.totalBytes.get := by
  induction h with
  | refl => exact ⟨.inl hs, rfl, hpend⟩
  | tail _ hnext ih =>
    obtain ⟨hph | ⟨hret, -⟩, hmax, hp⟩ := ih
    · exact cacheNext_skip hemit hph hmax hp hnext
    · exact absurd hnext (cacheNext_of_returned hret)

/-- The child's own steps keep its channel open or closed. -/
theorem next_closed {emit : Nat → Block} {s t : SpinState}
    (h : Relation.ReflTransGen (Next emit) s t) : t.rcv.closed = s.rcv.closed := by
  induction h with
  | refl => rfl
  | tail _ hnext ih => obtain ⟨a, ha⟩ := hnext; exact (step_closed ha).trans ih

/-- From the top of the loop with nothing pending, the environment can have the cache send
one block, which fits, and `socket.send` answer `r`. -/
theorem run_send_next {emit : Nat → Block} {s : SpinState} (hph : s.phase = .peeking)
    (hrcv : s.rcv = ⟨none, [], false⟩)
    (hfit : (emit s.produced).totalBytes.get ≤ s.maxDetectedBytes)
    (r : SendResult) :
    ∃ t, run emit s [.produce, .peek, .granted r] = some t ∧ t.phase = .peeking ∧
      t.rcv = ⟨none, [], false⟩ ∧ t.produced = s.produced + 1 ∧
      t.maxDetectedBytes = ceilingAfter s.maxDetectedBytes (emit s.produced) r := by
  rcases s with ⟨phase, rcv, produced, ceiling⟩
  subst hph hrcv
  simp only at hfit
  simp only [run, step, produceStep, Phase.running, List.length_nil, channelCapacity,
    Nat.ofNat_pos, and_self, ↓reduceIte, PeekableReceiver.push, List.nil_append, peekStep,
    PeekableReceiver.peek, gt_iff_lt, PeekableReceiver.next, grantedStep, Option.bind_some,
    Option.some_bind, Nat.not_lt.mpr hfit, Option.some.injEq, exists_eq_left',
    afterSend_phase, afterSend_rcv, afterSend_produced, afterSend_maxDetectedBytes]

/-- The environment can have the first `j` blocks sent and come back to the top of the loop
with nothing pending and the ceiling untouched. -/
theorem reach_after_sends (emit : Nat → Block) (j : Nat) :
    ∃ s, Reachable emit s ∧ s.phase = .peeking ∧ s.rcv = ⟨none, [], false⟩ ∧ s.produced = j ∧
      s.maxDetectedBytes = usizeMax := by
  induction j with
  | zero =>
    exact ⟨_, run_reachable [.startup (.ok ()), .unbound (.ok ()), .connect (.ok ()),
      .spawn (.ok ())] .refl rfl, rfl, rfl, rfl, rfl⟩
  | succ j ih =>
    obtain ⟨s, hs, hph, hrcv, rfl, hmax⟩ := ih
    obtain ⟨t, ht, htph, htrcv, htprod, htmax⟩ :=
      run_send_next hph hrcv (hmax ▸ (emit s.produced).totalBytes_le_usizeMax) (.ok 0)
    exact ⟨t, run_reachable _ hs ht, htph, htrcv, htprod, htmax.trans hmax⟩

/-- Any send error lowers the ceiling, so when the cache's smallest block fails once the
ceiling falls under every block: some reachable state then only ever reaches states at the
top of the loop, and the child can no longer take the shutdown branch. -/
theorem failed_send_traps_loop (emit : Nat → Block) (j : Nat)
    (hmin : ∀ i, (emit j).totalBytes.get ≤ (emit i).totalBytes.get) :
    ∃ s, Reachable emit s ∧ s.maxDetectedBytes < (emit j).totalBytes.get ∧
      ∀ t, Relation.ReflTransGen (Next emit) s t → t.phase = .peeking := by
  obtain ⟨s, hs, hph, hrcv, rfl, hmax⟩ := reach_after_sends emit j
  obtain ⟨t, ht, htph, htrcv, -, htmax⟩ := run_send_next hph hrcv
    (hmax ▸ (emit s.produced).totalBytes_le_usizeMax) (.err "Connection refused (os error 111)")
  have hlow : t.maxDetectedBytes < (emit s.produced).totalBytes.get :=
    htmax ▸ (emit s.produced).length_sub_one_lt
  refine ⟨t, run_reachable _ hs ht, hlow, fun u hu => ?_⟩
  rcases (skips_until_panic htph (fun i => hlow.trans_le (hmin i)) (by simp [htrcv])
    (hu.mono fun _ _ => .inl)).1 with hpeek | ⟨-, hclosed⟩
  · exact hpeek
  · rw [next_closed hu, htrcv] at hclosed
    cases hclosed

/-- One-byte blocks: `0x00`. -/
def oneByte : Block := (Block.tryFrom [0]).get rfl

theorem failed_send_traps_one_byte_blocks :
    ∃ s, Reachable (fun _ => oneByte) s ∧ s.maxDetectedBytes < oneByte.totalBytes.get ∧
      ∀ t, Relation.ReflTransGen (Next fun _ => oneByte) s t → t.phase = .peeking :=
  failed_send_traps_loop (fun _ => oneByte) 0 fun _ => le_rfl

end Lading.Generator.UnixDatagram
