import Lading.Algorithm.UnixDatagram

/-! # Construction of the datagram generator -/

namespace Lading.Generator.UnixDatagram

section Children

variable {Payload Rng Cache ThrottleConf : Type} (api : BlockApi Payload Rng Cache)
  (config : Config Payload ThrottleConf)

/-- The block cache `cache` comes from the configured constructor, called with budget `tb`. -/
def BuiltWith (blockSizes : List NonZeroU32) (tb : NonZeroU32) (cache : Cache) : Prop :=
  (config.blockCacheMethod = .streaming ∧
      api.stream config.seed tb blockSizes config.variant = .ok cache) ∨
    (config.blockCacheMethod = .fixed ∧
      ∃ rng rng', api.fixed rng tb blockSizes config.variant = .ok (cache, rng'))

/-- What construction decides for one child: its rate, and a cache built with the low 32
bits of `maximum_prebuild_cache_size_bytes` as budget. -/
def ChildFrom (bytesPerSecond : NonZeroU32) (blockSizes : List NonZeroU32)
    (c : Child Cache ThrottleConf) : Prop :=
  c.throttle.bytesPerSecond = bytesPerSecond ∧ ∃ tb : NonZeroU32,
    tb.get = asU32 config.maximumPrebuildCacheSizeBytes ∧
      BuiltWith api config blockSizes tb c.blockCache

variable {api config} {labels : List (String × String)} {bytesPerSecond : NonZeroU32}
  {blockSizes : List NonZeroU32}

theorem liftBlock_eq_ok {α : Type} {x : Except String α} {a : α} :
    liftBlock x = .ok a ↔ x = .ok a := by
  cases x <;> simp [liftBlock]

theorem buildBlockCache_eq_ok {tb : NonZeroU32} {rng rng' : Rng} {cache : Cache}
    (h : buildBlockCache api config tb blockSizes rng = .ok (cache, rng')) :
    BuiltWith api config blockSizes tb cache := by
  unfold buildBlockCache at h
  cases hm : config.blockCacheMethod with
  | streaming =>
    rw [hm] at h
    obtain ⟨cache', hs, hc⟩ := Ret.bind_eq_ok.mp h
    cases hc
    exact .inl ⟨hm, liftBlock_eq_ok.mp hs⟩
  | fixed =>
    rw [hm] at h
    exact .inr ⟨hm, rng, rng', liftBlock_eq_ok.mp h⟩

theorem spawnChild_eq_ok {rng rng' : Rng} {c : Child Cache ThrottleConf}
    (h : spawnChild api config labels bytesPerSecond blockSizes rng = .ok (c, rng')) :
    ChildFrom api config bytesPerSecond blockSizes c := by
  obtain ⟨tb, htb, h⟩ := Ret.bind_eq_ok.mp h
  obtain ⟨⟨cache, rng''⟩, hc, h⟩ := Ret.bind_eq_ok.mp h
  cases h
  cases hnz : NonZeroU32.new (asU32 config.maximumPrebuildCacheSizeBytes) with
  | none => simp [hnz] at htb
  | some tb' =>
    simp only [hnz, Ret.okOr_some, Ret.ok.injEq] at htb
    subst htb
    exact ⟨rfl, tb', NonZeroU32.new_eq_some hnz, buildBlockCache_eq_ok hc⟩

theorem spawnChildren_eq_ok {rng : Rng} {n : Nat} {cs : List (Child Cache ThrottleConf)}
    (h : spawnChildren api config labels bytesPerSecond blockSizes rng n = .ok cs) :
    cs.length = n ∧ ∀ c ∈ cs, ChildFrom api config bytesPerSecond blockSizes c := by
  induction n generalizing rng cs with
  | zero => cases h; simp
  | succ n ih =>
    obtain ⟨⟨c, rng'⟩, hc, h⟩ := Ret.bind_eq_ok.mp h
    obtain ⟨rest, hrest, h⟩ := Ret.bind_eq_ok.mp h
    cases h
    obtain ⟨hlen, hall⟩ := ih hrest
    exact ⟨by simp [hlen], List.forall_mem_cons.mpr ⟨spawnChild_eq_ok hc, hall⟩⟩

theorem liftBlock_ne_zero {α : Type} (x : Except String α) : liftBlock x ≠ .err .zero := by
  cases x <;> simp [liftBlock]

/-- Building a block cache never fails with `Error::Zero`. -/
theorem buildBlockCache_ne_zero (tb : NonZeroU32) (rng : Rng) :
    buildBlockCache api config tb blockSizes rng ≠ .err .zero := by
  unfold buildBlockCache
  split
  · intro h
    rcases Ret.bind_eq_err.mp h with h | ⟨_, _, h⟩
    · exact liftBlock_ne_zero _ h
    · cases h
  · exact liftBlock_ne_zero _

theorem spawnChild_eq_err_zero {rng : Rng} :
    spawnChild api config labels bytesPerSecond blockSizes rng = .err .zero ↔
      asU32 config.maximumPrebuildCacheSizeBytes = 0 := by
  rw [← NonZeroU32.new_asU32_eq_none]
  cases hnz : NonZeroU32.new (asU32 config.maximumPrebuildCacheSizeBytes) with
  | none => simp [spawnChild, hnz]
  | some tb =>
    simp only [spawnChild, hnz, Ret.okOr_some, Ret.ok_bind, reduceCtorEq, iff_false]
    intro h
    rcases Ret.bind_eq_err.mp h with h | ⟨_, _, h⟩
    · exact buildBlockCache_ne_zero tb rng h
    · cases h

theorem spawnChildren_eq_err_zero {rng : Rng} {n : Nat} :
    spawnChildren api config labels bytesPerSecond blockSizes rng n = .err .zero ↔
      0 < n ∧ asU32 config.maximumPrebuildCacheSizeBytes = 0 := by
  induction n generalizing rng with
  | zero => simp [spawnChildren]
  | succ n ih =>
    simp only [spawnChildren, Nat.succ_pos, true_and]
    constructor
    · intro h
      rcases Ret.bind_eq_err.mp h with h | ⟨c, -, h⟩
      · exact spawnChild_eq_err_zero.mp h
      · rcases Ret.bind_eq_err.mp h with h | ⟨_, _, h⟩
        · exact (ih.mp h).2
        · cases h
    · intro hz
      rw [spawnChild_eq_err_zero.mpr hz]
      rfl

end Children

section New

variable {Payload Rng Cache ThrottleConf : Type} {api : BlockApi Payload Rng Cache}
  {config : Config Payload ThrottleConf} {general : General}

/-- On success, `UnixDatagram::new` spawns `parallel_connections` children, each throttled at
the low 32 bits of `bytes_per_second` and with a cache built for the low 32 bits of
`maximum_prebuild_cache_size_bytes`. -/
theorem new_eq_ok {d : UnixDatagram Cache ThrottleConf}
    (h : new api config general = .ok d) :
    d.handles.length = config.parallelConnections ∧ ∀ c ∈ d.handles,
      c.throttle.bytesPerSecond.get = asU32 config.bytesPerSecond ∧
        ∃ tb : NonZeroU32, tb.get = asU32 config.maximumPrebuildCacheSizeBytes ∧
          BuiltWith api config (api.getBlocks config.blockSizes (some udsDatagramLimitBytes))
            tb c.blockCache := by
  unfold new at h
  obtain ⟨bps, hbps, h⟩ := Ret.bind_eq_ok.mp h
  obtain ⟨cs, hcs, h⟩ := Ret.bind_eq_ok.mp h
  cases h
  cases hnz : NonZeroU32.new (asU32 config.bytesPerSecond) with
  | none => simp [hnz] at hbps
  | some bps' =>
    simp only [hnz, Ret.okOr_some, Ret.ok.injEq] at hbps
    subst hbps
    obtain ⟨hlen, hall⟩ := spawnChildren_eq_ok hcs
    refine ⟨hlen, fun c hc => ?_⟩
    obtain ⟨hrate, hbuilt⟩ := hall c hc
    exact ⟨hrate ▸ NonZeroU32.new_eq_some hnz, hbuilt⟩

/-- `UnixDatagram::new` fails with `Error::Zero` exactly when the low 32 bits of
`bytes_per_second` are zero, or when it spawns a child and the low 32 bits of
`maximum_prebuild_cache_size_bytes` are zero. -/
theorem new_eq_err_zero :
    new api config general = .err .zero ↔ asU32 config.bytesPerSecond = 0 ∨
      (0 < config.parallelConnections ∧ asU32 config.maximumPrebuildCacheSizeBytes = 0) := by
  unfold new
  rw [← NonZeroU32.new_asU32_eq_none]
  cases hnz : NonZeroU32.new (asU32 config.bytesPerSecond) with
  | none => simp
  | some bps =>
    simp only [Ret.okOr_some, Ret.ok_bind, reduceCtorEq, false_or]
    constructor
    · intro h
      rcases Ret.bind_eq_err.mp h with h | ⟨_, _, h⟩
      · exact spawnChildren_eq_err_zero.mp h
      · cases h
    · intro h
      rw [spawnChildren_eq_err_zero.mpr h]
      rfl

end New

/-- A configuration asking for `2^32 + 5` bytes per second, with one streaming child. -/
def wideRateConfig : Config Unit Unit where
  seed := []
  path := "/tmp/dsd.socket"
  variant := ()
  bytesPerSecond := 2 ^ 32 + 5
  blockSizes := none
  maximumPrebuildCacheSizeBytes := 1024
  blockCacheMethod := .streaming
  parallelConnections := 1
  throttle := ()

/-- Construction does not reject a rate of `2^32 + 5` bytes per second: it either fails in the
block cache, or spawns one child throttled at 5 bytes per second. -/
theorem new_truncates_wide_rate {Rng Cache : Type} (api : BlockApi Unit Rng Cache)
    (general : General) :
    new api wideRateConfig general ≠ .err .zero ∧
      ∀ d, new api wideRateConfig general = .ok d →
        d.handles.length = 1 ∧ ∀ c ∈ d.handles, c.throttle.bytesPerSecond.get = 5 := by
  refine ⟨?_, fun d h => ⟨(new_eq_ok h).1, fun c hc => ((new_eq_ok h).2 c hc).1⟩⟩
  cases hs : api.stream [] ⟨1024, by decide, by decide⟩
    (api.getBlocks none (some udsDatagramLimitBytes)) () <;>
    simp [new, spawnChildren, spawnChild, buildBlockCache, wideRateConfig, NonZeroU32.new, asU32,
      liftBlock, hs, Bind.bind, Ret.bind, Pure.pure]

/-- Block constructors whose caches always build. -/
def buildingApi : BlockApi Unit Unit Unit where
  fromSeed _ := ()
  getBlocks _ _ := []
  stream _ _ _ _ := .ok ()
  fixed _ _ _ _ := .ok ((), ())

theorem new_truncates_wide_rate_to_five :
    ∃ d, new buildingApi wideRateConfig ⟨none⟩ = .ok d ∧ d.handles.length = 1 ∧
      ∀ c ∈ d.handles, c.throttle.bytesPerSecond.get = 5 :=
  ⟨_, rfl, (new_truncates_wide_rate buildingApi ⟨none⟩).2 _ rfl⟩

/-- payloadtool's `check_generator` panics on a budget of exactly `2^32` bytes and shrinks a
budget of `2^32 + 1` bytes to one byte. -/
theorem checkGeneratorTotalBytes_wraps :
    checkGeneratorTotalBytes (2 ^ 32) = .panic "Non-zero max prebuild cache size" ∧
      ∃ tb, checkGeneratorTotalBytes (2 ^ 32 + 1) = .ok tb ∧ tb.get = 1 :=
  ⟨rfl, _, rfl, rfl⟩

end Lading.Generator.UnixDatagram
