import Lading.Algorithm.DogStatsD

/-! # What `ConfRange::sample` draws -/

namespace Lading.Payload.DogStatsD

namespace ConfRange

variable {T R : Type} [LinearOrder T] (u : SampleUniform T R)

theorem sample_constant (c : T) (rng : R) : (constant c).sample u rng = .ok (c, rng) := rfl

theorem sample_inclusive_eq_ok {min max x : T} {rng rng' : R}
    (h : (inclusive min max).sample u rng = .ok (x, rng')) :
    min < max ∧ u.sampleSingle min max rng = (x, rng') := by
  simp only [sample, genRange] at h
  split_ifs at h with hlt
  · exact ⟨hlt, Ret.ok.inj h⟩

theorem sample_inclusive_of_le {min max : T} (h : max ≤ min) (rng : R) :
    (inclusive min max).sample u rng = .panic "cannot sample empty range" :=
  if_neg (not_lt.mpr h)

/-- On `Inclusive { min, max }` with `min < max`, `sample` draws exactly the values of
`min..max`: each draw lies in it, and each of its values is drawn from some rng state. -/
theorem sample_inclusive_range (min max : T) :
    (∀ rng x rng', (inclusive min max).sample u rng = .ok (x, rng') → min ≤ x ∧ x < max) ∧
      ∀ x, min ≤ x → x < max → ∃ rng rng', (inclusive min max).sample u rng = .ok (x, rng') := by
  refine ⟨fun rng x rng' h => ?_, fun x hmin hmax => ?_⟩
  · obtain ⟨hlt, hs⟩ := sample_inclusive_eq_ok u h
    simpa [hs] using u.sampleSingle_mem min max rng hlt
  · obtain ⟨rng, hrng⟩ := u.sampleSingle_onto min max x hmin hmax
    exact ⟨rng, (u.sampleSingle min max rng).2, by
      simp [sample, genRange, lt_of_le_of_lt hmin hmax, ← hrng]⟩

end ConfRange

section Strings

variable {R : Type} (u : SampleUniform Nat R) (pool : Pool R)

/-- A call of `random_strings_with_length_range` that returns makes `total` strings, each as
long as a size `length_range.sample` drew. -/
theorem randomStringsWithLengthRange_eq_ok {lengthRange : ConfRange Nat} :
    ∀ {total : Nat} {rng rng' : R} {ss : List (List UInt8)},
      randomStringsWithLengthRange u pool lengthRange total rng = .ok (ss, rng') →
      ss.length = total ∧ ∀ s ∈ ss, ∃ r r', lengthRange.sample u r = .ok (s.length, r')
  | 0, _, _, _, h => by cases h; simp
  | total + 1, rng, rng', ss, h => by
    obtain ⟨sz, hsz, h⟩ := Ret.bind_eq_ok.mp h
    obtain ⟨s, hs, h⟩ := Ret.bind_eq_ok.mp h
    obtain ⟨rest, hrest, h⟩ := Ret.bind_eq_ok.mp h
    cases h
    obtain ⟨hlen, hall⟩ := randomStringsWithLengthRange_eq_ok hrest
    have hdrawn : (pool.ofSize sz.2 sz.1).1 = some s := by
      cases hd : (pool.ofSize sz.2 sz.1).1 <;> simp_all [Ret.unwrap]
    refine ⟨by simp [hlen], List.forall_mem_cons.mpr ⟨⟨rng, sz.2, ?_⟩, hall⟩⟩
    rw [pool.ofSize_length _ _ _ hdrawn, hsz]

/-- On `Inclusive { min, max }`, a call that returns makes `total` strings, each of a length
in `min..max`. -/
theorem randomStringsWithLengthRange_inclusive {min max total : Nat} {rng rng' : R}
    {ss : List (List UInt8)}
    (h : randomStringsWithLengthRange u pool (.inclusive min max) total rng = .ok (ss, rng')) :
    ss.length = total ∧ ∀ s ∈ ss, min ≤ s.length ∧ s.length < max := by
  obtain ⟨hlen, hall⟩ := randomStringsWithLengthRange_eq_ok u pool h
  refine ⟨hlen, fun s hs => ?_⟩
  obtain ⟨r, r', hr⟩ := hall s hs
  exact (ConfRange.sample_inclusive_range u min max).1 r _ r' hr

end Strings

/-- A sampler whose rng state is the value it draws, when that lies in the range. -/
def stateSampler : SampleUniform Nat Nat where
  sampleSingle low high r := (if low ≤ r ∧ r < high then r else low, r + 1)
  sampleSingle_mem low high r h := by dsimp only; split_ifs <;> omega
  sampleSingle_onto low high x h1 h2 := ⟨x, by simp [h1, h2]⟩

/-- A pool that gives `size` zero bytes. -/
def zeroPool : Pool Nat where
  ofSize r n := (some (List.replicate n 0), r)
  ofSize_length _ n _ h := Option.some.inj h ▸ List.length_replicate n 0

theorem randomStrings_one_to_four :
    randomStringsWithLengthRange stateSampler zeroPool (.inclusive 1 4) 2 2 =
        .ok ([[0, 0], [0, 0, 0]], 4) ∧
      ([[0, 0], [0, 0, 0]] : List (List UInt8)).length = 2 ∧
      ∀ s ∈ ([[0, 0], [0, 0, 0]] : List (List UInt8)), 1 ≤ s.length ∧ s.length < 4 :=
  ⟨rfl, @randomStringsWithLengthRange_inclusive Nat stateSampler zeroPool 1 4 2 2 4
    [[0, 0], [0, 0, 0]] rfl⟩

/-- `ConfRange::sample` on `Inclusive { min, max }` panics when `min = max`, and otherwise
never returns `max`, which `ConfRange::end` gives as the range's end. So no string of
`random_strings_with_length_range` on `Inclusive { min, max }` is `max` bytes long. -/
theorem sample_misses_end {T R : Type} [LinearOrder T] (u : SampleUniform T R)
    (uLen : SampleUniform Nat R) (pool : Pool R) :
    (∀ (v : T) (rng : R), (ConfRange.inclusive v v).sample u rng =
        .panic "cannot sample empty range") ∧
      (∀ (min max : T) (rng : R) x rng',
        (ConfRange.inclusive min max).sample u rng = .ok (x, rng') →
          x < (ConfRange.inclusive min max).end) ∧
      ∀ (min max total : Nat) (rng rng' : R) ss,
        randomStringsWithLengthRange uLen pool (.inclusive min max) total rng = .ok (ss, rng') →
        ∀ s ∈ ss, s.length < max :=
  ⟨fun _ rng => ConfRange.sample_inclusive_of_le u le_rfl rng,
    fun min max rng x rng' h => ((ConfRange.sample_inclusive_range u min max).1 rng x rng' h).2,
    fun _ _ _ _ _ _ h s hs =>
      ((randomStringsWithLengthRange_inclusive uLen pool h).2 s hs).2⟩

end Lading.Payload.DogStatsD
