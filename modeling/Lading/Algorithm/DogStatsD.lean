import Lading.Model.Rust

/-! The DogStatsD payload: `ConfRange` sampling, the random string helpers, and `to_bytes`.
Crates not among the sources enter as functions of the rng with their documented contracts. -/

namespace Lading.Payload.DogStatsD

/-! ## `ConfRange` -/

/-- `rand`'s uniform sampling of an integer type, as `UniformInt::sample_single(low, high,
rng)` does it on a nonempty `low..high`: the value drawn and the rng after it. Every value of
the range is drawn from some rng state. -/
structure SampleUniform (T R : Type) [LinearOrder T] where
  sampleSingle : T → T → R → T × R
  sampleSingle_mem : ∀ low high rng, low < high →
    low ≤ (sampleSingle low high rng).1 ∧ (sampleSingle low high rng).1 < high
  sampleSingle_onto : ∀ low high x, low ≤ x → x < high → ∃ rng, (sampleSingle low high rng).1 = x

/-- `Rng::gen_range(low..high)`: `assert!(!range.is_empty(), "cannot sample empty range")`,
then `sample_single`. -/
def genRange {T R : Type} [LinearOrder T] (u : SampleUniform T R) (low high : T) (rng : R) :
    Ret Empty (T × R) :=
  if low < high then .ok (u.sampleSingle low high rng) else .panic "cannot sample empty range"

/-- `dogstatsd::ConfRange<T>`. -/
inductive ConfRange (T : Type) where
  /-- A constant T -/
  | constant (c : T)
  /-- In which a T is chosen between `min` and `max`, inclusive of `max`. -/
  | inclusive (min max : T)
deriving DecidableEq, Repr

namespace ConfRange

variable {T R : Type}

/-- `ConfRange::end`. -/
def «end» : ConfRange T → T
  | constant c => c
  | inclusive _ max => max

/-- `ConfRange::sample`. -/
def sample [LinearOrder T] (u : SampleUniform T R) (c : ConfRange T) (rng : R) :
    Ret Empty (T × R) :=
  match c with
  | constant c => .ok (c, rng)
  | inclusive min max => genRange u min max rng

end ConfRange

/-! ## Random strings -/

/-- `strings::Pool::of_size`: a string of `size` bytes from the pool, or none when the pool
has none that long. -/
structure Pool (R : Type) where
  ofSize : R → Nat → Option (List UInt8) × R
  ofSize_length : ∀ rng size s, (ofSize rng size).1 = some s → s.length = size

section Strings

variable {R : Type} (u : SampleUniform Nat R) (pool : Pool R)

/-- `random_strings_with_length_range`: `total` strings, each of a size sampled from
`length_range` (a `u16`, cast `as usize`), drawn from the pool and `unwrap`ped. -/
def randomStringsWithLengthRange (lengthRange : ConfRange Nat) :
    Nat → R → Ret Empty (List (List UInt8) × R)
  | 0, rng => .ok ([], rng)
  | total + 1, rng => do
    let sz ← lengthRange.sample u rng
    let drawn := pool.ofSize sz.2 sz.1
    let s ← Ret.unwrap drawn.1
    let rest ← randomStringsWithLengthRange lengthRange total drawn.2
    pure (s :: rest.1, rest.2)

/-- `random_strings_with_length`: a count drawn from `min..max`, then that many strings of
sizes sampled from `Inclusive { min: 1, max: max_length }`. -/
def randomStringsWithLength (min max maxLength : Nat) (rng : R) :
    Ret Empty (List (List UInt8) × R) := do
  let total ← genRange u min max rng
  randomStringsWithLengthRange u pool (.inclusive 1 maxLength) total.1 total.2

end Strings

/-! ## Members and `to_bytes` -/

/-- `dogstatsd::Member`. -/
inductive Member (Metric Event ServiceCheck : Type) where
  | metric (m : Metric)
  | event (e : Event)
  | serviceCheck (sc : ServiceCheck)

/-- The `Display` impls of the three kinds. -/
structure Display (Metric Event ServiceCheck : Type) where
  metric : Metric → List UInt8
  event : Event → List UInt8
  serviceCheck : ServiceCheck → List UInt8

/-- `impl Display for Member`. -/
def Member.fmt {Metric Event ServiceCheck : Type} (d : Display Metric Event ServiceCheck) :
    Member Metric Event ServiceCheck → List UInt8
  | .metric m => d.metric m
  | .event e => d.event e
  | .serviceCheck sc => d.serviceCheck sc

/-- `MemberGenerator`, through what `generate` calls: the `WeightedIndex` over the three
kinds, which draws an index below 3, and the generator of each kind. -/
structure MemberGenerator (R Metric Event ServiceCheck : Type) where
  kindWeights : R → Fin 3 × R
  metricGenerator : R → Metric × R
  eventGenerator : R → Event × R
  serviceCheckGenerator : R → ServiceCheck × R

section Generate

variable {R Metric Event ServiceCheck : Type} (g : MemberGenerator R Metric Event ServiceCheck)
  (d : Display Metric Event ServiceCheck)

/-- `MemberGenerator::generate`: the member and the rng after it. The `unreachable!()` arm
cannot be reached by an index below 3. -/
def MemberGenerator.generate (rng : R) : Member Metric Event ServiceCheck × R :=
  let kind := g.kindWeights rng
  match kind.1 with
  | ⟨0, _⟩ => let m := g.metricGenerator kind.2; (.metric m.1, m.2)
  | ⟨1, _⟩ => let e := g.eventGenerator kind.2; (.event e.1, e.2)
  | ⟨2, _⟩ => let sc := g.serviceCheckGenerator kind.2; (.serviceCheck sc.1, sc.2)
  | ⟨_ + 3, h⟩ => absurd h (by omega)

/-- The `loop` of `DogStatsD::to_bytes` with `bytes_remaining` left: the writer and the rng
when it breaks. -/
def writeLines (rng : R) (bytesRemaining : Nat) (writer : List UInt8) : List UInt8 × R :=
  let member := g.generate rng
  let encoding := member.1.fmt d
  let lineLength := encoding.length + 1
  match h : checkedSub bytesRemaining lineLength with
  | some remainder =>
    have : remainder < bytesRemaining := by have := checkedSub_eq_some.mp h; omega
    writeLines member.2 remainder (writer ++ encoding ++ ascii "\n")
  | none => (writer, member.2)
termination_by bytesRemaining

/-- `DogStatsD::to_bytes` into a `Vec<u8>` holding `writer`; writing to a `Vec` cannot fail,
so it returns `Ok`. -/
def toBytes (rng : R) (maxBytes : Nat) (writer : List UInt8) : List UInt8 :=
  (writeLines g d rng maxBytes writer).1

end Generate

end Lading.Payload.DogStatsD
