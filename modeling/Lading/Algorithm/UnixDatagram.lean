import Lading.Model.Block

/-! The Unix domain socket datagram generator: `UnixDatagram::new` as a function of the
configuration, and payloadtool's check of the same budget. -/

namespace Lading.Generator

namespace UnixDatagram

/-! ## Construction -/

/-- `unix_datagram::Error`, for the variants the modelled functions produce. -/
inductive Error where
  | block (msg : String)
  | io (msg : String)
  | startupWait (msg : String)
  | zero
deriving DecidableEq, Repr

/-- `UDS_DATAGRAM_LIMIT_BYTES`. -/
def udsDatagramLimitBytes : Nat := 8192

/-- `lading_payload::block::CacheMethod`. -/
inductive CacheMethod where
  | streaming
  | fixed
deriving DecidableEq, Repr

/-- `unix_datagram::Config`. Byte quantities are what `byte_unit::Byte::get_bytes` returns;
the payload and throttle configurations belong to other crates and stay abstract. -/
structure Config (Payload ThrottleConf : Type) where
  seed : List UInt8
  path : String
  variant : Payload
  bytesPerSecond : Nat
  blockSizes : Option (List Nat)
  maximumPrebuildCacheSizeBytes : Nat
  blockCacheMethod : CacheMethod
  parallelConnections : Nat
  throttle : ThrottleConf

/-- `generator::General`. -/
structure General where
  id : Option String

/-- The block cache constructors of `lading_payload::block`, which is not among the sources:
`get_blocks`, `Cache::stream`, `Cache::fixed` and `StdRng::from_seed`. -/
structure BlockApi (Payload Rng Cache : Type) where
  fromSeed : List UInt8 → Rng
  getBlocks : Option (List Nat) → Option Nat → List NonZeroU32
  stream : List UInt8 → NonZeroU32 → List NonZeroU32 → Payload → Except String Cache
  fixed : Rng → NonZeroU32 → List NonZeroU32 → Payload → Except String (Cache × Rng)

/-- `lading_throttle::Throttle::new_with_config`: that crate is not among the sources, so a
throttle is identified by the configuration and rate it is built from. -/
structure Throttle (ThrottleConf : Type) where
  config : ThrottleConf
  bytesPerSecond : NonZeroU32

/-- A `Child` as `UnixDatagram::new` spawns it. -/
structure Child (Cache ThrottleConf : Type) where
  path : String
  throttle : Throttle ThrottleConf
  blockCache : Cache
  metricLabels : List (String × String)

end UnixDatagram

/-- `UnixDatagram`: the handles of the spawned children. -/
structure UnixDatagram (Cache ThrottleConf : Type) where
  handles : List (UnixDatagram.Child Cache ThrottleConf)

namespace UnixDatagram

/-- The `labels` of `UnixDatagram::new`. -/
def metricLabels (general : General) : List (String × String) :=
  [("component", "generator"), ("component_name", "unix_datagram")] ++
    match general.id with
    | some id => [("id", id)]
    | none => []

section Construction

variable {Payload Rng Cache ThrottleConf : Type}
  (api : BlockApi Payload Rng Cache) (config : Config Payload ThrottleConf)

/-- `?` on a block constructor's result. -/
def liftBlock {α : Type} : Except String α → Ret Error α
  | .ok a => .ok a
  | .error m => .err (.block m)

/-- The `match config.block_cache_method` that builds a child's block cache, with the rng
after it. -/
def buildBlockCache (totalBytes : NonZeroU32) (blockSizes : List NonZeroU32) (rng : Rng) :
    Ret Error (Cache × Rng) :=
  match config.blockCacheMethod with
  | .streaming =>
    (liftBlock (api.stream config.seed totalBytes blockSizes config.variant)).bind
      fun cache => .ok (cache, rng)
  | .fixed => liftBlock (api.fixed rng totalBytes blockSizes config.variant)

/-- One pass of the `for _ in 0..parallel_connections` loop of `UnixDatagram::new`. -/
def spawnChild (labels : List (String × String)) (bytesPerSecond : NonZeroU32)
    (blockSizes : List NonZeroU32) (rng : Rng) : Ret Error (Child Cache ThrottleConf × Rng) := do
  let totalBytes ← Ret.okOr (NonZeroU32.new (asU32 config.maximumPrebuildCacheSizeBytes)) .zero
  let built ← buildBlockCache api config totalBytes blockSizes rng
  pure (⟨config.path, ⟨config.throttle, bytesPerSecond⟩, built.1, labels⟩, built.2)

/-- The loop over `0..parallel_connections`, threading the shared rng. -/
def spawnChildren (labels : List (String × String)) (bytesPerSecond : NonZeroU32)
    (blockSizes : List NonZeroU32) : Rng → Nat → Ret Error (List (Child Cache ThrottleConf))
  | _, 0 => pure []
  | rng, n + 1 => do
    let spawned ← spawnChild api config labels bytesPerSecond blockSizes rng
    let rest ← spawnChildren labels bytesPerSecond blockSizes spawned.2 n
    pure (spawned.1 :: rest)

/-- `UnixDatagram::new`. The `Byte::from_unit(8192, B)` it also calls cannot fail. -/
def new (general : General) : Ret Error (UnixDatagram Cache ThrottleConf) := do
  let rng := api.fromSeed config.seed
  let blockSizes := api.getBlocks config.blockSizes (some udsDatagramLimitBytes)
  let labels := metricLabels general
  let bytesPerSecond ← Ret.okOr (NonZeroU32.new (asU32 config.bytesPerSecond)) .zero
  let handles ← spawnChildren api config labels bytesPerSecond blockSizes rng
    config.parallelConnections
  pure ⟨handles⟩

end Construction

/-- The `total_bytes` each arm of payloadtool's `check_generator` computes before calling
`generate_and_check`: `NonZeroU32::new(.. as u32).expect(..)`. -/
def checkGeneratorTotalBytes (maximumPrebuildCacheSizeBytes : Nat) : Ret Error NonZeroU32 :=
  match NonZeroU32.new (asU32 maximumPrebuildCacheSizeBytes) with
  | some totalBytes => .ok totalBytes
  | none => .panic "Non-zero max prebuild cache size"

end UnixDatagram

end Lading.Generator
