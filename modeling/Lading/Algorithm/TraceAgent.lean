import Lading.Model.Serde
import Lading.Model.HashMap

/-! The trace-agent payload: `to_bytes` decodes entropy into traces and halves `high` until
the encoding of a prefix fits. Nothing bounds that loop, so it runs on fuel. -/

namespace Lading.Payload

/-- `payload::Error`, for the variant `to_bytes` can return on a `Vec<u8>` writer: neither
serializer can fail on a span, and writing to a `Vec` cannot fail. -/
inductive Error where
  | arbitrary (msg : String)
deriving DecidableEq, Repr

namespace TraceAgent

/-- `trace_agent::Span`. An integer field holds its bit pattern, an `f64` its `to_bits`. -/
structure Span where
  service : List UInt8
  name : List UInt8
  resource : List UInt8
  traceId : BitVec 64
  spanId : BitVec 64
  parentId : BitVec 64
  start : BitVec 64
  duration : BitVec 64
  error : BitVec 32
  meta : HashMap (List UInt8)
  metrics : HashMap (BitVec 64)
  kind : List UInt8
  metaStruct : HashMap (List UInt8)

/-- `trace_agent::Encoding`. -/
inductive Encoding where
  | json
  | msgPack
deriving DecidableEq, Repr

end TraceAgent

/-- `trace_agent::TraceAgent`. -/
structure TraceAgent where
  encoding : TraceAgent.Encoding
deriving DecidableEq, Repr

namespace TraceAgent

/-- `TraceAgent::json`. -/
def json : TraceAgent := ⟨.json⟩

/-- `TraceAgent::msg_pack`. -/
def msgPack : TraceAgent := ⟨.msgPack⟩

/-- The crates `to_bytes` calls that are not among the sources. -/
structure Deps (Rng : Type) where
  /-- `RngCore::fill_bytes` on a buffer of `n` bytes -/
  fillBytes : Rng → Nat → List UInt8
  fillBytes_length : ∀ rng n, (fillBytes rng n).length = n
  /-- `<Vec<Vec<Span>> as Arbitrary>::arbitrary_take_rest` -/
  arbitraryTakeRest : List UInt8 → Except String (List (List Span))
  /-- the hasher state `RandomState::new` gives the `n`-th map `arbitrary_take_rest` builds:
  `std` steps its keys for every new state, so each map has its own -/
  randomStates : Nat → RandomState
  /-- `ryu`, which serde_json formats finite floats with -/
  ryu : BitVec 64 → List UInt8

/-- The serializer each encoding selects. -/
def Encoding.format (ryu : BitVec 64 → List UInt8) : Encoding → Serde.Format
  | .json => Serde.json ryu
  | .msgPack => Serde.msgPack

/-! ## Serialization -/

section Serialize

variable (fmt : Serde.Format) (hs : Nat → RandomState)

/-- serde's `Serialize for HashMap<String, V>`: `collect_map` over `iter()`. -/
def serializeMap {V : Type} (rs : RandomState) (value : V → List UInt8) (m : HashMap V) :
    List UInt8 :=
  fmt.map ((m.iter rs).map fun kv => (fmt.str kv.1, value kv.2))

/-- The derived `Serialize for Span`: thirteen fields in declaration order. The
`#[serde(alias = "type")]` on `kind` only changes deserialization; a `Vec<u8>` is a
sequence of `u8`. `arbitrary` builds the `n`-th span's maps as its maps `3n`, `3n + 1` and
`3n + 2`. -/
def Span.serialize (n : Nat) (s : Span) : List UInt8 :=
  fmt.struct
    [(ascii "service", fmt.str s.service), (ascii "name", fmt.str s.name),
      (ascii "resource", fmt.str s.resource), (ascii "trace_id", fmt.u64 s.traceId),
      (ascii "span_id", fmt.u64 s.spanId), (ascii "parent_id", fmt.u64 s.parentId),
      (ascii "start", fmt.i64 s.start), (ascii "duration", fmt.i64 s.duration),
      (ascii "error", fmt.i32 s.error),
      (ascii "meta", serializeMap fmt (hs (3 * n)) fmt.str s.meta),
      (ascii "metrics", serializeMap fmt (hs (3 * n + 1)) fmt.f64 s.metrics),
      (ascii "kind", fmt.str s.kind),
      (ascii "meta_struct",
        serializeMap fmt (hs (3 * n + 2)) (fun v => fmt.seq (v.map fmt.u8)) s.metaStruct)]

/-- The traces of a slice whose first span is the `n`-th that `arbitrary` built. -/
def serializeTraces : Nat → List (List Span) → List (List UInt8)
  | _, [] => []
  | n, trace :: traces =>
    fmt.seq ((trace.enumFrom n).map fun p => p.2.serialize fmt hs p.1) ::
      serializeTraces (n + trace.length) traces

/-- A slice `&[Vec<Span>]` of traces: a sequence of sequences of spans. -/
def serializeMembers (members : List (List Span)) : List UInt8 :=
  fmt.seq (serializeTraces fmt hs 0 members)

end Serialize

/-! ## `to_bytes` -/

/-- `&xs[low..high]`, with the checks of `Index<Range<usize>>` in their order. -/
def slice {α : Type} (xs : List α) (low high : Nat) : Ret Error (List α) :=
  if high < low then
    .panic ("slice index starts at " ++ toString low ++ " but ends at " ++ toString high)
  else if xs.length < high then
    .panic ("range end index " ++ toString high ++ " out of range for slice of length " ++
      toString xs.length)
  else .ok ((xs.drop low).take (high - low))

/-- The `loop` of `to_bytes` from `high` (`low` stays 0), for at most `fuel` passes: the
writer after `write_all`, or `none` if no pass has broken out. -/
def shrink (fmt : Serde.Format) (hs : Nat → RandomState) (members : List (List Span))
    (maxBytes : Nat) (writer : List UInt8) : Nat → Nat → Option (Ret Error (List UInt8))
  | 0, _ => none
  | fuel + 1, high =>
    match slice members 0 high with
    | .ok part =>
      let encoding := serializeMembers fmt hs part
      if encoding.length > maxBytes then shrink fmt hs members maxBytes writer fuel (high / 2)
      else some (.ok (writer ++ encoding))
    | .err e => some (.err e)
    | .panic m => some (.panic m)

/-- `TraceAgent::to_bytes` into a `Vec<u8>` holding `writer`, for at most `fuel` passes of its
loop. `vec![0; max_bytes]` panics past `isize::MAX`. -/
def toBytes {Rng : Type} (self : TraceAgent) (deps : Deps Rng) (rng : Rng) (maxBytes : Nat)
    (writer : List UInt8) (fuel : Nat) : Option (Ret Error (List UInt8)) :=
  if isizeMax < maxBytes then some (.panic "capacity overflow")
  else
    let entropy := deps.fillBytes rng maxBytes
    match deps.arbitraryTakeRest entropy with
    | .error e => some (.err (.arbitrary e))
    | .ok members =>
      shrink (self.encoding.format deps.ryu) deps.randomStates members maxBytes writer fuel
        members.length

end TraceAgent

end Lading.Payload
