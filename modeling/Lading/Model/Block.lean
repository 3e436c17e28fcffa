import Lading.Model.Rust

/-! Blocks: the immutable units of serialized payload that generators send. -/

namespace Lading

/-- `lading_payload::block::Block`. The length is held twice, as `total_bytes` and as the
buffer's own length; construction makes them agree, so a block is never empty. -/
structure Block where
  totalBytes : NonZeroU32
  bytes : List UInt8
  total_bytes_eq : totalBytes.get = bytes.length
deriving DecidableEq, Repr

namespace Block

/-- Modelled from the spec: the constructor from a byte buffer (in `lading_payload::block`,
not among the sources) fails on an empty buffer and otherwise records its length. -/
def tryFrom (bytes : List UInt8) : Option Block :=
  if h : 0 < bytes.length ∧ bytes.length < 2 ^ 32 then
    some ⟨⟨bytes.length, h.1, h.2⟩, bytes, rfl⟩
  else none

theorem one_le_length (b : Block) : 1 ≤ b.bytes.length :=
  b.total_bytes_eq ▸ b.totalBytes.pos

/-- `blk.bytes.len() - 1` lies strictly below the block's `total_bytes` and does not wrap. -/
theorem length_sub_one_lt (b : Block) : b.bytes.length - 1 < b.totalBytes.get := by
  have := b.one_le_length
  rw [b.total_bytes_eq]
  omega

/-- A `total_bytes` is a `u32`, so it never exceeds `usize::MAX`. -/
theorem totalBytes_le_usizeMax (b : Block) : b.totalBytes.get ≤ usizeMax := by
  have := b.totalBytes.lt
  unfold usizeMax
  omega

end Block

end Lading
