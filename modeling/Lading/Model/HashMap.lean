import Lading.Model.Rust

/-! `std::collections::HashMap` with `String` keys as a serializer sees it: its entries, and the
iteration order its own `RandomState` decides. -/

namespace Lading

/-- A `RandomState`, through what it decides for iteration: the bucket each key hashes to.
Iteration visits buckets in index order; keys that share a bucket keep insertion order. -/
structure RandomState where
  bucket : List UInt8 → Nat

/-- A `HashMap<String, V>` as `collect` builds it: its entries in insertion order, each key
once. -/
structure HashMap (V : Type) where
  entries : List (List UInt8 × V)
  nodup : (entries.map Prod.fst).Nodup

namespace HashMap

variable {V : Type}

/-- `HashMap::iter` under the hasher state `rs`. -/
def iter (rs : RandomState) (m : HashMap V) : List (List UInt8 × V) :=
  m.entries.insertionSort fun a b => rs.bucket a.1 ≤ rs.bucket b.1

/-- Iteration visits every entry exactly once, whatever the hasher state. -/
theorem iter_perm (rs : RandomState) (m : HashMap V) : (m.iter rs).Perm m.entries :=
  List.perm_insertionSort _ _

theorem iter_perm_iter (rs rs' : RandomState) (m : HashMap V) :
    (m.iter rs).Perm (m.iter rs') :=
  (iter_perm rs m).trans (iter_perm rs' m).symm

end HashMap

end Lading
