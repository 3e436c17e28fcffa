import Lading.Model.Rust

/-! The peekable channel receiver the send loops read blocks from. -/

namespace Lading

/-- Modelled from the spec: `crate::common::PeekableReceiver` is not among the sources. A
one-slot buffer in front of a bounded channel, whose queued messages are listed oldest
first, and whether the sending half has been dropped. A receive resolves to a message, or to
`None` once the channel is closed with nothing left; until then it waits. -/
structure PeekableReceiver (α : Type) where
  peeked : Option α
  buffer : List α
  closed : Bool
deriving DecidableEq, Repr

namespace PeekableReceiver

variable {α : Type}

/-- `PeekableReceiver::new` over a fresh, empty channel. -/
def new : PeekableReceiver α := ⟨none, [], false⟩

/-- `peek`: the next message, which stays in the slot; `none` when there is none. -/
def peek : PeekableReceiver α → Option (α × PeekableReceiver α)
  | ⟨some x, buffer, c⟩ => some (x, ⟨some x, buffer, c⟩)
  | ⟨none, x :: buffer, c⟩ => some (x, ⟨some x, buffer, c⟩)
  | ⟨none, [], _⟩ => none

/-- `next`: the message in the slot if there is one, else the oldest in the channel. -/
def next : PeekableReceiver α → Option (α × PeekableReceiver α)
  | ⟨some x, buffer, c⟩ => some (x, ⟨none, buffer, c⟩)
  | ⟨none, x :: buffer, c⟩ => some (x, ⟨none, buffer, c⟩)
  | ⟨none, [], _⟩ => none

/-- The sending half's `send`: the message joins the back of the channel. -/
def push (r : PeekableReceiver α) (x : α) : PeekableReceiver α :=
  ⟨r.peeked, r.buffer ++ [x], r.closed⟩

/-- The sending half is dropped: what was sent stays to be received. -/
def close (r : PeekableReceiver α) : PeekableReceiver α := { r with closed := true }

/-- Every message not yet returned by `next`, in the order `next` will return them. -/
def pending (r : PeekableReceiver α) : List α := r.peeked.toList ++ r.buffer

@[simp] theorem pending_mk (p : Option α) (b : List α) (c : Bool) :
    pending ⟨p, b, c⟩ = p.toList ++ b := rfl

@[simp] theorem pending_push (r : PeekableReceiver α) (x : α) :
    (r.push x).pending = r.pending ++ [x] := by
  simp [push, pending]

@[simp] theorem push_peeked (r : PeekableReceiver α) (x : α) : (r.push x).peeked = r.peeked :=
  rfl

@[simp] theorem push_closed (r : PeekableReceiver α) (x : α) : (r.push x).closed = r.closed :=
  rfl

@[simp] theorem pending_close (r : PeekableReceiver α) : r.close.pending = r.pending := rfl

@[simp] theorem close_peeked (r : PeekableReceiver α) : r.close.peeked = r.peeked := rfl

@[simp] theorem close_closed (r : PeekableReceiver α) : r.close.closed = true := rfl

/-- `peek` succeeds exactly on the head of the pending messages, and fills the slot. -/
theorem peek_eq_some {r r' : PeekableReceiver α} {x : α} :
    r.peek = some (x, r') ↔ ∃ rest, r.pending = x :: rest ∧ r' = ⟨some x, rest, r.closed⟩ ∧
      (r.peeked = none ∨ r.peeked = some x) := by
  rcases r with ⟨_ | y, _ | ⟨z, buffer⟩, c⟩ <;> simp [peek, eq_comm] <;> aesop

/-- `peek` finds nothing exactly when nothing is pending. -/
theorem peek_eq_none {r : PeekableReceiver α} : r.peek = none ↔ r.pending = [] := by
  rcases r with ⟨_ | y, _ | ⟨z, buffer⟩, c⟩ <;> simp [peek]

/-- `next` succeeds exactly on the head of the pending messages, and empties the slot. -/
theorem next_eq_some {r r' : PeekableReceiver α} {x : α} :
    r.next = some (x, r') ↔ ∃ rest, r.pending = x :: rest ∧ r' = ⟨none, rest, r.closed⟩ := by
  rcases r with ⟨_ | y, _ | ⟨z, buffer⟩, c⟩ <;> simp [next, eq_comm] <;> aesop

end PeekableReceiver

end Lading
