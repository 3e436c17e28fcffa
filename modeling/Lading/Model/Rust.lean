import Mathlib

/-! Rust integer conventions and call outcomes shared by the models. Machine integers are
`Nat` with their bounds stated; a narrowing cast is an explicit remainder. -/

namespace Lading

/-- `usize::MAX` on the 64-bit targets lading is built for. -/
def usizeMax : Nat := 2 ^ 64 - 1

/-- `isize::MAX`: the largest size an allocation may have. `Vec` panics with `capacity
overflow` when asked for more. -/
def isizeMax : Nat := 2 ^ 63 - 1

/-- `x as u32` for an unsigned integer at least as wide: the low 32 bits. -/
def asU32 (x : Nat) : Nat := x % 2 ^ 32

theorem asU32_lt (x : Nat) : asU32 x < 2 ^ 32 := Nat.mod_lt _ (Nat.two_pow_pos 32)

theorem asU32_of_lt {x : Nat} (h : x < 2 ^ 32) : asU32 x = x := Nat.mod_eq_of_lt h

/-- The UTF-8 bytes of an ASCII string literal. -/
def ascii (s : String) : List UInt8 := s.toList.map fun c => c.toNat.toUInt8

/-- `usize::checked_sub`. -/
def checkedSub (a b : Nat) : Option Nat := if b ≤ a then some (a - b) else none

theorem checkedSub_eq_some {a b r : Nat} : checkedSub a b = some r ↔ b ≤ a ∧ r = a - b := by
  unfold checkedSub
  split <;> simp_all [eq_comm]

theorem checkedSub_eq_none {a b : Nat} : checkedSub a b = none ↔ a < b := by
  unfold checkedSub
  split <;> simp_all

/-- `std::num::NonZeroU32`: a `u32` other than zero. -/
structure NonZeroU32 where
  get : Nat
  pos : 0 < get
  lt : get < 2 ^ 32
deriving DecidableEq, Repr

/-- `NonZeroU32::new` on a `u32` value. -/
def NonZeroU32.new (x : Nat) : Option NonZeroU32 :=
  if h : 0 < x ∧ x < 2 ^ 32 then some ⟨x, h.1, h.2⟩ else none

theorem NonZeroU32.new_eq_some {x : Nat} {n : NonZeroU32} (h : NonZeroU32.new x = some n) :
    n.get = x := by
  unfold NonZeroU32.new at h
  split at h
  · cases h; rfl
  · cases h

/-- The `u32` cast followed by `NonZeroU32::new` fails exactly when the low 32 bits are zero. -/
theorem NonZeroU32.new_asU32_eq_none {x : Nat} :
    NonZeroU32.new (asU32 x) = none ↔ asU32 x = 0 := by
  have := asU32_lt x
  unfold NonZeroU32.new
  split
  · simp_all; omega
  · simp_all

/-- How a Rust call that returns `Result<T, E>` ends: `Ok`, `Err`, or a panic with its
message. -/
inductive Ret (ε α : Type) where
  | ok (a : α)
  | err (e : ε)
  | panic (msg : String)
deriving DecidableEq, Repr

namespace Ret

/-- The `?` operator: an `Err` or a panic ends the caller with it. -/
def bind {ε α β : Type} : Ret ε α → (α → Ret ε β) → Ret ε β
  | ok a, f => f a
  | err e, _ => err e
  | panic m, _ => panic m

instance {ε : Type} : Monad (Ret ε) where
  pure := ok
  bind := bind

@[simp] theorem ok_bind {ε α β : Type} (a : α) (f : α → Ret ε β) :
    (ok a >>= f) = f a := rfl

@[simp] theorem err_bind {ε α β : Type} (e : ε) (f : α → Ret ε β) :
    (err e >>= f) = err e := rfl

@[simp] theorem panic_bind {ε α β : Type} (m : String) (f : α → Ret ε β) :
    (panic m >>= f) = panic m := rfl

@[simp] theorem pure_eq {ε α : Type} (a : α) : (pure a : Ret ε α) = ok a := rfl

@[simp] theorem map_ok {ε α β : Type} (f : α → β) (a : α) : (f <$> ok a : Ret ε β) = ok (f a) :=
  rfl

@[simp] theorem map_err {ε α β : Type} (f : α → β) (e : ε) : (f <$> err e : Ret ε β) = err e :=
  rfl

@[simp] theorem map_panic {ε α β : Type} (f : α → β) (m : String) :
    (f <$> panic m : Ret ε β) = panic m := rfl

theorem bind_eq_ok {ε α β : Type} {x : Ret ε α} {f : α → Ret ε β} {b : β} :
    (x >>= f) = ok b ↔ ∃ a, x = ok a ∧ f a = ok b := by
  cases x <;> simp [bind, Bind.bind]

theorem bind_eq_err {ε α β : Type} {x : Ret ε α} {f : α → Ret ε β} {e : ε} :
    (x >>= f) = err e ↔ x = err e ∨ ∃ a, x = ok a ∧ f a = err e := by
  cases x <;> simp [bind, Bind.bind]

/-- `Option::ok_or`. -/
def okOr {ε α : Type} : Option α → ε → Ret ε α
  | some a, _ => ok a
  | none, e => err e

@[simp] theorem okOr_some {ε α : Type} (a : α) (e : ε) : okOr (some a) e = ok a := rfl
@[simp] theorem okOr_none {ε α : Type} (e : ε) : okOr (none : Option α) e = err e := rfl

/-- `Option::unwrap`. -/
def unwrap {ε α : Type} : Option α → Ret ε α
  | some a => ok a
  | none => panic "called `Option::unwrap()` on a `None` value"

@[simp] theorem unwrap_some {ε α : Type} (a : α) : (unwrap (some a) : Ret ε α) = ok a := rfl

end Ret

end Lading
