import Lading.Algorithm.UnixDatagram.Spin

/-! The sequential meaning of the datagram send loop: the blocks of the emission order taken
one at a time, each skipped over the ceiling or charged and sent. -/

namespace Lading.Generator.UnixDatagram

/-! ## Calls read off the log -/

/-- The block a `rcv.next()` call returned. -/
def Event.taken? : Event → Option Block
  | .next blk => some blk
  | _ => none

/-- The calls of one throttle branch for `blk`: the charge, the take, the send. -/
def sendCalls (blk : Block) (r : SendResult) : List Event :=
  [.waitFor blk.totalBytes.get, .next blk, .send blk.bytes r]

/-- The ceiling after `blk` was sent with answer `r`. -/
def ceilingAfter (c : Nat) (blk : Block) : SendResult → Nat
  | .ok _ => c
  | .err _ => blk.bytes.length - 1

@[simp] theorem filterMap_taken_sendCalls (blk : Block) (r : SendResult) :
    (sendCalls blk r).filterMap Event.taken? = [blk] := rfl

/-- A failed send never raises the ceiling over a block that fitted under it. -/
theorem ceilingAfter_le {c : Nat} {blk : Block} (h : blk.totalBytes.get ≤ c) (r : SendResult) :
    ceilingAfter c blk r ≤ c := by
  cases r with
  | ok => exact le_rfl
  | err => exact (blk.length_sub_one_lt).le.trans h

/-! ## Windows of the emission order -/

/-- Blocks `a` up to `b - 1` of the emission order. -/
def window (emit : Nat → Block) (a b : Nat) : List Block :=
  (List.range' a (b - a)).map emit

section Window

variable {emit : Nat → Block} {a b : Nat}

@[simp] theorem window_self : window emit a a = [] := by simp [window]

theorem window_succ_right (h : a ≤ b) : window emit a (b + 1) = window emit a b ++ [emit b] := by
  rw [window, show b + 1 - a = b - a + 1 by omega, List.range'_concat]
  simp [window, Nat.add_sub_cancel' h]

theorem window_eq_cons (h : a < b) : window emit a b = emit a :: window emit (a + 1) b := by
  rw [window, show b - a = b - (a + 1) + 1 by omega, List.range'_succ]
  rfl

theorem window_eq_nil (h : b ≤ a) : window emit a b = [] := by
  simp [window, Nat.sub_eq_zero_of_le h]

/-- A pending list that starts with `x` starts the window with its first block. -/
theorem window_eq_cons_iff {x : Block} {rest : List Block} (h : window emit a b = x :: rest) :
    a < b ∧ x = emit a ∧ rest = window emit (a + 1) b := by
  by_cases hab : a < b
  · rw [window_eq_cons hab] at h
    injection h with hx hr
    exact ⟨hab, hx.symm, hr.symm⟩
  · rw [window_eq_nil (by omega)] at h
    cases h

end Window

/-! ## Derivations -/

/-- `Served emit k c log`: after taking the first `k` blocks of the emission order, the
ceiling is `c` and the collaborators have seen the calls `log`. -/
inductive Served (emit : Nat → Block) : Nat → Nat → List Event → Prop where
  | start : Served emit 0 usizeMax []
  | skip {k c log} : Served emit k c log → c < (emit k).totalBytes.get →
      Served emit (k + 1) c (log ++ [.next (emit k)])
  | sent {k c log} (r : SendResult) : Served emit k c log → (emit k).totalBytes.get ≤ c →
      Served emit (k + 1) (ceilingAfter c (emit k) r) (log ++ sendCalls (emit k) r)

/-- The blocks taken are the first `k` of the emission order, each once, in order. -/
theorem Served.taken {emit : Nat → Block} {k c : Nat} {log : List Event}
    (h : Served emit k c log) : log.filterMap Event.taken? = (List.range k).map emit := by
  induction h with
  | start => rfl
  | skip _ _ ih => simp [List.filterMap_append, ih, List.range_succ, Event.taken?]
  | sent r _ _ ih => simp [List.filterMap_append, ih, List.range_succ]

end Lading.Generator.UnixDatagram
