import Lading.Algorithm.DogStatsD

/-! # DogStatsD writes the longest run of whole lines that fits -/

namespace Lading.Payload.DogStatsD

variable {R Metric Event ServiceCheck : Type} (g : MemberGenerator R Metric Event ServiceCheck)
  (d : Display Metric Event ServiceCheck)

/-- The rng after `i` draws. -/
def rngAfter (rng : R) : Nat → R
  | 0 => rng
  | i + 1 => (g.generate (rngAfter rng i)).2

/-- Line `i`: the `i`-th member drawn, displayed, and a newline. -/
def line (rng : R) (i : Nat) : List UInt8 := (g.generate (rngAfter g rng i)).1.fmt d ++ ascii "\n"

/-- The first `k` lines, `e_0 ++ "\n" ++ ... ++ e_(k-1) ++ "\n"`. -/
def lines (rng : R) (k : Nat) : List UInt8 := (List.range k).flatMap (line g d rng)

@[simp] theorem lines_zero (rng : R) : lines g d rng 0 = [] := rfl

theorem rngAfter_succ' (rng : R) (i : Nat) :
    rngAfter g rng (i + 1) = rngAfter g (g.generate rng).2 i := by
  induction i with
  | zero => rfl
  | succ i ih => rw [rngAfter, ih, rngAfter]

theorem line_succ (rng : R) (i : Nat) : line g d rng (i + 1) = line g d (g.generate rng).2 i := by
  rw [line, rngAfter_succ', line]

theorem lines_succ (rng : R) (k : Nat) :
    lines g d rng (k + 1) = line g d rng 0 ++ lines g d (g.generate rng).2 k := by
  simp only [lines, List.range_succ_eq_map, List.flatMap_cons, List.flatMap_map,
    Function.comp_def, line_succ]

/-- What the loop writes from `bytes_remaining`: the first `k` lines, for the `k` at which
the next line overflows, and the rng after `k + 1` draws. -/
theorem writeLines_eq (rng : R) (bytesRemaining : Nat) (writer : List UInt8) :
    ∃ k, k ≤ bytesRemaining ∧
      writeLines g d rng bytesRemaining writer = (writer ++ lines g d rng k, rngAfter g rng (k + 1)) ∧
      (lines g d rng k).length ≤ bytesRemaining ∧
      bytesRemaining < (lines g d rng (k + 1)).length ∧
      bytesRemaining - (lines g d rng k).length < (line g d rng k).length := by
  induction bytesRemaining using Nat.strong_induction_on generalizing rng writer with
  | _ bytesRemaining ih =>
    have hline : (line g d rng 0).length = ((g.generate rng).1.fmt d).length + 1 := by
      simp [line, rngAfter, ascii]
    rw [writeLines]
    split
    · rename_i remainder h
      obtain ⟨hle, rfl⟩ := checkedSub_eq_some.mp h
      obtain ⟨k, hk, hrun, hfit, hover, hslack⟩ :=
        ih _ (Nat.sub_lt_self (Nat.succ_pos _) hle) (g.generate rng).2
          (writer ++ (g.generate rng).1.fmt d ++ ascii "\n")
      refine ⟨k + 1, by omega, ?_, ?_, ?_, ?_⟩
      · rw [hrun, lines_succ, rngAfter_succ' g rng (k + 1)]
        simp [line, rngAfter]
      · rw [lines_succ, List.length_append]; omega
      · rw [lines_succ, List.length_append]; omega
      · rw [lines_succ, List.length_append, line_succ]; omega
    · rename_i h
      have hover := checkedSub_eq_none.mp h
      refine ⟨0, Nat.zero_le _, by simp [rngAfter], by simp, ?_, ?_⟩ <;>
        simp only [lines_succ, lines_zero, List.length_append, List.length_nil] <;> omega

/-- `DogStatsD::to_bytes` appends exactly the lines `e_0 ++ "\n" ++ ... ++ e_(k-1) ++ "\n"`,
where `k` is the first index whose line overflows (the first `k + 1` lines are over
`max_bytes`, the first `k` are not), and draws `k + 1 ≤ max_bytes + 1` members; what is
left of `max_bytes` is shorter than line `k`. -/
theorem toBytes_writes_whole_lines (rng : R) (maxBytes : Nat) (writer : List UInt8) :
    ∃ k, k + 1 ≤ maxBytes + 1 ∧
      toBytes g d rng maxBytes writer = writer ++ lines g d rng k ∧
      (writeLines g d rng maxBytes writer).2 = rngAfter g rng (k + 1) ∧
      (lines g d rng k).length ≤ maxBytes ∧ maxBytes < (lines g d rng (k + 1)).length ∧
      maxBytes - (lines g d rng k).length < (line g d rng k).length := by
  obtain ⟨k, hk, hrun, hfit, hover, hslack⟩ := writeLines_eq g d rng maxBytes writer
  exact ⟨k, by omega, by rw [toBytes, hrun], by rw [hrun], hfit, hover, hslack⟩

end Lading.Payload.DogStatsD
