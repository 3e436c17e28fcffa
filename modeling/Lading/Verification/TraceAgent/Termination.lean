import Lading.Algorithm.TraceAgent

/-! # When the trace-agent serializer returns -/

namespace Lading.Payload.TraceAgent

section Loop

variable {fmt : Serde.Format} {hs : Nat → RandomState} {members : List (List Span)}
  {maxBytes : Nat} {writer : List UInt8}

theorem slice_zero {high : Nat} (h : high ≤ members.length) :
    slice members 0 high = .ok (members.take high) := by
  simp [slice, Nat.not_lt.mpr h]

/-- One pass from a `high` in bounds. -/
theorem shrink_succ {fuel high : Nat} (h : high ≤ members.length) :
    shrink fmt hs members maxBytes writer (fuel + 1) high =
      if maxBytes < (serializeMembers fmt hs (members.take high)).length then
        shrink fmt hs members maxBytes writer fuel (high / 2)
      else some (.ok (writer ++ serializeMembers fmt hs (members.take high))) := by
  simp only [shrink, slice_zero h, gt_iff_lt]

theorem serializeMembers_nil_le (ms : List (List Span)) :
    (fmt.seq []).length ≤ (serializeMembers fmt hs ms).length :=
  fmt.seq_nil_le _

/-- More fuel does not change a result. -/
theorem shrink_mono {fuel fuel' high : Nat} {r : Ret Error (List UInt8)}
    (h : shrink fmt hs members maxBytes writer fuel high = some r) (hle : fuel ≤ fuel') :
    shrink fmt hs members maxBytes writer fuel' high = some r := by
  induction fuel generalizing fuel' high with
  | zero => cases h
  | succ fuel ih =>
    obtain ⟨fuel', rfl⟩ : ∃ f, fuel' = f + 1 := ⟨fuel' - 1, by omega⟩
    rcases hsl : slice members 0 high with part | e | m <;> simp only [shrink, hsl] at h ⊢
    · split_ifs at h ⊢
      · exact ih h (by omega)
      · exact h
    all_goals exact h

/-- Under the length of the empty encoding no pass breaks out. -/
theorem shrink_eq_none (hmax : maxBytes < (fmt.seq []).length) :
    ∀ fuel high, high ≤ members.length → shrink fmt hs members maxBytes writer fuel high = none
  | 0, _, _ => rfl
  | fuel + 1, high, h => by
    rw [shrink_succ h, if_pos (hmax.trans_le (serializeMembers_nil_le _))]
    exact shrink_eq_none hmax fuel _ ((Nat.div_le_self _ _).trans h)

theorem div_two_div_pow (high j : Nat) : high / 2 / 2 ^ j = high / 2 ^ (j + 1) := by
  rw [Nat.div_div_eq_div_mul, pow_succ']

/-- At or over the empty encoding, the loop returns within `n + 1` passes from any
`high < 2 ^ n`: it writes the encoding of `members[0..high / 2 ^ j]` for the first `j` at
which that fits. -/
theorem shrink_returns (hmax : (fmt.seq []).length ≤ maxBytes) :
    ∀ n high, high ≤ members.length → high < 2 ^ n → ∃ j ≤ n,
      shrink fmt hs members maxBytes writer (n + 1) high =
          some (.ok (writer ++ serializeMembers fmt hs (members.take (high / 2 ^ j)))) ∧
        (serializeMembers fmt hs (members.take (high / 2 ^ j))).length ≤ maxBytes ∧
        ∀ i < j, maxBytes < (serializeMembers fmt hs (members.take (high / 2 ^ i))).length
  | 0, high, h, hlt => by
    obtain rfl : high = 0 := by omega
    have hfit : (serializeMembers fmt hs (members.take 0)).length ≤ maxBytes := by
      simpa [serializeMembers] using hmax
    exact ⟨0, le_rfl, by rw [shrink_succ h, if_neg (Nat.not_lt.mpr hfit)]; rfl, hfit,
      fun i hi => absurd hi (Nat.not_lt_zero _)⟩
  | n + 1, high, h, hlt => by
    by_cases hover : maxBytes < (serializeMembers fmt hs (members.take high)).length
    · obtain ⟨j, hj, hrun, hfit, hfirst⟩ :=
        shrink_returns hmax n (high / 2) ((Nat.div_le_self _ _).trans h) (by omega)
      refine ⟨j + 1, by omega, ?_, ?_, fun i hi => ?_⟩
      · rw [shrink_succ h, if_pos hover, hrun, div_two_div_pow]
      · rwa [← div_two_div_pow]
      · cases i with
        | zero => simpa using hover
        | succ i => simpa [div_two_div_pow] using hfirst i (by omega)
    · exact ⟨0, by omega, by rw [shrink_succ h, if_neg hover]; simp, by simpa using hover,
        fun i hi => absurd hi (Nat.not_lt_zero _)⟩

end Loop

/-! ## `to_bytes` -/

section ToBytes

variable {Rng : Type} (self : TraceAgent) (deps : Deps Rng) (rng : Rng) (maxBytes : Nat)
  (writer : List UInt8)

@[simp] theorem json_seq_nil_length (ryu : BitVec 64 → List UInt8) :
    ((Encoding.json.format ryu).seq []).length = 2 := rfl

@[simp] theorem msgPack_seq_nil_length (ryu : BitVec 64 → List UInt8) :
    ((Encoding.msgPack.format ryu).seq []).length = 1 := rfl

theorem seq_nil_length_le (e : Encoding) (ryu : BitVec 64 → List UInt8) :
    ((e.format ryu).seq []).length ≤ 2 := by
  cases e <;> simp

variable {self deps rng maxBytes writer}

/-- Within `isize::MAX` the buffer is allocated and the loop starts from `members.len()`. -/
theorem toBytes_of_decode {members : List (List Span)} {fuel : Nat}
    (hsize : maxBytes ≤ isizeMax)
    (hdec : deps.arbitraryTakeRest (deps.fillBytes rng maxBytes) = .ok members) :
    toBytes self deps rng maxBytes writer fuel =
      shrink (self.encoding.format deps.ryu) deps.randomStates members maxBytes writer fuel
        members.length := by
  simp only [toBytes, if_neg (Nat.not_lt.mpr hsize), hdec]

theorem toBytes_of_decode_error {e : String} {fuel : Nat} (hsize : maxBytes ≤ isizeMax)
    (hdec : deps.arbitraryTakeRest (deps.fillBytes rng maxBytes) = .error e) :
    toBytes self deps rng maxBytes writer fuel = some (.err (.arbitrary e)) := by
  simp only [toBytes, if_neg (Nat.not_lt.mpr hsize), hdec]

variable (self deps rng maxBytes writer)

/-- When `max_bytes` is under the length of the empty encoding (0 for either encoding, or 1
for JSON), `to_bytes` returns `Ok` for no fuel, and on any entropy `arbitrary` accepts, it
has not returned after any number of passes. -/
theorem toBytes_never_returns
    (hmax : maxBytes < ((self.encoding.format deps.ryu).seq []).length) (fuel : Nat) :
    (∀ out, toBytes self deps rng maxBytes writer fuel ≠ some (.ok out)) ∧
      ∀ members, deps.arbitraryTakeRest (deps.fillBytes rng maxBytes) = .ok members →
        toBytes self deps rng maxBytes writer fuel = none := by
  have hsize : maxBytes ≤ isizeMax :=
    (hmax.trans_le (seq_nil_length_le _ _)).le.trans (by decide)
  have hnone : ∀ members, deps.arbitraryTakeRest (deps.fillBytes rng maxBytes) = .ok members →
      toBytes self deps rng maxBytes writer fuel = none := fun members hdec => by
    rw [toBytes_of_decode hsize hdec]
    exact shrink_eq_none hmax fuel _ le_rfl
  refine ⟨fun out h => ?_, hnone⟩
  cases hdec : deps.arbitraryTakeRest (deps.fillBytes rng maxBytes) with
  | error e => rw [toBytes_of_decode_error hsize hdec] at h; cases h
  | ok members => rw [hnone members hdec] at h; cases h

/-- An rng that fills with zeros and a decoder that reads no trace. -/
def emptyDeps : Deps Unit where
  fillBytes _ n := List.replicate n 0
  fillBytes_length _ n := List.length_replicate n 0
  arbitraryTakeRest _ := .ok []
  randomStates _ := ⟨fun _ => 0⟩
  ryu _ := []

theorem toBytes_msgPack_zero_never_returns :
    0 < ((TraceAgent.msgPack.encoding.format emptyDeps.ryu).seq []).length ∧
      ((∀ out, toBytes TraceAgent.msgPack emptyDeps () 0 [] 64 ≠ some (.ok out)) ∧
        ∀ members, emptyDeps.arbitraryTakeRest (emptyDeps.fillBytes () 0) = .ok members →
          toBytes TraceAgent.msgPack emptyDeps () 0 [] 64 = none) :=
  ⟨by decide, toBytes_never_returns TraceAgent.msgPack emptyDeps () 0 [] (by decide) 64⟩

variable {self deps rng maxBytes writer}

/-- When the whole encoding fits, it is written on the first pass. -/
theorem toBytes_of_fits {members : List (List Span)} {fuel : Nat} (hsize : maxBytes ≤ isizeMax)
    (hdec : deps.arbitraryTakeRest (deps.fillBytes rng maxBytes) = .ok members)
    (hfit : (serializeMembers (self.encoding.format deps.ryu) deps.randomStates members).length ≤
      maxBytes) :
    toBytes self deps rng maxBytes writer (fuel + 1) = some (.ok (writer ++
      serializeMembers (self.encoding.format deps.ryu) deps.randomStates members)) := by
  rw [toBytes_of_decode hsize hdec, shrink_succ le_rfl, List.take_length,
    if_neg (Nat.not_lt.mpr hfit)]

variable (self deps rng maxBytes writer)

/-- Within `isize::MAX` and at or over the empty encoding, `to_bytes` on entropy `arbitrary`
decodes into `n` traces returns within `log2 n + 2` passes, with every slice in bounds, and
appends the encoding of `members[0..n / 2 ^ j]` for the first `j` at which that fits under
`max_bytes`. -/
theorem toBytes_returns {members : List (List Span)} (hsize : maxBytes ≤ isizeMax)
    (hdec : deps.arbitraryTakeRest (deps.fillBytes rng maxBytes) = .ok members)
    (hmax : ((self.encoding.format deps.ryu).seq []).length ≤ maxBytes) {fuel : Nat}
    (hfuel : members.length.log2 + 2 ≤ fuel) :
    ∃ j, toBytes self deps rng maxBytes writer fuel = some (.ok (writer ++
        serializeMembers (self.encoding.format deps.ryu) deps.randomStates
          (members.take (members.length / 2 ^ j)))) ∧
      (serializeMembers (self.encoding.format deps.ryu) deps.randomStates
        (members.take (members.length / 2 ^ j))).length ≤ maxBytes ∧
      ∀ i < j, maxBytes < (serializeMembers (self.encoding.format deps.ryu) deps.randomStates
        (members.take (members.length / 2 ^ i))).length := by
  obtain ⟨j, -, hrun, hfit, hfirst⟩ :=
    @shrink_returns _ _ _ _ writer hmax _ members.length le_rfl Nat.lt_log2_self
  refine ⟨j, ?_, hfit, hfirst⟩
  rw [toBytes_of_decode hsize hdec]
  exact shrink_mono hrun (by omega)

/-- A decoder that reads three empty traces from any entropy. -/
def threeTraceDeps : Deps Unit :=
  { emptyDeps with arbitraryTakeRest := fun _ => .ok [[], [], []] }

/-- With five bytes, the three traces (`[[],[],[]]`, ten bytes) do not fit, and the loop halves
`high` once and writes one trace. -/
theorem toBytes_json_five_halves :
    toBytes TraceAgent.json threeTraceDeps () 5 [] 3 = some (.ok (ascii "[[]]")) := by
  obtain ⟨j, hrun, hfit, hfirst⟩ := @toBytes_returns Unit TraceAgent.json threeTraceDeps () 5 []
    [[], [], []] (by decide) rfl (by decide) 3
    (by have := (@Nat.log2_lt 3 2 (by decide)).mpr (by decide); exact Nat.add_le_add_right this 1)
  rcases j with _ | _ | j
  · exact absurd hfit (by decide)
  · rw [hrun]; rfl
  · exact absurd (hfirst 1 (by omega)) (by decide)

end ToBytes

end Lading.Payload.TraceAgent
