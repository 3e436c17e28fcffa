import Lading.Verification.TraceAgent.Termination

/-! # The trace payload depends on the hasher states -/

namespace Lading.Payload.TraceAgent

section Length

variable {fmt : Serde.Format} (hs hs' : Nat → RandomState)

theorem serializeMap_length {V : Type} (rs rs' : RandomState) (value : V → List UInt8)
    (m : HashMap V) :
    (serializeMap fmt rs value m).length = (serializeMap fmt rs' value m).length :=
  fmt.map_length _ _ (by
    simpa only [List.map_map, Function.comp_def] using
      (m.iter_perm_iter rs rs').map fun kv => (fmt.str kv.1).length + (value kv.2).length)

theorem Span.serialize_length (n : Nat) (s : Span) :
    (s.serialize fmt hs n).length = (s.serialize fmt hs' n).length :=
  fmt.struct_length _ _ (by
    simp only [List.map_cons, List.map_nil, serializeMap_length (hs (3 * n)) (hs' (3 * n)),
      serializeMap_length (hs (3 * n + 1)) (hs' (3 * n + 1)),
      serializeMap_length (hs (3 * n + 2)) (hs' (3 * n + 2))])

theorem serializeTraces_length (n : Nat) (members : List (List Span)) :
    (serializeTraces fmt hs n members).map List.length =
      (serializeTraces fmt hs' n members).map List.length := by
  induction members generalizing n with
  | nil => rfl
  | cons trace traces ih =>
    simp only [serializeTraces, List.map_cons, ih]
    congr 1
    exact fmt.seq_length _ _ (by
      simp only [List.map_map, Function.comp_def, Span.serialize_length hs hs'])

theorem serializeMembers_length (members : List (List Span)) :
    (serializeMembers fmt hs members).length = (serializeMembers fmt hs' members).length :=
  fmt.seq_length _ _ (serializeTraces_length hs hs' 0 members)

/-- Pass by pass, the loop under `hs` and under `hs'` breaks out at the same `high`, with
writers of the same length. -/
theorem shrink_length (members : List (List Span)) (maxBytes : Nat) (writer : List UInt8) :
    ∀ fuel high, (shrink fmt hs members maxBytes writer fuel high).map (List.length <$> ·) =
      (shrink fmt hs' members maxBytes writer fuel high).map (List.length <$> ·)
  | 0, _ => rfl
  | fuel + 1, high => by
    rcases hsl : slice members 0 high with part | e | m <;> simp only [shrink, hsl]
    rw [serializeMembers_length hs hs' part]
    split_ifs
    · exact shrink_length members maxBytes writer fuel (high / 2)
    · simp [serializeMembers_length hs hs' part]

end Length

/-- Whether `to_bytes` returns, and how many bytes it appends, do not depend on the hasher
states of the decoded maps. -/
theorem toBytes_length_independent {Rng : Type} (self : TraceAgent) (deps : Deps Rng)
    (rng : Rng) (maxBytes : Nat) (writer : List UInt8) (fuel : Nat) (hs' : Nat → RandomState) :
    (toBytes self deps rng maxBytes writer fuel).map (List.length <$> ·) =
      (toBytes self { deps with randomStates := hs' } rng maxBytes writer fuel).map
        (List.length <$> ·) := by
  by_cases hsize : maxBytes ≤ isizeMax
  · cases hdec : deps.arbitraryTakeRest (deps.fillBytes rng maxBytes) with
    | error e =>
      rw [toBytes_of_decode_error hsize hdec,
        @toBytes_of_decode_error _ self { deps with randomStates := hs' } _ _ _ _ _ hsize hdec]
    | ok members =>
      rw [toBytes_of_decode hsize hdec,
        @toBytes_of_decode _ self { deps with randomStates := hs' } _ _ _ _ _ hsize hdec]
      exact shrink_length _ _ members maxBytes writer fuel members.length
  · simp only [toBytes, if_pos (Nat.lt_of_not_le hsize)]

/-! ## Two hasher states, two payloads -/

/-- A span whose `meta` holds the tags `a:b` and `c:d`, and nothing else. -/
def twoTagSpan : Span where
  service := []
  name := []
  resource := []
  traceId := 0
  spanId := 0
  parentId := 0
  start := 0
  duration := 0
  error := 0
  meta := ⟨[(ascii "a", ascii "b"), (ascii "c", ascii "d")], by decide⟩
  metrics := ⟨[], by decide⟩
  kind := []
  metaStruct := ⟨[], by decide⟩

/-- A hasher state that puts `key` in the first bucket and every other key after it. -/
def keyFirst (key : List UInt8) : RandomState := ⟨fun k => if k = key then 0 else 1⟩

/-- serde_json calls `ryu` on the values of `metrics` only: a span without metrics is written
the same whatever `ryu` is. -/
theorem Span.serialize_json_of_metrics_nil (hs : Nat → RandomState) (n : Nat) (s : Span)
    (h : s.metrics.entries = []) (ryu ryu' : BitVec 64 → List UInt8) :
    s.serialize (Serde.json ryu) hs n = s.serialize (Serde.json ryu') hs n := by
  obtain ⟨_, _, _, _, _, _, _, _, _, _, ⟨_, _⟩, _, _⟩ := s
  subst h
  rfl

/-- A span whose `metrics` and `meta_struct` are empty is ordered by the hasher state of its
`meta` alone. -/
theorem Span.serialize_of_meta (fmt : Serde.Format) (hs hs' : Nat → RandomState) (n : Nat)
    (s : Span) (hm : s.metrics.entries = []) (hms : s.metaStruct.entries = [])
    (h : hs (3 * n) = hs' (3 * n)) : s.serialize fmt hs n = s.serialize fmt hs' n := by
  obtain ⟨_, _, _, _, _, _, _, _, _, _, ⟨_, _⟩, _, ⟨_, _⟩⟩ := s
  subst hm hms
  simp only [Span.serialize, h]
  rfl

/-- One trace of `twoTagSpan` is written the same under every `ryu`, and under every hasher
state of its empty maps. -/
theorem serializeMembers_twoTagSpan (ryu : BitVec 64 → List UInt8) (e : Encoding)
    (hs : Nat → RandomState) :
    serializeMembers (e.format ryu) hs [[twoTagSpan]] =
      serializeMembers (e.format fun _ => []) (fun _ => hs 0) [[twoTagSpan]] := by
  have hspan : ∀ fmt, twoTagSpan.serialize fmt hs 0 =
      twoTagSpan.serialize fmt (fun _ => hs 0) 0 :=
    fun fmt => Span.serialize_of_meta fmt _ _ 0 twoTagSpan rfl rfl rfl
  simp only [serializeMembers, serializeTraces, List.enumFrom_cons, List.enumFrom_nil,
    List.map_cons, List.map_nil, hspan]
  cases e
  · simp only [Encoding.format,
      Span.serialize_json_of_metrics_nil _ 0 twoTagSpan rfl ryu fun _ => []]
    rfl
  · rfl

/-- One trace of `twoTagSpan` encodes in under 256 bytes, differently under hasher states that
order its `meta` differently. -/
theorem twoTagSpan_encodings (ryu : BitVec 64 → List UInt8) (e : Encoding)
    {hs hs' : Nat → RandomState} (ha : hs 0 = keyFirst (ascii "a"))
    (hc : hs' 0 = keyFirst (ascii "c")) :
    (serializeMembers (e.format ryu) hs [[twoTagSpan]]).length ≤ 256 ∧
      serializeMembers (e.format ryu) hs [[twoTagSpan]] ≠
        serializeMembers (e.format ryu) hs' [[twoTagSpan]] := by
  simp only [serializeMembers_twoTagSpan ryu e, ha, hc]
  cases e
  · exact ⟨by set_option maxRecDepth 4000 in decide, by decide⟩
  · decide

/-- Two calls on the same rng, whose entropy `arbitrary` decodes into one trace of
`twoTagSpan`, append different bytes of the same length when the hasher states of its `meta`
order that map differently, for either encoding. -/
theorem toBytes_depends_on_hasher {Rng : Type} (self : TraceAgent) (deps : Deps Rng)
    (rng : Rng) (maxBytes : Nat) (writer : List UInt8) (fuel : Nat)
    (hdec : deps.arbitraryTakeRest (deps.fillBytes rng maxBytes) = .ok [[twoTagSpan]])
    (hmax : 256 ≤ maxBytes) (hsize : maxBytes ≤ isizeMax) (hfuel : 0 < fuel)
    (hs hs' : Nat → RandomState) (ha : hs 0 = keyFirst (ascii "a"))
    (hc : hs' 0 = keyFirst (ascii "c")) :
    ∃ out out',
      toBytes self { deps with randomStates := hs } rng maxBytes writer fuel = some (.ok out) ∧
        toBytes self { deps with randomStates := hs' } rng maxBytes writer fuel =
          some (.ok out') ∧
        out.length = out'.length ∧ out ≠ out' := by
  obtain ⟨fuel, rfl⟩ : ∃ f, fuel = f + 1 := ⟨fuel - 1, by omega⟩
  obtain ⟨hfit, hne⟩ := twoTagSpan_encodings deps.ryu self.encoding ha hc
  have hfit' := (serializeMembers_length hs' hs _).trans_le hfit
  refine ⟨_, _, @toBytes_of_fits _ self { deps with randomStates := hs } _ _ _ _ _ hsize hdec
      (hfit.trans hmax), @toBytes_of_fits _ self { deps with randomStates := hs' } _ _ _ _ _
      hsize hdec (hfit'.trans hmax), ?_, fun h => hne (List.append_cancel_left h)⟩
  simp only [List.length_append, serializeMembers_length hs hs']

/-- A decoder that reads one trace of `twoTagSpan` from any entropy. -/
def twoTagDeps : Deps Unit :=
  { emptyDeps with arbitraryTakeRest := fun _ => .ok [[twoTagSpan]] }

theorem toBytes_json_depends_on_hasher :
    twoTagDeps.arbitraryTakeRest (twoTagDeps.fillBytes () 256) = .ok [[twoTagSpan]] ∧
      256 ≤ 256 ∧ 256 ≤ isizeMax ∧ 0 < 1 ∧
      ∃ out out',
        toBytes TraceAgent.json { twoTagDeps with randomStates := fun _ => keyFirst (ascii "a") }
            () 256 [] 1 = some (.ok out) ∧
          toBytes TraceAgent.json
              { twoTagDeps with randomStates := fun _ => keyFirst (ascii "c") } () 256 [] 1 =
            some (.ok out') ∧
          out.length = out'.length ∧ out ≠ out' :=
  ⟨rfl, le_rfl, by decide, Nat.one_pos,
    toBytes_depends_on_hasher TraceAgent.json twoTagDeps () 256 [] 1 rfl le_rfl (by decide)
      Nat.one_pos _ _ rfl rfl⟩

end Lading.Payload.TraceAgent
