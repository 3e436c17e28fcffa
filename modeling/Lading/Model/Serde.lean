import Lading.Model.Rust

/-! serde_json's compact formatter and rmp_serde's default configuration, over the parts of
serde's data model the trace payload and the Splunk HEC responses use. -/

namespace Lading.Serde

/-- A serde `Serializer` into a `Vec<u8>`, for the shapes of the trace payload. -/
structure Format where
  str : List UInt8 → List UInt8
  u8 : UInt8 → List UInt8
  u64 : BitVec 64 → List UInt8
  i64 : BitVec 64 → List UInt8
  i32 : BitVec 32 → List UInt8
  f64 : BitVec 64 → List UInt8
  /-- a sequence of serialized elements -/
  seq : List (List UInt8) → List UInt8
  /-- a map of serialized keys and values, in iteration order -/
  map : List (List UInt8 × List UInt8) → List UInt8
  /-- a struct of field names and serialized values, in declaration order -/
  struct : List (List UInt8 × List UInt8) → List UInt8
  seq_length : ∀ es es' : List (List UInt8), es.map List.length = es'.map List.length →
    (seq es).length = (seq es').length
  map_length : ∀ kvs kvs' : List (List UInt8 × List UInt8),
    (kvs.map fun kv => kv.1.length + kv.2.length).Perm
      (kvs'.map fun kv => kv.1.length + kv.2.length) →
    (map kvs).length = (map kvs').length
  struct_length : ∀ fs fs' : List (List UInt8 × List UInt8),
    fs.map (fun f => (f.1, f.2.length)) = fs'.map (fun f => (f.1, f.2.length)) →
    (struct fs).length = (struct fs').length
  seq_nil_le : ∀ es, (seq []).length ≤ (seq es).length

/-! ## serde_json -/

namespace Json

/-- `HEX_DIGITS`. -/
def hexDigits : List UInt8 := ascii "0123456789abcdef"

/-- One byte of a string, escaped as serde_json's `ESCAPE` table says. -/
def escapeByte (b : UInt8) : List UInt8 :=
  if b = 0x22 then ascii "\\\""
  else if b = 0x5c then ascii "\\\\"
  else if b = 0x08 then ascii "\\b"
  else if b = 0x0c then ascii "\\f"
  else if b = 0x0a then ascii "\\n"
  else if b = 0x0d then ascii "\\r"
  else if b = 0x09 then ascii "\\t"
  else if b < 0x20 then
    ascii "\\u00" ++ [hexDigits.getD (b.toNat / 16) 0, hexDigits.getD (b.toNat % 16) 0]
  else [b]

/-- `format_escaped_str`, for values and for map keys alike. -/
def str (s : List UInt8) : List UInt8 := ascii "\"" ++ s.flatMap escapeByte ++ ascii "\""

/-- What `Compound` writes between `[` and `]` or `{` and `}`: each element, with a comma
before every one but the first. -/
def commaSep : List (List UInt8) → List UInt8
  | [] => []
  | e :: es => e ++ es.flatMap (ascii "," ++ ·)

def seq (es : List (List UInt8)) : List UInt8 := ascii "[" ++ commaSep es ++ ascii "]"

def map (kvs : List (List UInt8 × List UInt8)) : List UInt8 :=
  ascii "\x7b" ++ commaSep (kvs.map fun kv => kv.1 ++ ascii ":" ++ kv.2) ++ ascii "\x7d"

/-- A struct is an object keyed by its field names. -/
def struct (fs : List (List UInt8 × List UInt8)) : List UInt8 :=
  map (fs.map fun f => (str f.1, f.2))

/-- `itoa`, for every integer type. -/
def int (i : Int) : List UInt8 := ascii (toString i)

/-- `serialize_bool`. -/
def bool (b : Bool) : List UInt8 := if b then ascii "true" else ascii "false"

/-- `MapKeySerializer` on an integer key: its digits, quoted. -/
def intKey (i : Int) : List UInt8 := ascii "\"" ++ int i ++ ascii "\""

/-- `serialize_f64`: `ryu` for a finite value, `null` for NaN and the infinities (all ones
in the eleven exponent bits). -/
def f64 (ryu : BitVec 64 → List UInt8) (b : BitVec 64) : List UInt8 :=
  if b.toNat / 2 ^ 52 % 2 ^ 11 = 2 ^ 11 - 1 then ascii "null" else ryu b

theorem commaSep_length (es : List (List UInt8)) :
    (commaSep es).length = (es.map List.length).sum + (es.length - 1) := by
  cases es with
  | nil => rfl
  | cons e es =>
    simp [commaSep, List.length_flatMap, Function.comp_def, List.sum_map_add, ascii]; omega

theorem seq_length_eq (es : List (List UInt8)) :
    (seq es).length = (es.map List.length).sum + ((es.map List.length).length - 1) + 2 := by
  simp [seq, commaSep_length, ascii]

theorem map_length_eq (kvs : List (List UInt8 × List UInt8)) :
    (map kvs).length = (kvs.map fun kv => kv.1.length + kv.2.length).sum +
      (kvs.map fun kv => kv.1.length + kv.2.length).length +
      ((kvs.map fun kv => kv.1.length + kv.2.length).length - 1) + 2 := by
  have hsum : ((kvs.map fun kv => kv.1 ++ ascii ":" ++ kv.2).map List.length).sum =
      (kvs.map fun kv => kv.1.length + kv.2.length).sum + kvs.length := by
    induction kvs with
    | nil => rfl
    | cons kv kvs ih => simp only [List.map_cons, List.sum_cons, ih]; simp [ascii]; omega
  simp only [map, List.length_append, commaSep_length, hsum, List.length_map]
  simp [ascii]; omega

end Json

/-- serde_json's compact serializer; `ryu` formats finite floats. -/
def json (ryu : BitVec 64 → List UInt8) : Format where
  str := Json.str
  u8 b := Json.int b.toNat
  u64 v := Json.int v.toNat
  i64 v := Json.int v.toInt
  i32 v := Json.int v.toInt
  f64 := Json.f64 ryu
  seq := Json.seq
  map := Json.map
  struct := Json.struct
  seq_length es es' h := by simp only [Json.seq_length_eq, h]
  map_length kvs kvs' h := by simp only [Json.map_length_eq, h.sum_eq, h.length_eq]
  struct_length fs fs' h := by
    have key : ((fs.map fun f => (Json.str f.1, f.2)).map fun kv => kv.1.length + kv.2.length) =
        ((fs'.map fun f => (Json.str f.1, f.2)).map fun kv => kv.1.length + kv.2.length) := by
      simpa [Function.comp_def] using congrArg (List.map fun p => (Json.str p.1).length + p.2) h
    simp only [Json.struct, Json.map_length_eq, key]
  seq_nil_le es := by
    simp only [Json.seq_length_eq, List.map_nil, List.sum_nil, List.length_nil]; omega

/-! ## rmp_serde -/

namespace MsgPack

/-- The low `8 * width` bits of `n`, most significant byte first. -/
def bigEndian (width n : Nat) : List UInt8 :=
  (List.range width).reverse.map fun i => (n / 256 ^ i).toUInt8

/-- rmp's `write_uint`: the shortest of positive fixint, `uint 8`, `16`, `32` and `64`. -/
def writeUint (n : Nat) : List UInt8 :=
  if n < 128 then [n.toUInt8]
  else if n < 2 ^ 8 then [0xcc, n.toUInt8]
  else if n < 2 ^ 16 then 0xcd :: bigEndian 2 n
  else if n < 2 ^ 32 then 0xce :: bigEndian 4 n
  else 0xcf :: bigEndian 8 n

/-- rmp's `write_sint`: negative fixint, `int 8` to `int 64` below zero, `write_uint`'s
markers from zero on. -/
def writeSint (i : Int) : List UInt8 :=
  if -32 ≤ i ∧ i < 0 then [(i % 2 ^ 8).toNat.toUInt8]
  else if -128 ≤ i ∧ i < -32 then [0xd0, (i % 2 ^ 8).toNat.toUInt8]
  else if -32768 ≤ i ∧ i < -128 then 0xd1 :: bigEndian 2 (i % 2 ^ 16).toNat
  else if -2147483648 ≤ i ∧ i < -32768 then 0xd2 :: bigEndian 4 (i % 2 ^ 32).toNat
  else if i < -2147483648 then 0xd3 :: bigEndian 8 (i % 2 ^ 64).toNat
  else writeUint i.toNat

/-- The length marker of an array or a map: a fix marker with the length in its low four
bits, or a 16- or 32-bit length. -/
def containerLen (fix m16 m32 : UInt8) (n : Nat) : List UInt8 :=
  if n < 16 then [fix + n.toUInt8]
  else if n < 2 ^ 16 then m16 :: bigEndian 2 n
  else m32 :: bigEndian 4 n

/-- `write_array_len`. -/
def writeArrayLen (n : Nat) : List UInt8 := containerLen 0x90 0xdc 0xdd n

/-- `write_map_len`. -/
def writeMapLen (n : Nat) : List UInt8 := containerLen 0x80 0xde 0xdf n

/-- `write_str_len`, which also has an 8-bit length. -/
def writeStrLen (n : Nat) : List UInt8 :=
  if n < 32 then [0xa0 + n.toUInt8]
  else if n < 2 ^ 8 then [0xd9, n.toUInt8]
  else if n < 2 ^ 16 then 0xda :: bigEndian 2 n
  else 0xdb :: bigEndian 4 n

def str (s : List UInt8) : List UInt8 := writeStrLen s.length ++ s

def seq (es : List (List UInt8)) : List UInt8 := writeArrayLen es.length ++ es.flatten

def map (kvs : List (List UInt8 × List UInt8)) : List UInt8 :=
  writeMapLen kvs.length ++ kvs.flatMap fun kv => kv.1 ++ kv.2

/-- The default configuration writes a struct as the array of its values. -/
def struct (fs : List (List UInt8 × List UInt8)) : List UInt8 := seq (fs.map Prod.snd)

theorem containerLen_length_pos (fix m16 m32 : UInt8) (n : Nat) :
    0 < (containerLen fix m16 m32 n).length := by
  unfold containerLen; split_ifs <;> simp

theorem seq_length_eq (es : List (List UInt8)) :
    (seq es).length = (writeArrayLen (es.map List.length).length).length +
      (es.map List.length).sum := by
  simp [seq, List.length_flatten]

theorem map_length_eq (kvs : List (List UInt8 × List UInt8)) :
    (map kvs).length = (writeMapLen (kvs.map fun kv => kv.1.length + kv.2.length).length).length +
      (kvs.map fun kv => kv.1.length + kv.2.length).sum := by
  simp [map, List.length_flatMap, Function.comp_def]

end MsgPack

/-- rmp_serde's `Serializer::new`. -/
def msgPack : Format where
  str := MsgPack.str
  u8 b := MsgPack.writeUint b.toNat
  u64 v := MsgPack.writeUint v.toNat
  i64 v := MsgPack.writeSint v.toInt
  i32 v := MsgPack.writeSint v.toInt
  f64 b := 0xcb :: MsgPack.bigEndian 8 b.toNat
  seq := MsgPack.seq
  map := MsgPack.map
  struct := MsgPack.struct
  seq_length es es' h := by simp only [MsgPack.seq_length_eq, h]
  map_length kvs kvs' h := by simp only [MsgPack.map_length_eq, h.sum_eq, h.length_eq]
  struct_length fs fs' h := by
    have key : (fs.map Prod.snd).map List.length = (fs'.map Prod.snd).map List.length := by
      simpa [Function.comp_def] using congrArg (List.map Prod.snd) h
    simp only [MsgPack.struct, MsgPack.seq_length_eq, key]
  seq_nil_le es := by
    simp only [MsgPack.seq_length_eq, List.map_nil, List.length_nil, List.sum_nil,
      List.length_map]
    exact Nat.le_add_right_of_le (MsgPack.containerLen_length_pos 0x90 0xdc 0xdd es.length)

/-- The empty sequence, `[]` in JSON and the fixarray `0x90` in MessagePack: the shortest
encoding either format gives `members[0..0]`. -/
theorem json_seq_nil (ryu : BitVec 64 → List UInt8) : (json ryu).seq [] = ascii "[]" := rfl

theorem msgPack_seq_nil : msgPack.seq [] = [0x90] := rfl

end Lading.Serde
