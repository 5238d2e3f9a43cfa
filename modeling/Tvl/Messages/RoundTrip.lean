import Tvl.Messages.Datafield

/-!
# Bytes in, bytes out

A field built from bytes reads them with the `bytes` branch of `_format_to_list`: as one element
of its dtype when they are exactly one element long, and otherwise as one `UINT8` element per
byte, into a new list. Decoding therefore undoes `to_bytes` for `UINT8` fields and for fields of
at most one element, and for nothing else: two or more elements wider than a byte come back as
one element per byte. The field decoded must hold a list of an allowed length, as every
assignment leaves it; a list lengthened through another reference encodes to more bytes than
the field accepts.
-/

namespace Tvl.Messages.RoundTrip

open Struct Datafield

/-! ## Reading bytes -/

theorem packElement_one_of_lt (order : Endianness) {value : Nat} (small : value < 256) :
    packElement order 1 value = [UInt8.ofNat value] := by
  cases order <;> simp [packElement, toBytesLE, Nat.mod_eq_of_lt small]

/-- One-byte elements read from bytes pack back to those bytes. -/
theorem flatMap_packElement_one (order : Endianness) (bytes : List UInt8) :
    ((bytes.map fun byte => (byte.toNat : Int)).flatMap
      fun value => packElement order 1 value.toNat) = bytes := by
  induction bytes with
  | nil => rfl
  | cons byte rest ih =>
      have small : byte.toNat < 256 := byte.toNat_lt_size
      simp only [List.map_cons, List.flatMap_cons, Int.toNat_ofNat, ih,
        packElement_one_of_lt order small, List.singleton_append, List.cons.injEq, and_true]
      exact UInt8.eq_of_toBitVec_eq (by simp [UInt8.ofNat, UInt8.toNat])

section Bytes

variable {order : Endianness} {params : Params} {bytes : List UInt8}

/-- Bytes one element long are that element. -/
theorem formatToList_bytes_of_length (width : bytes.length = params.dtype.nbBytes) :
    formatToList order params (.bytes bytes) = .built [(unpackElement order bytes : Int)] := by
  simp [formatToList, unpack_one, width]

/-- Bytes of any other length are read one byte per element. -/
theorem formatToList_bytes_of_ne (width : bytes.length ≠ params.dtype.nbBytes) :
    formatToList order params (.bytes bytes) = .built (bytes.map fun byte => (byte.toNat : Int)) := by
  simp [formatToList, unpack_one, width]

/-- A `UINT8` field reads bytes one per element, whichever branch runs. -/
theorem formatToList_bytes_uint8 (uint8 : params.dtype.nbBytes = 1) (bytes : List UInt8) :
    formatToList order params (.bytes bytes) = .built (bytes.map fun byte => (byte.toNat : Int)) := by
  by_cases width : bytes.length = params.dtype.nbBytes
  · obtain ⟨byte, rfl⟩ := List.length_eq_one.mp (width.trans uint8)
    rw [formatToList_bytes_of_length width]
    cases order <;> simp [unpackElement, ofBytesLE]
  · exact formatToList_bytes_of_ne width

/-- A field decoded from bytes that are not one element long holds a new list of at least one
element per byte. -/
theorem init_bytes_of_ne (width : bytes.length ≠ params.dtype.nbBytes) {heap after : Heap}
    {decoded : DataField} (built : DataField.init order (.bytes bytes) params heap = .ok decoded after) :
    decoded.value = .list heap.next ∧ bytes.length ≤ (after.lists heap.next).length := by
  obtain ⟨-, rfl, written, -⟩ := DataField.setValue_eq_ok (by simp) built
  simp only [formatToList_bytes_of_ne width, Formatted.address, Formatted.contents] at written ⊢
  simp [written]

end Bytes

/-! ## Decoding what was encoded -/

/-- A field built from an input read as a new list it can hold stores that list, at the first
free address, and changes no other list. -/
theorem init_of_built {order : Endianness} {params : Params} {input : InputData}
    {values : List Int} (notAuto : input ≠ .auto) (read : formatToList order params input = .built values)
    (atLeast : params.minSize ≤ values.length) (atMost : values.length ≤ params.maxSize)
    (heap : Heap) :
    ∃ after, DataField.init order input params heap = .ok ⟨params, .list heap.next⟩ after ∧
      after.lists heap.next = values ∧ ∀ other ≠ heap.next, after.lists other = heap.lists other := by
  have fits : ((formatToList order params input).contents heap).length ≤ params.maxSize := by
    simpa [read, Formatted.contents] using atMost
  obtain ⟨after, ran, written, frame⟩ := @DataField.setValue_of_le order input heap ⟨params, .auto⟩
    notAuto fits
  simp only [read, Formatted.address, Formatted.contents, Nat.sub_eq_zero_of_le atLeast,
    List.replicate_zero, List.append_nil] at ran written frame
  exact ⟨after, ran, written, frame⟩

/-- Packed elements in range read back as themselves when the dtype is one byte wide or there
is at most one element. -/
theorem formatToList_pack {order : Endianness} {params : Params} {values : List Int}
    {bytes : List UInt8} (range : ∀ value ∈ values, InRange params.dtype value)
    (narrow : params.dtype.nbBytes = 1 ∨ values.length ≤ 1)
    (packed : pack order params.dtype values = some bytes) :
    formatToList order params (.bytes bytes) = .built values := by
  rw [pack_of_inRange order params.dtype range, Option.some.injEq] at packed
  subst packed
  rcases narrow with uint8 | short
  · rw [formatToList_bytes_uint8 uint8, uint8, Formatted.built.injEq]
    induction values with
    | nil => rfl
    | cons value rest ih =>
        simp only [List.mem_cons, forall_eq_or_imp] at range
        have small : value.toNat < 256 := by simpa [uint8] using range.1.toNat_lt
        rw [List.flatMap_cons, List.map_append, packElement_one_of_lt order small, ih range.2]
        simp [UInt8.toNat_ofNat_of_lt small, Int.toNat_of_nonneg range.1.1]
  · match values, short with
    | [], _ =>
        have := params.dtype.nbBytes_pos
        simp [formatToList_bytes_of_ne (show [].length ≠ params.dtype.nbBytes by simp; omega)]
    | [value], _ =>
        have range := range value (List.mem_singleton_self _)
        have width : (packElement order params.dtype.nbBytes value.toNat).length =
            params.dtype.nbBytes := length_packElement _ _ _
        simp only [List.flatMap_cons, List.flatMap_nil, List.append_nil]
        rw [formatToList_bytes_of_length width,
          unpackElement_packElement order range.toNat_lt, Int.toNat_of_nonneg range.1]

/-- Bytes a field can hold, one byte wide or at most one element long, are the packing of the
new list the field reads from them. -/
theorem pack_formatToList (order : Endianness) {params : Params} {bytes : List UInt8}
    (whole : bytes.length % params.dtype.nbBytes = 0)
    (narrow : params.dtype.nbBytes = 1 ∨ bytes.length ≤ params.dtype.nbBytes) :
    ∃ values, formatToList order params (.bytes bytes) = .built values ∧
      pack order params.dtype values = some bytes ∧
      values.length * params.dtype.nbBytes = bytes.length := by
  rcases narrow with uint8 | short
  · refine ⟨_, formatToList_bytes_uint8 uint8 bytes, ?_, by simp [uint8]⟩
    have range : ∀ value ∈ bytes.map (fun byte : UInt8 => (byte.toNat : Int)),
        InRange params.dtype value := by
      simp only [List.mem_map]
      rintro _ ⟨byte, -, rfl⟩
      exact (inRange_natCast_iff _ _).mpr (by simpa [uint8] using byte.toNat_lt_size)
    rw [pack_of_inRange order params.dtype range, uint8, flatMap_packElement_one]
  · have := params.dtype.nbBytes_pos
    by_cases width : bytes.length = params.dtype.nbBytes
    · have range : InRange params.dtype (unpackElement order bytes : Int) :=
        (inRange_natCast_iff _ _).mpr (width ▸ unpackElement_lt order bytes)
      refine ⟨_, formatToList_bytes_of_length width, ?_, by simp [width]⟩
      simp [pack, range, ← width, packElement_unpackElement]
    · have empty : bytes = [] := by
        apply List.eq_nil_of_length_eq_zero
        rcases Nat.lt_or_ge bytes.length params.dtype.nbBytes with below | _
        · exact (Nat.mod_eq_of_lt below).symm.trans whole
        · omega
      subst empty
      exact ⟨[], formatToList_bytes_of_ne width, rfl, by simp⟩

theorem pack_of_toBytes {order : Endianness} {field : DataField} {heap : Heap} {ref : Nat}
    {bytes : List UInt8} (stored : field.value = .list ref)
    (encoded : field.toBytes order heap = .ok bytes) :
    pack order field.params.dtype (heap.lists ref) = some bytes := by
  cases packed : pack order field.params.dtype (heap.lists ref) with
  | none => simp [DataField.toBytes, stored, packed] at encoded
  | some found => simpa [DataField.toBytes, stored, packed] using encoded

/-! ## The law and where it stops -/

/-- Decoding undoes `to_bytes`, and `to_bytes` undoes decoding, in either byte order, for every
field that is one byte wide or holds at most one element, the decoded field holding a new list;
for a dtype wider than a byte, neither holds once there are two elements or more. -/
theorem datafield_bytes_round_trip (order : Endianness) (params : Params) (heap : Heap) :
    (∀ field : DataField, field.params = params → ∀ ref, field.value = .list ref →
      params.minSize ≤ (heap.lists ref).length → (heap.lists ref).length ≤ params.maxSize →
      (∀ value ∈ heap.lists ref, InRange params.dtype value) →
      (params.dtype.nbBytes = 1 ∨ (heap.lists ref).length ≤ 1) →
      ∃ bytes, field.toBytes order heap = .ok bytes ∧
        ∃ decoded after, DataField.init order (.bytes bytes) params heap = .ok decoded after ∧
          decoded.value = .list heap.next ∧ after.lists heap.next = heap.lists ref) ∧
    (∀ bytes : List UInt8, bytes.length % params.dtype.nbBytes = 0 →
      params.minSize * params.dtype.nbBytes ≤ bytes.length →
      bytes.length ≤ params.maxSize * params.dtype.nbBytes →
      (params.dtype.nbBytes = 1 ∨ bytes.length ≤ params.dtype.nbBytes) →
      ∃ decoded after, DataField.init order (.bytes bytes) params heap = .ok decoded after ∧
        decoded.toBytes order after = .ok bytes) ∧
    (1 < params.dtype.nbBytes →
      (∀ field : DataField, field.params = params → ∀ ref, field.value = .list ref →
        2 ≤ (heap.lists ref).length → ∀ bytes, field.toBytes order heap = .ok bytes →
        ∀ decoded after, DataField.init order (.bytes bytes) params heap = .ok decoded after →
          ∀ stored, decoded.value = .list stored → after.lists stored ≠ heap.lists ref) ∧
      ∀ bytes : List UInt8, params.dtype.nbBytes < bytes.length →
        ∀ decoded after, DataField.init order (.bytes bytes) params heap = .ok decoded after →
          decoded.toBytes order after ≠ .ok bytes) := by
  have width := params.dtype.nbBytes_pos
  refine ⟨?_, fun bytes whole atLeast atMost narrow => ?_, fun wide => ⟨?_, ?_⟩⟩
  · rintro ⟨_, _⟩ rfl ref rfl atLeast atMost range narrow
    have packed := pack_of_inRange order _ range
    obtain ⟨after, built, written, -⟩ :=
      init_of_built (by simp) (formatToList_pack range narrow packed) atLeast atMost heap
    exact ⟨_, by simp [DataField.toBytes, packed], _, after, built, rfl, written⟩
  · obtain ⟨values, read, packs, length⟩ := pack_formatToList order whole narrow
    obtain ⟨after, built, written, -⟩ := init_of_built (by simp) read
      (Nat.le_of_mul_le_mul_right (length ▸ atLeast) width)
      (Nat.le_of_mul_le_mul_right (length ▸ atMost) width) heap
    exact ⟨_, after, built, by simp [DataField.toBytes, written, packs]⟩
  · intro field same ref stored two bytes encoded decoded after built address read equal
    subst same
    have length := length_of_pack (pack_of_toBytes stored encoded)
    have spread := Nat.mul_le_mul_left (heap.lists ref).length wide
    have twice := Nat.mul_le_mul_right field.params.dtype.nbBytes two
    obtain ⟨value, longer⟩ := init_bytes_of_ne (by omega) built
    rw [value, FieldValue.list.injEq] at read
    subst read
    rw [equal] at longer
    omega
  · intro bytes long decoded after built encoded
    obtain ⟨value, longer⟩ := init_bytes_of_ne (Nat.ne_of_gt long) built
    have length := length_of_pack (pack_of_toBytes value encoded)
    obtain ⟨-, rfl, -⟩ := DataField.setValue_eq_ok (by simp) built
    have spread := Nat.mul_le_mul_left (after.lists heap.next).length wide
    dsimp only at length
    omega

/-- The parameters of a `UINT16` field of exactly two elements. -/
def u16PairParams : Params := ⟨.uint16, 2, 2, by decide, by decide⟩

/-- A `UINT16` field of two elements holding the list at address `0`. -/
def u16Pair : DataField := ⟨u16PairParams, .list 0⟩

/-- The list `[1, 2]` at address `0`. -/
def pairHeap : Heap := ⟨fun ref => if ref = 0 then [1, 2] else [], 1⟩

/-- Two `UINT16` elements encode to four bytes, which decode as four `UINT8` elements and
overflow the field. -/
theorem u16_pair_bytes_do_not_decode :
    u16Pair.toBytes .little pairHeap = .ok [1, 0, 2, 0] ∧
      DataField.init .little (.bytes [1, 0, 2, 0]) u16PairParams pairHeap =
        .error (.listTooLong "length=4 > 2.") pairHeap :=
  ⟨rfl, rfl⟩

end Tvl.Messages.RoundTrip
