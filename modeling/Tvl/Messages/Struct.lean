import Mathlib.Tactic.NormNum
import Mathlib.Data.List.Basic

/-!
# The `struct` conversions of the message layer

`DataField` converts its elements with Python's `struct` module, in the byte order held by the
process-wide `endianness` object. Every format it builds starts with `<` or `>`, so sizes are
the standard ones: one unsigned integer of `nb_bytes` bytes per element and no alignment.
Packing raises `struct.error` on an element outside `[0, 2 ^ (8 * nb_bytes))`, unpacking on a
buffer whose length is not the size of the format.
-/

namespace Tvl.Messages.Struct

/-- Integer types and their format for conversion to bytes. -/
inductive Dtype where
  | uint8
  | uint16
  | uint32
  | uint64
  deriving DecidableEq, Repr

/-- `struct.calcsize` of the format character of `B`, `H`, `I` and `Q`. -/
def Dtype.nbBytes : Dtype → Nat
  | .uint8 => 1
  | .uint16 => 2
  | .uint32 => 4
  | .uint64 => 8

theorem Dtype.nbBytes_pos (dtype : Dtype) : 0 < dtype.nbBytes := by
  cases dtype <;> decide

/-- The byte order of `Endianness`; `little` until `endianness.set` is called. -/
inductive Endianness where
  | little
  | big
  deriving DecidableEq, Repr

/-! ## One element -/

/-- The `width` little-endian bytes of `value`; higher bits are dropped. -/
def toBytesLE : Nat → Nat → List UInt8
  | 0, _ => []
  | width + 1, value => UInt8.ofNat (value % 256) :: toBytesLE width (value / 256)

/-- The natural number with the given little-endian bytes. -/
def ofBytesLE : List UInt8 → Nat
  | [] => 0
  | byte :: rest => byte.toNat + 256 * ofBytesLE rest

@[simp] theorem length_toBytesLE (width value : Nat) : (toBytesLE width value).length = width := by
  induction width generalizing value with
  | zero => rfl
  | succ width ih => simp [toBytesLE, ih]

theorem ofBytesLE_toBytesLE (width value : Nat) :
    ofBytesLE (toBytesLE width value) = value % 256 ^ width := by
  induction width generalizing value with
  | zero => simp [toBytesLE, ofBytesLE, Nat.mod_one]
  | succ width ih =>
      have byte : (UInt8.ofNat (value % 256)).toNat = value % 256 :=
        UInt8.toNat_ofNat_of_lt (Nat.mod_lt _ (by decide))
      rw [toBytesLE, ofBytesLE, ih, byte, Nat.pow_succ', Nat.mod_mul]

theorem toBytesLE_ofBytesLE (bytes : List UInt8) :
    toBytesLE bytes.length (ofBytesLE bytes) = bytes := by
  induction bytes with
  | nil => rfl
  | cons byte rest ih =>
      have small : byte.toNat < 256 := byte.toNat_lt_size
      simp only [List.length_cons, toBytesLE, ofBytesLE, List.cons.injEq]
      constructor
      · rw [Nat.add_mul_mod_self_left, Nat.mod_eq_of_lt small]
        exact UInt8.eq_of_toBitVec_eq (by simp [UInt8.ofNat, UInt8.toNat])
      · rw [Nat.add_mul_div_left _ _ (by decide), Nat.div_eq_of_lt small, Nat.zero_add, ih]

/-- One element packed in the given byte order. -/
def packElement (order : Endianness) (width value : Nat) : List UInt8 :=
  match order with
  | .little => toBytesLE width value
  | .big => (toBytesLE width value).reverse

/-- One element unpacked in the given byte order. -/
def unpackElement (order : Endianness) (bytes : List UInt8) : Nat :=
  match order with
  | .little => ofBytesLE bytes
  | .big => ofBytesLE bytes.reverse

@[simp] theorem length_packElement (order : Endianness) (width value : Nat) :
    (packElement order width value).length = width := by
  cases order <;> simp [packElement]

theorem unpackElement_packElement (order : Endianness) {width value : Nat}
    (small : value < 256 ^ width) :
    unpackElement order (packElement order width value) = value := by
  cases order <;>
    simp [packElement, unpackElement, ofBytesLE_toBytesLE, Nat.mod_eq_of_lt small]

theorem packElement_unpackElement (order : Endianness) (bytes : List UInt8) :
    packElement order bytes.length (unpackElement order bytes) = bytes := by
  cases order with
  | little => exact toBytesLE_ofBytesLE bytes
  | big =>
      simpa [packElement, unpackElement] using
        congrArg List.reverse (toBytesLE_ofBytesLE bytes.reverse)

theorem ofBytesLE_lt (bytes : List UInt8) : ofBytesLE bytes < 256 ^ bytes.length := by
  induction bytes with
  | nil => decide
  | cons byte rest ih =>
      have small : byte.toNat < 256 := byte.toNat_lt_size
      rw [ofBytesLE, List.length_cons, Nat.pow_succ']
      omega

theorem unpackElement_lt (order : Endianness) (bytes : List UInt8) :
    unpackElement order bytes < 256 ^ bytes.length := by
  cases order with
  | little => exact ofBytesLE_lt bytes
  | big => simpa [unpackElement] using ofBytesLE_lt bytes.reverse

/-! ## Formats of several elements -/

/-- `struct` accepts `value` as an element of `dtype`. -/
def InRange (dtype : Dtype) (value : Int) : Prop :=
  0 ≤ value ∧ value < 2 ^ (8 * dtype.nbBytes)

instance (dtype : Dtype) (value : Int) : Decidable (InRange dtype value) :=
  inferInstanceAs (Decidable (_ ∧ _))

/-- `struct.pack(f"{order}{len(values)}{dtype}", *values)`; `none` is `struct.error`. -/
def pack (order : Endianness) (dtype : Dtype) : List Int → Option (List UInt8)
  | [] => some []
  | value :: rest =>
      if InRange dtype value then
        (pack order dtype rest).map (packElement order dtype.nbBytes value.toNat ++ ·)
      else none

/-- The elements of `count` consecutive groups of `width` bytes. -/
def unpackElements (order : Endianness) (width : Nat) : Nat → List UInt8 → List Nat
  | 0, _ => []
  | count + 1, buffer =>
      unpackElement order (buffer.take width) ::
        unpackElements order width count (buffer.drop width)

/-- `struct.unpack(f"{order}{count}{dtype}", buffer)`; `none` is `struct.error`. -/
def unpack (order : Endianness) (dtype : Dtype) (count : Nat) (buffer : List UInt8) :
    Option (List Nat) :=
  if buffer.length = count * dtype.nbBytes then
    some (unpackElements order dtype.nbBytes count buffer)
  else none

theorem two_pow_eq_pow (dtype : Dtype) :
    (2 : Int) ^ (8 * dtype.nbBytes) = ((256 ^ dtype.nbBytes : Nat) : Int) := by
  rw [pow_mul]; norm_num

/-- A natural number is in range exactly when it has at most `nb_bytes` bytes. -/
theorem inRange_natCast_iff (dtype : Dtype) (value : Nat) :
    InRange dtype value ↔ value < 256 ^ dtype.nbBytes := by
  rw [InRange, two_pow_eq_pow]
  omega

theorem InRange.toNat_lt {dtype : Dtype} {value : Int} (range : InRange dtype value) :
    value.toNat < 256 ^ dtype.nbBytes := by
  have nonneg := range.1
  rw [← inRange_natCast_iff, Int.toNat_of_nonneg nonneg]
  exact range

theorem pack_of_inRange (order : Endianness) (dtype : Dtype) {values : List Int}
    (range : ∀ value ∈ values, InRange dtype value) :
    pack order dtype values =
      some (values.flatMap fun value => packElement order dtype.nbBytes value.toNat) := by
  induction values with
  | nil => rfl
  | cons value rest ih =>
      simp only [List.mem_cons, forall_eq_or_imp] at range
      simp [pack, range.1, ih range.2]

theorem pack_eq_none_iff (order : Endianness) (dtype : Dtype) (values : List Int) :
    pack order dtype values = none ↔ ∃ value ∈ values, ¬ InRange dtype value := by
  induction values with
  | nil => simp [pack]
  | cons value rest ih =>
      by_cases range : InRange dtype value <;> simp [pack, range, ih]

theorem length_of_pack {order : Endianness} {dtype : Dtype} {values : List Int}
    {bytes : List UInt8} (packed : pack order dtype values = some bytes) :
    bytes.length = values.length * dtype.nbBytes := by
  induction values generalizing bytes with
  | nil => simp [pack] at packed; simp [← packed]
  | cons value rest ih =>
      simp only [pack] at packed
      split at packed
      · obtain ⟨tail, rest_packed, rfl⟩ := Option.map_eq_some'.mp packed
        simp [ih rest_packed, Nat.succ_mul, Nat.add_comm]
      · cases packed

/-- A buffer read as one element of `dtype`: it fails unless the buffer is one element long. -/
theorem unpack_one (order : Endianness) (dtype : Dtype) (buffer : List UInt8) :
    unpack order dtype 1 buffer =
      if buffer.length = dtype.nbBytes then some [unpackElement order buffer] else none := by
  by_cases width : buffer.length = dtype.nbBytes
  · have whole : buffer.take dtype.nbBytes = buffer := List.take_of_length_le width.le
    simp [unpack, unpackElements, width, whole]
  · simp [unpack, width]

/-! ## Round trip -/

theorem unpackElements_flatMap (order : Endianness) {width : Nat} {values : List Nat}
    (small : ∀ value ∈ values, value < 256 ^ width) :
    unpackElements order width values.length (values.flatMap (packElement order width)) =
      values := by
  induction values with
  | nil => rfl
  | cons value rest ih =>
      simp only [List.mem_cons, forall_eq_or_imp] at small
      have width_eq : (packElement order width value).length = width := length_packElement _ _ _
      rw [List.length_cons, unpackElements, List.flatMap_cons, List.take_left' width_eq,
        List.drop_left' width_eq, unpackElement_packElement order small.1, ih small.2]

theorem flatMap_unpackElements (order : Endianness) {width : Nat} :
    ∀ {count : Nat} {bytes : List UInt8}, bytes.length = count * width →
      (unpackElements order width count bytes).flatMap (packElement order width) = bytes
  | 0, bytes, sized => by
      have empty : bytes = [] := List.eq_nil_of_length_eq_zero (by simpa using sized)
      subst empty; rfl
  | count + 1, bytes, sized => by
      have first : (bytes.take width).length = width :=
        List.length_take_of_le (by rw [sized, Nat.succ_mul]; omega)
      have rest : (bytes.drop width).length = count * width := by
        rw [List.length_drop, sized, Nat.succ_mul]; omega
      have back := packElement_unpackElement order (bytes.take width)
      rw [first] at back
      rw [unpackElements, List.flatMap_cons, flatMap_unpackElements order rest, back,
        List.take_append_drop]

theorem unpackElements_lt (order : Endianness) {width : Nat} :
    ∀ {count : Nat} {bytes : List UInt8}, ∀ element ∈ unpackElements order width count bytes,
      element < 256 ^ width
  | 0, _ => by simp [unpackElements]
  | count + 1, bytes => by
      simp only [unpackElements, List.mem_cons, forall_eq_or_imp]
      exact ⟨lt_of_lt_of_le (unpackElement_lt order _)
          (Nat.pow_le_pow_right (by decide) (List.length_take_le _ _)),
        unpackElements_lt order⟩

/-- `struct.unpack` inverts `struct.pack` on every format `DataField` builds: values in range
pack to a buffer that unpacks to them, and every buffer of the size of the format unpacks to
elements that pack back to it. -/
theorem struct_pack_unpack_round_trip (order : Endianness) (dtype : Dtype) :
    (∀ values : List Int, (∀ value ∈ values, InRange dtype value) →
      ∃ bytes, pack order dtype values = some bytes ∧
        unpack order dtype values.length bytes = some (values.map Int.toNat)) ∧
    (∀ (count : Nat) (bytes : List UInt8), bytes.length = count * dtype.nbBytes →
      ∃ elements, unpack order dtype count bytes = some elements ∧
        pack order dtype (elements.map Int.ofNat) = some bytes) := by
  constructor
  · intro values range
    have packed := pack_of_inRange order dtype range
    refine ⟨_, packed, ?_⟩
    have small : ∀ value ∈ values.map Int.toNat, value < 256 ^ dtype.nbBytes := by
      simp only [List.mem_map]
      rintro _ ⟨value, mem, rfl⟩
      exact (range value mem).toNat_lt
    have read := unpackElements_flatMap order small
    rw [List.length_map, List.flatMap_map] at read
    simp [unpack, length_of_pack packed, read]
  · intro count bytes sized
    refine ⟨unpackElements order dtype.nbBytes count bytes, by simp [unpack, sized], ?_⟩
    have range : ∀ value ∈ (unpackElements order dtype.nbBytes count bytes).map Int.ofNat,
        InRange dtype value := by
      simp only [List.mem_map]
      rintro _ ⟨element, mem, rfl⟩
      exact (inRange_natCast_iff _ _).mpr (unpackElements_lt order element mem)
    rw [pack_of_inRange order dtype range, List.flatMap_map]
    simpa using flatMap_unpackElements order sized

end Tvl.Messages.Struct
