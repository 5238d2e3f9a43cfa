import Tvl.Messages.Struct
import Mathlib.Logic.Function.Basic

/-!
# `DataField`: the fields of a message

A field holds a Python list of integers, or the marker `AUTO`, under `Params` that bound its
number of elements. Lists are objects shared by reference: `__set__` stores the very list it is
given and pads it with zeros in place, and `ArrayDataField.value` hands that list back. The
model keeps every list in a `Heap`, and a field holds the address of its list.

An assignment goes through `ValueDescriptor.__set__`: `_format_to_list` turns the input into a
list, the caller's own for a list and a new one otherwise, which is checked against `max_size`
and padded; the error is raised before anything is written. An assignment therefore leaves its
field with an allowed number of elements and changes no list but the one it stores, yet a
later change of that list through another reference, such as another field padding it, takes
the field out of its bounds. `to_bytes` packs the list with `struct`, in the byte order of the
process-wide `endianness`, which every function here takes as its `order` argument.
-/

namespace Tvl.Messages.Datafield

open Struct

/-- `ParamError`, raised by `Params.__post_init__`. -/
structure ParamError where
  message : String
  deriving DecidableEq, Repr

/-- The parameters of a `DataField`, as `Params.__post_init__` lets them through. -/
structure Params where
  dtype : Dtype
  minSize : Nat
  maxSize : Nat
  one_le_maxSize : 1 ≤ maxSize
  minSize_le_maxSize : minSize ≤ maxSize

/-- `Params(dtype, size, min_size, max_size)`: `size` overrides both bounds, which are then
checked in the order of `__post_init__`. -/
def Params.postInit (dtype : Dtype) (size : Option Int := none) (minSize : Int := 1)
    (maxSize : Int := 1) : Except ParamError Params :=
  let minSize := size.getD minSize
  let maxSize := size.getD maxSize
  if nonneg : minSize < 0 then .error ⟨"Min size should be at least 0."⟩
  else if pos : maxSize < 1 then .error ⟨"Max size should be at least 1."⟩
  else if le : maxSize < minSize then
    .error ⟨"Max size should be greater than or equal to min size."⟩
  else .ok ⟨dtype, minSize.toNat, maxSize.toNat, by omega, by omega⟩

/-- `Params.has_variable_size`. -/
def Params.hasVariableSize (params : Params) : Bool :=
  params.minSize != params.maxSize

/-- The length `__set__` pads a value up to: `min_size` for a variable size, else `max_size`. -/
def Params.minLength (params : Params) : Nat :=
  if params.hasVariableSize then params.minSize else params.maxSize

/-- Both branches of the padding target are `min_size`: a fixed size has `min_size = max_size`. -/
@[simp] theorem Params.minLength_eq (params : Params) : params.minLength = params.minSize := by
  by_cases same : params.minSize = params.maxSize <;>
    simp [Params.minLength, Params.hasVariableSize, same]


/-! ## List objects -/

/-- The list objects of the process: the list at each address, and the first address not given
out yet. -/
structure Heap where
  lists : Nat → List Int
  next : Nat

/-- A change in place of the list at `ref`, such as `list.extend`. -/
def Heap.set (heap : Heap) (ref : Nat) (values : List Int) : Heap :=
  { heap with lists := Function.update heap.lists ref values }

/-- A new list object, at the first free address. -/
def Heap.alloc (heap : Heap) (values : List Int) : Heap :=
  ⟨Function.update heap.lists heap.next values, heap.next + 1⟩

@[simp] theorem Heap.set_lists (heap : Heap) (ref : Nat) (values : List Int) (other : Nat) :
    (heap.set ref values).lists other = if other = ref then values else heap.lists other :=
  Function.update_apply _ _ _ _

@[simp] theorem Heap.alloc_lists (heap : Heap) (values : List Int) (other : Nat) :
    (heap.alloc values).lists other = if other = heap.next then values else heap.lists other :=
  Function.update_apply _ _ _ _

/-- Writing a list back as it is changes nothing. -/
@[simp] theorem Heap.set_self (heap : Heap) (ref : Nat) : heap.set ref (heap.lists ref) = heap := by
  simp [Heap.set]

/-- The inputs of `DataFieldInputData`, a list given by the address of the caller's list
object, and the `AUTO` marker. -/
inductive InputData where
  | int (value : Int)
  | list (ref : Nat)
  | bytes (value : List UInt8)
  | auto
  deriving DecidableEq, Repr

/-- The `_value` attribute of a field: the address of its list, or `AUTO`. -/
inductive FieldValue where
  | list (ref : Nat)
  | auto
  deriving DecidableEq, Repr

/-- The exceptions a field raises. `dataValue` is `DataValueError` with the message
`f"Wrong value={value}: {exc}"`, whose second part is the text of `struct.error`. -/
inductive DataFieldError where
  | listTooLong (message : String)
  | dataValue (value : List Int)
  | assertion (message : String)
  deriving DecidableEq, Repr

/-! ## Assignment -/

/-- The list `_format_to_list` returns: the caller's list object for a list, a new list for an
`int` or `bytes`. -/
inductive Formatted where
  | caller (ref : Nat)
  | built (values : List Int)
  deriving DecidableEq, Repr

/-- The elements of a formatted list. -/
def Formatted.contents (heap : Heap) : Formatted → List Int
  | .caller ref => heap.lists ref
  | .built values => values

/-- Where `__set__` stores a formatted list: at the caller's list, or at the first free address. -/
def Formatted.address (heap : Heap) : Formatted → Nat
  | .caller ref => ref
  | .built _ => heap.next

/-- `_format_to_list`. The `bytes` branch reads the input as one element of the field's dtype,
and when `struct` refuses it, as one `UINT8` element per byte; that second format has the
length of the input, so `struct` never refuses it. `AUTO` is the empty `bytes` object. -/
def formatToList (order : Endianness) (params : Params) : InputData → Formatted
  | .int value => .built [value]
  | .list ref => .caller ref
  | .bytes value =>
      .built (match unpack order params.dtype 1 value with
        | some elements => elements.map Int.ofNat
        | none => value.map fun byte => (byte.toNat : Int))
  | .auto => .built []

/-- The message of `ListTooLongError`, `f"{length=} > {max_size}."`. -/
def listTooLongMessage (length maxSize : Nat) : String :=
  "length=" ++ toString length ++ " > " ++ toString maxSize ++ "."

/-- `value.extend([0] * padding_length)` and `setattr(instance, self.name, value)`: the caller's
list is padded in place, a new list is given the first free address. -/
def Formatted.store (padded : List Int) : Formatted → EStateM DataFieldError Heap FieldValue
  | .caller ref => fun heap => .ok (.list ref) (heap.set ref padded)
  | .built _ => fun heap => .ok (.list heap.next) (heap.alloc padded)

/-- `ValueDescriptor.__set__`: the new `_value`, or the exception, raised before any write. -/
def descriptorSet (order : Endianness) (params : Params) :
    InputData → EStateM DataFieldError Heap FieldValue
  | .auto => fun heap => .ok .auto heap
  | input => fun heap =>
      let value := formatToList order params input
      let values := value.contents heap
      if params.maxSize < values.length then
        .error (.listTooLong (listTooLongMessage values.length params.maxSize)) heap
      else value.store (values ++ List.replicate (params.minLength - values.length) 0) heap

/-- A `DataField` object: its `params` and its `_value`. -/
structure DataField where
  params : Params
  value : FieldValue

/-- `field.value = input`: the field after the assignment. An exception leaves the field, and
every list, as they were. -/
def DataField.setValue (order : Endianness) (input : InputData) (field : DataField) :
    EStateM DataFieldError Heap DataField := fun heap =>
  match descriptorSet order field.params input heap with
  | .ok value heap => .ok { field with value } heap
  | .error error heap => .error error heap

/-- `DataField(value, params)`: `self.params = params`, then `self.value = value`, an assignment
that reads nothing of the field but its `params`. -/
def DataField.init (order : Endianness) (input : InputData) (params : Params) :
    EStateM DataFieldError Heap DataField :=
  DataField.setValue order input ⟨params, .auto⟩

/-! ## Reading -/

/-- What `ValueDescriptor.__get__` returns: the `AUTO` marker, or the getter's result. -/
inductive Got (α : Type) where
  | auto
  | value (value : α)
  deriving DecidableEq, Repr

/-- `ValueDescriptor.__get__`, with the `getter_fn` of the field's class applied to the list
object. -/
def descriptorGet {α : Type} (getterFn : Nat → α) : FieldValue → Got α
  | .auto => .auto
  | .list ref => .value (getterFn ref)

/-- The `getter_fn` of `ScalarDataField`, `lambda x: x[0]`; `none` is the `IndexError` of an
empty list. -/
def scalarGetter (heap : Heap) (ref : Nat) : Option Int := (heap.lists ref)[0]?

/-- The `getter_fn` of `ArrayDataField`, `lambda x: x`: the list object itself. -/
def arrayGetter (ref : Nat) : Nat := ref

/-- `ScalarDataField.value`. -/
def ScalarDataField.value (field : DataField) (heap : Heap) : Got (Option Int) :=
  descriptorGet (scalarGetter heap) field.value

/-- `ArrayDataField.value`. -/
def ArrayDataField.value (field : DataField) : Got Nat :=
  descriptorGet arrayGetter field.value

/-- `DataField.__len__`, in bytes. -/
def DataField.len (field : DataField) (heap : Heap) : Nat :=
  match field.value with
  | .auto => field.params.minSize * field.params.dtype.nbBytes
  | .list ref => (heap.lists ref).length * field.params.dtype.nbBytes

/-- `DataField.to_bytes`; its `assert` refuses `AUTO`. -/
def DataField.toBytes (order : Endianness) (field : DataField) (heap : Heap) :
    Except DataFieldError (List UInt8) :=
  match field.value with
  | .auto => .error (.assertion "'AUTO' is not a list")
  | .list ref =>
      match pack order field.params.dtype (heap.lists ref) with
      | some bytes => .ok bytes
      | none => .error (.dataValue (heap.lists ref))

/-- A field whose list has a length `__set__` allows. -/
def DataField.Sized (field : DataField) (heap : Heap) : Prop :=
  match field.value with
  | .list ref =>
      field.params.minSize ≤ (heap.lists ref).length ∧
        (heap.lists ref).length ≤ field.params.maxSize
  | .auto => True

instance (field : DataField) (heap : Heap) : Decidable (field.Sized heap) :=
  match field with
  | ⟨_, .list _⟩ => inferInstanceAs (Decidable (_ ∧ _))
  | ⟨_, .auto⟩ => inferInstanceAs (Decidable True)

/-! ## What an assignment does -/

section Assign

variable {order : Endianness} {input : InputData} {heap : Heap}

/-- Storing writes the padded list at its address and no other list. -/
theorem Formatted.store_eq (value : Formatted) (padded : List Int) (heap : Heap) :
    ∃ after, value.store padded heap = .ok (.list (value.address heap)) after ∧
      after.lists (value.address heap) = padded ∧
      ∀ other ≠ value.address heap, after.lists other = heap.lists other := by
  cases value <;>
    exact ⟨_, rfl, by simp [Formatted.address], fun other differ => by
      simp only [Formatted.address] at differ
      simp [differ]⟩

theorem descriptorSet_of_long {params : Params} (notAuto : input ≠ .auto)
    (long : params.maxSize < ((formatToList order params input).contents heap).length) :
    descriptorSet order params input heap = .error (.listTooLong (listTooLongMessage
      ((formatToList order params input).contents heap).length params.maxSize)) heap := by
  cases input <;> simp_all [descriptorSet]

theorem descriptorSet_of_le {params : Params} (notAuto : input ≠ .auto)
    (fits : ((formatToList order params input).contents heap).length ≤ params.maxSize) :
    let values := (formatToList order params input).contents heap
    descriptorSet order params input heap = (formatToList order params input).store
      (values ++ List.replicate (params.minSize - values.length) 0) heap := by
  cases input <;> simp_all [descriptorSet, Nat.not_lt.mpr fits]

variable {field : DataField}

theorem DataField.setValue_of_long (notAuto : input ≠ .auto)
    (long : field.params.maxSize < ((formatToList order field.params input).contents heap).length) :
    field.setValue order input heap = .error (.listTooLong (listTooLongMessage
      ((formatToList order field.params input).contents heap).length field.params.maxSize))
      heap := by
  simp [DataField.setValue, descriptorSet_of_long notAuto long]

/-- An assignment that fits stores the formatted list, padded, at its address, and changes no
other list. -/
theorem DataField.setValue_of_le (notAuto : input ≠ .auto)
    (fits : ((formatToList order field.params input).contents heap).length ≤
      field.params.maxSize) :
    let value := formatToList order field.params input
    ∃ after, field.setValue order input heap =
        .ok { field with value := .list (value.address heap) } after ∧
      after.lists (value.address heap) =
        value.contents heap ++ List.replicate (field.params.minSize - (value.contents heap).length) 0 ∧
      ∀ other ≠ value.address heap, after.lists other = heap.lists other := by
  intro value
  obtain ⟨after, stored, padded, frame⟩ := value.store_eq
    (value.contents heap ++ List.replicate (field.params.minSize - (value.contents heap).length) 0)
    heap
  exact ⟨after, by simp only [DataField.setValue, descriptorSet_of_le notAuto fits, value, stored],
    padded, frame⟩

/-- An assignment of the caller's list that fits pads that list in place. -/
theorem DataField.setValue_list_of_le {ref : Nat}
    (fits : (heap.lists ref).length ≤ field.params.maxSize) :
    field.setValue order (.list ref) heap = .ok { field with value := .list ref }
      (heap.set ref (heap.lists ref ++
        List.replicate (field.params.minSize - (heap.lists ref).length) 0)) := by
  simp [DataField.setValue, descriptorSet, formatToList, Formatted.contents, Formatted.store,
    Nat.not_lt.mpr fits]

/-- Every successful assignment is one that fits, and stores as `setValue_of_le` says. -/
theorem DataField.setValue_eq_ok {stored : DataField} {after : Heap} (notAuto : input ≠ .auto)
    (done : field.setValue order input heap = .ok stored after) :
    let value := formatToList order field.params input
    (value.contents heap).length ≤ field.params.maxSize ∧
      stored = { field with value := .list (value.address heap) } ∧
      after.lists (value.address heap) =
        value.contents heap ++ List.replicate (field.params.minSize - (value.contents heap).length) 0 ∧
      ∀ other ≠ value.address heap, after.lists other = heap.lists other := by
  by_cases long : field.params.maxSize < ((formatToList order field.params input).contents heap).length
  · rw [DataField.setValue_of_long notAuto long] at done
    cases done
  · obtain ⟨result, ran, padded, frame⟩ := DataField.setValue_of_le notAuto (Nat.not_lt.mp long)
    rw [ran] at done
    cases done
    exact ⟨Nat.not_lt.mp long, rfl, padded, frame⟩

end Assign

/-! ## Sizes and bytes -/

theorem DataField.len_bounds {field : DataField} {heap : Heap} (sized : field.Sized heap) :
    field.params.minSize * field.params.dtype.nbBytes ≤ field.len heap ∧
      field.len heap ≤ field.params.maxSize * field.params.dtype.nbBytes := by
  obtain ⟨params, value⟩ := field
  cases value with
  | auto => exact ⟨le_rfl, Nat.mul_le_mul_right _ params.minSize_le_maxSize⟩
  | list ref => exact ⟨Nat.mul_le_mul_right _ sized.1, Nat.mul_le_mul_right _ sized.2⟩

theorem DataField.toBytes_of_inRange (order : Endianness) {field : DataField} {heap : Heap}
    {ref : Nat} (stored : field.value = .list ref)
    (range : ∀ value ∈ heap.lists ref, InRange field.params.dtype value) :
    ∃ bytes, field.toBytes order heap = .ok bytes ∧ bytes.length = field.len heap := by
  obtain ⟨bytes, packed⟩ : ∃ bytes, pack order field.params.dtype (heap.lists ref) = some bytes :=
    ⟨_, pack_of_inRange order field.params.dtype range⟩
  exact ⟨bytes, by simp [DataField.toBytes, stored, packed],
    by rw [length_of_pack packed, DataField.len, stored]⟩

theorem DataField.toBytes_of_not_inRange (order : Endianness) {field : DataField} {heap : Heap}
    {ref : Nat} (stored : field.value = .list ref)
    (outside : ¬ ∀ value ∈ heap.lists ref, InRange field.params.dtype value) :
    field.toBytes order heap = .error (.dataValue (heap.lists ref)) := by
  have refused : pack order field.params.dtype (heap.lists ref) = none :=
    (pack_eq_none_iff _ _ _).mpr (by simpa using outside)
  simp [DataField.toBytes, stored, refused]

/-- A field keeps its bounds through any change that leaves its own list as it was. -/
theorem DataField.Sized.of_frame {field : DataField} {heap later : Heap}
    (sized : field.Sized heap)
    (frame : ∀ ref, field.value = .list ref → later.lists ref = heap.lists ref) :
    field.Sized later := by
  obtain ⟨params, value⟩ := field
  cases value with
  | auto => trivial
  | list ref => simpa [DataField.Sized, frame ref rfl] using sized

/-! ## The bounds, and where they stop -/

/-- The caller's list `xs = [0]` at address `0`, and no other list. -/
def callerZero : Heap := ⟨fun ref => if ref = 0 then [0] else [], 1⟩

/-- `Params(Dtype.UINT8, size=1)`. -/
def oneByte : Params := ⟨.uint8, 1, 1, by decide, by decide⟩

/-- `Params(Dtype.UINT8, min_size=3, max_size=4)`. -/
def threeToFourBytes : Params := ⟨.uint8, 3, 4, by decide, by decide⟩

/-- A `UINT16` field of one or two elements holding the list at address `0`. -/
def u16Field : DataField := ⟨⟨.uint16, 1, 2, by decide, by decide⟩, .list 0⟩

/-- The field's list `[0]` at address `0`, and the caller's list `[1, 2, 3]` at address `1`. -/
def threeElements : Heap :=
  ⟨fun ref => if ref = 0 then [0] else if ref = 1 then [1, 2, 3] else [], 2⟩

end Tvl.Messages.Datafield
