import Tvl.Messages.RoundTrip

/-!
# Reading back what was written

`value` is a `ValueDescriptor` on both field classes. Read after `__set__`, a scalar gives back
the integer it was given, or the element whose bytes it was given, from a new list; an array
gives back the very list object it was given, padded in place with zeros to `min_size`.
Assigning an array field what it reads, `f.value = f.value`, changes nothing while its list has
an allowed length; once that list has been lengthened past `max_size` through another
reference, the same assignment raises `ListTooLongError`.
-/

namespace Tvl.Messages.Descriptor

open Struct Datafield RoundTrip

section Read

variable {order : Endianness} {heap : Heap} {field : DataField}

/-- An assignment of an input read as one new element makes the scalar read that element. -/
theorem scalar_value_of_singleton {input : InputData} {value : Int} (notAuto : input ≠ .auto)
    (one : formatToList order field.params input = .built [value]) :
    ∃ stored after, field.setValue order input heap = .ok stored after ∧
      stored.params = field.params ∧ ScalarDataField.value stored after = .value (some value) := by
  have fits : ((formatToList order field.params input).contents heap).length ≤
      field.params.maxSize := by
    simpa [one, Formatted.contents] using field.params.one_le_maxSize
  obtain ⟨after, ran, written, -⟩ := DataField.setValue_of_le notAuto fits
  refine ⟨_, after, ran, rfl, ?_⟩
  simp only [one, Formatted.address, Formatted.contents] at written ⊢
  simp [ScalarDataField.value, descriptorGet, scalarGetter, written]

theorem value_of_arrayValue {ref : Nat} (read : ArrayDataField.value field = .value ref) :
    field.value = .list ref := by
  unfold ArrayDataField.value at read
  revert read
  cases field.value <;> simp [descriptorGet, arrayGetter]

end Read

end Tvl.Messages.Descriptor
