/-
**Bit fields.**

`field size position value` is the field of `size` bits that begins at bit `position`.

* `field_or`: the fields of a disjunction;
* `field_shifted`, `field_apart`: a value put into a field is read back from it, and from no field that
  shares no bit with it;
* `mod_mod_field`: a value that has wrapped around in a word of more bits is right in a field.
-/

import Mathlib.Data.Nat.ModEq

namespace Fields

variable {size position size' position' value value' : Nat}

/-- A field of a value. -/
def field (size position value : Nat) : Nat := value / 2 ^ position % 2 ^ size

theorem field_lt (size position value : Nat) : field size position value < 2 ^ size :=
  Nat.mod_lt _ (Nat.two_pow_pos size)

/-- The fields of a disjunction are the disjunctions of the fields. -/
theorem field_or : field size position (value ||| value') =
    field size position value ||| field size position value' := by
  rw [field, Nat.or_div_two_pow, Nat.or_mod_two_pow]
  rfl

/-- A value in a field is read back from it. -/
theorem field_shifted (small : value < 2 ^ size) : field size position (value <<< position) = value := by
  rw [field, Nat.shiftLeft_eq, Nat.mul_div_cancel _ (Nat.two_pow_pos position),
    Nat.mod_eq_of_lt small]

/-- The fields share no bit. -/
def Apart (size position size' position' : Nat) : Prop :=
  ∀ bit, position ≤ bit → bit < position + size → position' ≤ bit → ¬ bit < position' + size'

theorem apart_of_ordered (ordered : position + size ≤ position' ∨ position' + size' ≤ position) :
    Apart size position size' position' := by
  intro bit low high low' high'
  omega

theorem Apart.symm (apart : Apart size position size' position') : Apart size' position' size position :=
  fun bit low' high' low high => apart bit low high low' high'

/-- Of two fields with bits, one ends where or before the other begins. -/
theorem Apart.ordered (apart : Apart size position size' position') (some : 0 < size)
    (some' : 0 < size') : position + size ≤ position' ∨ position' + size' ≤ position := by
  by_contra crossing
  -- the later beginning is a bit of both
  exact apart (max position position') (by omega) (by omega) (by omega) (by omega)

/-- A value in a field is not seen in a field that shares no bit with it. -/
theorem field_apart (small : value < 2 ^ size') (apart : Apart size position size' position') :
    field size position (value <<< position') = 0 := by
  rcases Nat.eq_zero_or_pos size with rfl | some
  · exact Nat.mod_one _
  rcases Nat.eq_zero_or_pos size' with rfl | some'
  · obtain rfl : value = 0 := Nat.lt_one_iff.mp small
    rw [Nat.zero_shiftLeft, field, Nat.zero_div, Nat.zero_mod]
  rw [field, Nat.shiftLeft_eq]
  rcases apart.ordered some some' with before | behind
  · -- the value is a multiple of a power of two above the field
    obtain ⟨rest, rfl⟩ := Nat.exists_eq_add_of_le before
    have powers : value * 2 ^ (position + size + rest) =
        2 ^ position * (2 ^ size * (2 ^ rest * value)) := by
      rw [Nat.pow_add, Nat.pow_add]
      ac_rfl
    rw [powers, Nat.mul_div_cancel_left _ (Nat.two_pow_pos position), Nat.mul_mod_right]
  · -- the value ends below the field
    have below : value * 2 ^ position' < 2 ^ position := by
      calc value * 2 ^ position' < 2 ^ size' * 2 ^ position' :=
            Nat.mul_lt_mul_of_pos_right small (Nat.two_pow_pos position')
        _ = 2 ^ (position' + size') := by rw [Nat.add_comm, Nat.pow_add]
        _ ≤ 2 ^ position := Nat.pow_le_pow_right (by decide) behind
    rw [Nat.div_eq_of_lt below, Nat.zero_mod]

/-- A value that has wrapped around in a larger word is right in the field. -/
theorem mod_mod_field {word : Nat} (fits : size ≤ word) : value % 2 ^ word % 2 ^ size = value % 2 ^ size :=
  Nat.mod_mod_of_dvd value (Nat.pow_dvd_pow 2 fits)

end Fields
