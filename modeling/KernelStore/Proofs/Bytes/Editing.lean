import Mathlib
import KernelStore.Bytes

/-!
Single bytes after a part of a byte string has been written over, moved or cleared.
-/

namespace KernelStore.Bytes

/-- Copies a part to another place. The two may overlap: what is written is the part as it was. -/
def move (bytes : Bytes) (source target count : Nat) : Bytes :=
  bytes.overwrite target (bytes.part source count)

def clear (bytes : Bytes) (start count : Nat) : Bytes := bytes.overwrite start (zeros count)

variable {bytes : Bytes}

theorem getElem?_overwrite {patch : Bytes} {start : Nat}
    (inside : start + patch.length ≤ bytes.length) (position : Nat) :
    (bytes.overwrite start patch)[position]? =
      if start ≤ position ∧ position < start + patch.length then patch[position - start]?
      else bytes[position]? := by
  unfold overwrite
  split
  · rename_i empty
    rw [List.isEmpty_iff.mp empty, List.length_nil, if_neg (by omega)]
  · have front : (bytes.resize start).length = start := length_resize bytes start
    rw [resize_eq_take (by omega)] at front ⊢
    rw [List.append_assoc]
    by_cases before : position < start
    · rw [List.getElem?_append_left (by omega), List.getElem?_take_of_lt before,
        if_neg (by omega)]
    · rw [List.getElem?_append_right (by omega), front]
      by_cases within : position < start + patch.length
      · rw [List.getElem?_append_left (by omega), if_pos (by omega)]
      · rw [List.getElem?_append_right (by omega), List.getElem?_drop, if_neg (by omega)]
        congr 1
        omega

theorem take_overwrite {patch : Bytes} {start count : Nat}
    (inside : start + patch.length ≤ bytes.length) (below : count ≤ start) :
    (bytes.overwrite start patch).take count = bytes.take count := by
  apply List.ext_getElem?
  intro position
  rw [List.getElem?_take, List.getElem?_take, getElem?_overwrite inside]
  split
  · rw [if_neg (by omega)]
  · rfl

theorem getElem?_move {source target count : Nat} (fromInside : source + count ≤ bytes.length)
    (toInside : target + count ≤ bytes.length) (position : Nat) :
    (bytes.move source target count)[position]? =
      if target ≤ position ∧ position < target + count then bytes[source + (position - target)]?
      else bytes[position]? := by
  have length : (bytes.part source count).length = count := by
    rw [part, List.length_take, List.length_drop]
    omega
  rw [move, getElem?_overwrite (by omega), length]
  by_cases within : target ≤ position ∧ position < target + count
  · rw [if_pos within, if_pos within, part, List.getElem?_take_of_lt (by omega),
      List.getElem?_drop]
  · rw [if_neg within, if_neg within]

theorem length_move {target count : Nat} (source : Nat) (inside : target + count ≤ bytes.length) :
    (bytes.move source target count).length = bytes.length := by
  apply length_overwrite
  rw [part, List.length_take, List.length_drop]
  omega

theorem getElem?_clear {start count : Nat} (inside : start + count ≤ bytes.length)
    (position : Nat) :
    (bytes.clear start count)[position]? =
      if start ≤ position ∧ position < start + count then some 0 else bytes[position]? := by
  rw [clear, getElem?_overwrite (by rw [length_zeros]; exact inside), length_zeros]
  by_cases within : start ≤ position ∧ position < start + count
  · rw [if_pos within, if_pos within, zeros, List.getElem?_replicate, if_pos (by omega)]
  · rw [if_neg within, if_neg within]

theorem getElem?_part (start count position : Nat) :
    (bytes.part start count)[position]? =
      if position < count then bytes[start + position]? else none := by
  rw [part, List.getElem?_take, List.getElem?_drop]

/-! ### Closing a gap -/

/-- What a gap's closing leaves at each position. -/
theorem getElem?_move_clear {start stop limit : Nat} (order : start ≤ stop) (below : stop ≤ limit)
    (enough : limit ≤ bytes.length) (position : Nat) :
    ((bytes.move stop start (limit - stop)).clear (limit - (stop - start))
        (stop - start))[position]? =
      if position < start then bytes[position]?
      else if position + (stop - start) < limit then bytes[position + (stop - start)]?
      else if position < limit then some 0
      else bytes[position]? := by
  have length : (bytes.move stop start (limit - stop)).length = bytes.length :=
    length_move stop (by omega)
  rw [getElem?_clear (by omega), getElem?_move (by omega) (by omega)]
  by_cases first : position < start
  · rw [if_neg (by omega), if_neg (by omega), if_pos first]
  · rw [if_neg first]
    by_cases second : position + (stop - start) < limit
    · rw [if_neg (by omega), if_pos (by omega), if_pos second]
      congr 1
      omega
    · rw [if_neg second]
      by_cases third : position < limit
      · rw [if_pos (by omega), if_pos third]
      · rw [if_neg (by omega), if_neg (by omega), if_neg third]

theorem closed_eq_move_clear {start stop limit : Nat} (order : start ≤ stop) (below : stop ≤ limit)
    (enough : limit ≤ bytes.length) :
    bytes.take start ++ bytes.part stop (limit - stop) ++ zeros (stop - start) ++
        bytes.drop limit =
      (bytes.move stop start (limit - stop)).clear (limit - (stop - start)) (stop - start) := by
  have front : (bytes.take start).length = start := List.length_take_of_le (by omega)
  have moved : (bytes.part stop (limit - stop)).length = limit - stop := by
    rw [part, List.length_take, List.length_drop]
    omega
  have cleared : (zeros (stop - start)).length = stop - start := length_zeros _
  apply List.ext_getElem?
  intro position
  rw [getElem?_move_clear order below enough, List.append_assoc, List.append_assoc]
  by_cases first : position < start
  · rw [if_pos first, List.getElem?_append_left (by omega), List.getElem?_take_of_lt first]
  rw [if_neg first, List.getElem?_append_right (by omega), front]
  by_cases second : position + (stop - start) < limit
  · rw [if_pos second, List.getElem?_append_left (by omega), getElem?_part, if_pos (by omega)]
    congr 1
    omega
  rw [if_neg second, List.getElem?_append_right (by omega), moved]
  by_cases third : position < limit
  · rw [if_pos third, List.getElem?_append_left (by omega), zeros, List.getElem?_replicate,
      if_pos (by omega)]
  · rw [if_neg third, List.getElem?_append_right (by omega), cleared, List.getElem?_drop]
    congr 1
    omega

end KernelStore.Bytes
