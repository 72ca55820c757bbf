/- Regions of a list: the items from one place on, and writing over them.

   Both operations say what they do through single items: `getElem?_read` and
   `getElem?_write`. Everything else about regions follows from these two. -/

namespace Flyweight.Wire.Region

/-- The `count` items from `start` on, or as many of them as there are. -/
def read (items : List α) (start count : Nat) : List α := (items.drop start).take count

/-- The list with `new` in place of as many items from `start` on. -/
def write (items : List α) (start : Nat) (new : List α) : List α :=
  items.take start ++ new ++ items.drop (start + new.length)

theorem getElem?_read (items : List α) (start count i : Nat) :
    (read items start count)[i]? = if i < count then items[start + i]? else none := by
  simp [read, List.getElem?_take]

/-- An item of the list is the new one inside the region and the old one outside. -/
theorem getElem?_write {items new : List α} {start : Nat} (h : start + new.length ≤ items.length)
    (i : Nat) :
    (write items start new)[i]? =
      if start ≤ i ∧ i < start + new.length then new[i - start]? else items[i]? := by
  have before : (items.take start).length = start := by simp; omega
  unfold write
  rw [List.append_assoc]
  by_cases low : i < start
  · rw [List.getElem?_append_left (by omega), List.getElem?_take, if_pos low, if_neg (by omega)]
  · rw [List.getElem?_append_right (by omega), before]
    by_cases inside : i < start + new.length
    · rw [List.getElem?_append_left (by omega), if_pos ⟨by omega, inside⟩]
    · rw [List.getElem?_append_right (by omega), if_neg (by omega), List.getElem?_drop]
      congr 1
      omega

theorem length_read {items : List α} {start count : Nat} (h : start + count ≤ items.length) :
    (read items start count).length = count := by
  simp [read]
  omega

theorem length_write {items new : List α} {start : Nat} (h : start + new.length ≤ items.length) :
    (write items start new).length = items.length := by
  simp [write]
  omega

/-- What was written is read back. -/
theorem read_write_self {items new : List α} {start : Nat}
    (h : start + new.length ≤ items.length) :
    read (write items start new) start new.length = new := by
  apply List.ext_getElem?
  intro i
  rw [getElem?_read, getElem?_write h]
  split
  · rw [if_pos ⟨by omega, by omega⟩]
    congr 1
    omega
  · rw [List.getElem?_eq_none (by omega)]

/-- Writing leaves what lies apart from the region as it is. -/
theorem read_write_apart {items new : List α} {start other count : Nat}
    (h : start + new.length ≤ items.length)
    (apart : other + count ≤ start ∨ start + new.length ≤ other) :
    read (write items start new) other count = read items other count := by
  apply List.ext_getElem?
  intro i
  rw [getElem?_read, getElem?_read, getElem?_write h]
  split
  · rw [if_neg (by omega)]
  · rfl

/-- Writing back what is there changes nothing. -/
theorem write_read_self {items : List α} {start count : Nat} (h : start + count ≤ items.length) :
    write items start (read items start count) = items := by
  have size := length_read h
  apply List.ext_getElem?
  intro i
  rw [getElem?_write (by omega)]
  split
  · rw [getElem?_read, if_pos (by omega)]
    congr 1
    omega
  · rfl

/-- A region is read in two parts. -/
theorem read_add (items : List α) (start m n : Nat) :
    read items start (m + n) = read items start m ++ read items (start + m) n := by
  rw [read, List.take_add, List.drop_drop]
  rfl

/-- What is written in two parts, the second right after the first, is written at once. -/
theorem write_append {items first second : List α} {start : Nat}
    (h : start + first.length + second.length ≤ items.length) :
    write (write items start first) (start + first.length) second =
      write items start (first ++ second) := by
  have whole : start + (first ++ second).length ≤ items.length := by
    rw [List.length_append]
    omega
  have front : start + first.length ≤ items.length := by omega
  have back : start + first.length + second.length ≤ (write items start first).length := by
    rwa [length_write front]
  apply List.ext_getElem?
  intro i
  rw [getElem?_write back, getElem?_write front, getElem?_write whole, List.length_append]
  by_cases late : start + first.length ≤ i
  · by_cases inside : i < start + first.length + second.length
    · rw [if_pos ⟨late, inside⟩, if_pos ⟨by omega, by omega⟩,
        List.getElem?_append_right (by omega)]
      congr 1
      omega
    · rw [if_neg (by omega), if_neg (by omega), if_neg (by omega)]
  · rw [if_neg (by omega)]
    by_cases inside : start ≤ i
    · rw [if_pos ⟨inside, by omega⟩, if_pos ⟨inside, by omega⟩,
        List.getElem?_append_left (by omega)]
    · rw [if_neg (by omega), if_neg (by omega)]

/-- Of two writes to the same region the second stays. -/
theorem write_write {items first second : List α} {start : Nat}
    (same : first.length = second.length) (h : start + second.length ≤ items.length) :
    write (write items start first) start second = write items start second := by
  have front : start + first.length ≤ items.length := by omega
  apply List.ext_getElem?
  intro i
  rw [getElem?_write (by rwa [length_write front]), getElem?_write front, getElem?_write h]
  split
  · rfl
  · rw [if_neg (by omega)]

/-- A write of no items changes nothing. -/
theorem write_nil (items : List α) (start : Nat) : write items start [] = items := by
  rw [write, List.append_nil, List.length_nil, Nat.add_zero, List.take_append_drop]

theorem read_all {items : List α} {count : Nat} (h : items.length = count) :
    read items 0 count = items := by
  rw [read, List.drop_zero, ← h, List.take_length]

theorem write_all {items new : List α} (h : new.length = items.length) : write items 0 new = new := by
  rw [write, List.take_zero, List.nil_append, List.drop_eq_nil_of_le (by omega), List.append_nil]

end Flyweight.Wire.Region
