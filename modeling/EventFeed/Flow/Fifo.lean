/-!
# First in, first out

Items leave in the order in which they came. The items are kept in two lists, the second one latest
first, so that putting an item in takes constant time and taking some out takes time in proportion to
their number, on average. `toList` is what the rest of the library reasons about.
-/

namespace EventFeed

/-- Waiting items, with their number at hand. -/
structure Fifo (α : Type) where
  front : List α
  back : List α
  size : Nat
  counted : size = front.length + back.length

namespace Fifo

variable {α : Type}

def empty : Fifo α := ⟨[], [], 0, rfl⟩

/-- The items in the order in which they leave. -/
def toList (items : Fifo α) : List α :=
  items.front ++ items.back.reverse

def push (items : Fifo α) (item : α) : Fifo α :=
  ⟨items.front, item :: items.back, items.size + 1, by simp [items.counted]; omega⟩

def take (items : Fifo α) (count : Nat) : List α × Fifo α :=
  if enough : (items.front.take count).length = count then
    (items.front.take count, ⟨items.front.drop count, items.back, items.size - count, by
      have := items.counted
      simp only [List.length_take, List.length_drop] at *
      omega⟩)
  else
    (items.toList.take count, ⟨items.toList.drop count, [], items.size - count, by
      simp [toList, items.counted]⟩)

theorem size_eq_length (items : Fifo α) : items.size = items.toList.length := by
  simp [toList, items.counted]

theorem toList_empty : (empty : Fifo α).toList = [] := rfl

theorem toList_push (items : Fifo α) (item : α) : (items.push item).toList = items.toList ++ [item] := by
  simp [toList, push]

theorem size_push (items : Fifo α) (item : α) : (items.push item).size = items.size + 1 := rfl

theorem take_fst (items : Fifo α) (count : Nat) : (items.take count).1 = items.toList.take count := by
  unfold take
  split
  · rename_i enough
    have : count ≤ items.front.length := by
      rw [List.length_take] at enough
      omega
    simp [toList, List.take_append_of_le_length this]
  · rfl

theorem toList_take_snd (items : Fifo α) (count : Nat) :
    (items.take count).2.toList = items.toList.drop count := by
  unfold take
  split
  · rename_i enough
    have : count ≤ items.front.length := by
      rw [List.length_take] at enough
      omega
    simp [toList, List.drop_append_of_le_length this]
  · simp [toList]

/-- What is taken and what stays are the items as they were. -/
theorem take_append_toList (items : Fifo α) (count : Nat) :
    (items.take count).1 ++ (items.take count).2.toList = items.toList := by
  rw [take_fst, toList_take_snd, List.take_append_drop]

theorem size_take_snd (items : Fifo α) (count : Nat) : (items.take count).2.size = items.size - count := by
  unfold take
  split <;> rfl

end Fifo

end EventFeed
