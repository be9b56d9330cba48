/-!
# Merge sort with a comparison that may fail

The comparison is a computation: it may call back into a script and it may fail, which ends the
sort.

## Main definitions

* `mergeSorted`, `sortBy` — merge two lists, sort a list.
-/

namespace CellScript

variable {m : Type → Type} [Monad m] {α : Type}

/-- Merge two lists. An element of the second goes first only where it is before one of the
first. -/
def mergeSorted (before : α → α → m Bool) : List α → List α → m (List α)
  | [], ys => return ys
  | xs, [] => return xs
  | x :: xs, y :: ys => do
    if ← before y x then
      return y :: (← mergeSorted before (x :: xs) ys)
    else
      return x :: (← mergeSorted before xs (y :: ys))
termination_by xs ys => xs.length + ys.length

/-- Sort a list; elements of which neither is before the other keep their order. -/
def sortBy (before : α → α → m Bool) (items : List α) : m (List α) := do
  if h : items.length ≤ 1 then
    return items
  else
    let left ← sortBy before (items.take (items.length / 2))
    let right ← sortBy before (items.drop (items.length / 2))
    mergeSorted before left right
termination_by items.length
decreasing_by
  · simp only [List.length_take]; omega
  · simp only [List.length_drop]; omega

end CellScript
