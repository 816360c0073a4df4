/-
**Laying a list over an array.**

`overwrite` replaces consecutive cells of an array and keeps its size; `getElem?_overwrite` says
which cells come from where.
-/

namespace GuestDraw

variable {α : Type}

/-- `cells` with `data` laid over them from `offset` on, as far as there are cells. -/
def overwrite (cells : Array α) (offset : Nat) : List α → Array α
  | [] => cells
  | value :: rest => overwrite (cells.setIfInBounds offset value) (offset + 1) rest

@[simp] theorem size_overwrite (cells : Array α) (offset : Nat) (data : List α) :
    (overwrite cells offset data).size = cells.size := by
  induction data generalizing cells offset with
  | nil => rfl
  | cons value rest ih => simp [overwrite, ih]

theorem getElem?_overwrite {cells : Array α} {offset : Nat} {data : List α}
    (fits : offset + data.length ≤ cells.size) (index : Nat) :
    (overwrite cells offset data)[index]? =
      if offset ≤ index ∧ index < offset + data.length then data[index - offset]?
      else cells[index]? := by
  induction data generalizing cells offset with
  | nil =>
    rw [overwrite, if_neg (by simp)]
  | cons value rest ih =>
    rw [List.length_cons] at fits
    rw [overwrite, ih (by simp; omega), Array.getElem?_setIfInBounds]
    by_cases here : offset = index
    · subst here
      rw [if_neg (by omega), if_pos rfl, if_pos (by omega), if_pos (by simp)]
      simp
    · by_cases later : offset + 1 ≤ index ∧ index < offset + 1 + rest.length
      · have inside : offset ≤ index ∧ index < offset + (value :: rest).length := by
          simp; omega
        obtain ⟨step, stepped⟩ : ∃ step, index - offset = step + 1 := ⟨index - offset - 1, by omega⟩
        have next : index - (offset + 1) = step := by omega
        rw [if_pos later, if_pos inside, stepped, next, List.getElem?_cons_succ]
      · have outside : ¬ (offset ≤ index ∧ index < offset + (value :: rest).length) := by
          simp; omega
        rw [if_neg later, if_neg here, if_neg outside]

end GuestDraw
