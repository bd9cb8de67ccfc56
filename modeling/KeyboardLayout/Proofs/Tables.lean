import KeyboardLayout.Table
import Mathlib.Data.List.Induction
import Mathlib.Data.List.Nodup

/-!
# Looking rows up

Rows that are written into a table one after the other leave for each key the value that was
written last (`get?_ofRows`), while looking a key up in the rows finds the first. Both are the same
where no key is written twice (`lookup_reverse`).
-/

namespace KeyboardLayout.Table

variable {α β γ δ : Type} [DecidableEq α] [DecidableEq γ] {key : α} {value : β}
  {rows : List (α × β)}

theorem get?_eq_lookup (key : α) (table : Table α β) : get? key table = table.lookup key := by
  induction table with
  | nil => rfl
  | cons row rest ih =>
      rw [get?, List.lookup_cons, ih]
      by_cases h : row.1 = key
      · rw [if_pos h, beq_iff_eq.mpr h.symm]
      · rw [if_neg h, beq_false_of_ne (Ne.symm h)]

theorem mem_of_lookup (h : rows.lookup key = some value) : (key, value) ∈ rows := by
  obtain ⟨before, after, rfl, -⟩ := List.lookup_eq_some_iff.mp h
  exact List.mem_append_right _ (List.mem_cons_self ..)

theorem mem_of_get? {table : Table α β} (h : get? key table = some value) :
    (key, value) ∈ table :=
  mem_of_lookup (get?_eq_lookup key table ▸ h)

theorem lookup_of_mem (hkeys : (rows.map Prod.fst).Nodup) (h : (key, value) ∈ rows) :
    rows.lookup key = some value := by
  obtain ⟨before, after, rfl⟩ := List.append_of_mem h
  refine List.lookup_eq_some_iff.mpr ⟨before, after, rfl, fun row hrow => ?_⟩
  rw [List.map_append] at hkeys
  have hne := (List.nodup_append.mp hkeys).2.2 row.1 (List.mem_map_of_mem hrow) key
    (List.mem_cons_self ..)
  exact bne_iff_ne.mpr (Ne.symm hne)

theorem lookup_of_not_mem (h : key ∉ rows.map Prod.fst) : rows.lookup key = none := by
  refine List.lookup_eq_none_iff.mpr fun row hrow => bne_iff_ne.mpr fun heq => h ?_
  exact heq ▸ List.mem_map_of_mem hrow

/-- The rows in the opposite order have a value for the same keys. -/
theorem isSome_lookup_reverse (key : α) (rows : List (α × β)) :
    (rows.reverse.lookup key).isSome = (rows.lookup key).isSome := by
  rw [Bool.eq_iff_iff, List.lookup_isSome_iff, List.lookup_isSome_iff]
  simp only [List.mem_reverse]

/-- Where no key is written twice, the first value is the last one. -/
theorem lookup_reverse (hkeys : (rows.map Prod.fst).Nodup) (key : α) :
    rows.reverse.lookup key = rows.lookup key := by
  have hreverse : (rows.reverse.map Prod.fst).Nodup := by
    rw [List.map_reverse]
    exact List.nodup_reverse.mpr hkeys
  cases h : rows.lookup key with
  | none =>
      rw [List.lookup_eq_none_iff] at h ⊢
      exact fun row hrow => h row (List.mem_reverse.mp hrow)
  | some value => exact lookup_of_mem hreverse (List.mem_reverse.mpr (mem_of_lookup h))

/-- The value that was written last counts. -/
theorem get?_ofRows (key : α) (rows : List (α × β)) :
    get? key (ofRows rows) = rows.reverse.lookup key := by
  induction rows using List.reverseRecOn with
  | nil => rfl
  | append_singleton rows row ih =>
      have hput : ofRows (rows ++ [row]) = put row.1 row.2 (ofRows rows) := by
        rw [ofRows, List.foldl_append]
        rfl
      rw [hput, get?_put, ih, List.reverse_append, List.reverse_singleton, List.singleton_append,
        List.lookup_cons]
      by_cases h : row.1 = key
      · rw [if_pos h, beq_iff_eq.mpr h.symm]
      · rw [if_neg h, beq_false_of_ne (Ne.symm h)]

/-- Keeping rows by their keys keeps what is found under a kept key. -/
theorem lookup_filter (keep : α → Bool) (key : α) (rows : List (α × β)) :
    (rows.filter fun row => keep row.1).lookup key =
      if keep key then rows.lookup key else none := by
  induction rows with
  | nil => simp
  | cons row rest ih =>
      rw [List.filter_cons, List.lookup_cons]
      by_cases h : key = row.1
      · subst h
        cases hkeep : keep row.1 with
        | false =>
            rw [hkeep] at ih
            exact ih
        | true => rw [if_pos rfl, List.lookup_cons, beq_self_eq_true, if_pos rfl]
      · rw [beq_false_of_ne h]
        cases keep row.1 with
        | false => exact ih
        | true =>
            rw [if_pos rfl, List.lookup_cons, beq_false_of_ne h]
            exact ih

theorem lookup_map {f : α → γ} (hf : Function.Injective f) (g : β → δ) (key : α)
    (rows : List (α × β)) :
    (rows.map fun row => (f row.1, g row.2)).lookup (f key) = (rows.lookup key).map g := by
  induction rows with
  | nil => rfl
  | cons row rest ih =>
      rw [List.map_cons, List.lookup_cons, List.lookup_cons, ih]
      by_cases h : key = row.1
      · rw [beq_iff_eq.mpr h, beq_iff_eq.mpr (congrArg f h)]
        rfl
      · rw [beq_false_of_ne h, beq_false_of_ne (fun heq => h (hf heq))]

end KeyboardLayout.Table
