import Stepwise.Bindings
import Mathlib.Data.List.Basic

/-! # Looking up what is listed

A look-up finds what is listed under a name first (`Bindings.mem_of_find?`). If the names are
distinct, it finds whatever is listed (`Bindings.find?_of_mem`), and nothing is left of a name that
is removed (`Bindings.find?_erase_self`). -/

namespace Stepwise

universe u

variable {α : Type u} {bindings : Bindings α} {name : String} {value : α}

/-- What a name is bound to is among the bindings. -/
theorem Bindings.mem_of_find? (h : Bindings.find? name bindings = some value) :
    (name, value) ∈ bindings := by
  induction bindings with
  | nil => cases h
  | cons pair rest ih =>
    obtain ⟨key, old⟩ := pair
    rw [Bindings.find?] at h
    split at h
    next heq =>
      obtain rfl : old = value := Option.some.inj h
      rw [heq]
      exact List.mem_cons_self
    next => exact List.mem_cons_of_mem _ (ih h)

/-- Under distinct names, what is among the bindings is found under its name. -/
theorem Bindings.find?_of_mem (hdistinct : bindings.names.Nodup) (h : (name, value) ∈ bindings) :
    bindings.find? name = some value := by
  induction bindings with
  | nil => cases h
  | cons pair rest ih =>
    obtain ⟨key, old⟩ := pair
    rw [names_cons, List.nodup_cons] at hdistinct
    rcases List.mem_cons.mp h with heq | hrest
    · obtain ⟨rfl, rfl⟩ := Prod.mk.inj heq
      exact find?_cons_self name value rest
    · have hne : key ≠ name := by
        rintro rfl
        exact hdistinct.1 (List.mem_map.mpr ⟨_, hrest, rfl⟩)
      rw [find?, if_neg hne]
      exact ih hdistinct.2 hrest

/-- A name is found exactly if it is listed. -/
theorem Bindings.exists_find?_iff : (∃ value, bindings.find? name = some value) ↔
    name ∈ bindings.names := by
  rw [← binds_iff, binds, Option.isSome_iff_exists]

/-- A name is not found exactly if it is not listed. -/
theorem Bindings.find?_eq_none_iff : bindings.find? name = none ↔ name ∉ bindings.names := by
  rw [← exists_find?_iff, ← Option.isSome_iff_exists, Bool.not_eq_true,
    Option.isSome_eq_false_iff, Option.isNone_iff_eq_none]

/-- Under distinct names, a name that is removed is not bound. -/
theorem Bindings.find?_erase_self (hdistinct : bindings.names.Nodup) (name : String) :
    (bindings.erase name).find? name = none := by
  rw [find?_eq_none_iff, names_erase]
  exact hdistinct.not_mem_erase

/-- Removing a name adds no binding. -/
theorem Bindings.erase_subset (name : String) (bindings : Bindings α) :
    erase name bindings ⊆ bindings := by
  induction bindings with
  | nil => exact List.Subset.refl _
  | cons pair rest ih =>
    rw [erase]
    split
    · exact List.subset_cons_self _ _
    · exact List.cons_subset_cons _ ih

end Stepwise
