import Stepwise.Fault

/-! # Computations that may fail

How a value of a computation is taken apart: into the values of its parts (`bind_eq_ok_iff`), or
into what is seen of it (`exists_ok_of_map`). Of checks that are made in order the first one that
fails decides (`forM_eq_error_iff`). A computation that has a value unless something is the case is
one with `GivesUnless`. -/

namespace Stepwise

variable {α β : Type}

/-- **One computation after another** gives a value if the first one does and the second one does
so from there. -/
theorem bind_eq_ok_iff {first : Except Fault α} {next : α → Except Fault β} {result : β} :
    (first >>= next) = .ok result ↔ ∃ value, first = .ok value ∧ next value = .ok result := by
  cases first with
  | error fault =>
    constructor
    · intro h
      cases h
    · rintro ⟨value, h, -⟩
      cases h
  | ok value =>
    constructor
    · intro h
      exact ⟨value, rfl, h⟩
    · rintro ⟨value', hvalue, h⟩
      obtain rfl : value = value' := Except.ok.inj hvalue
      exact h

/-- **One computation after another** ends with a fault if either of them does. -/
theorem bind_eq_error_iff {first : Except Fault α} {next : α → Except Fault β} {fault : Fault} :
    (first >>= next) = .error fault ↔
      first = .error fault ∨ ∃ value, first = .ok value ∧ next value = .error fault := by
  cases first with
  | error other =>
    constructor
    · exact .inl ∘ congrArg Except.error ∘ Except.error.inj
    · rintro (h | ⟨value, h, -⟩)
      · exact congrArg Except.error (Except.error.inj h)
      · cases h
  | ok value =>
    constructor
    · intro h
      exact .inr ⟨value, rfl, h⟩
    · rintro (h | ⟨value', hvalue, h⟩)
      · cases h
      · obtain rfl : value = value' := Except.ok.inj hvalue
        exact h

/-- The value of one computation after another, if there is one. -/
theorem toOption_bind (first : Except Fault α) (next : α → Except Fault β) :
    (first >>= next).toOption = first.toOption.bind fun value => (next value).toOption := by
  cases first with
  | error fault => rfl
  | ok value => rfl

/-- Wrapping up the value of a computation does not touch its fault. -/
theorem map_eq_error_iff {computed : Except Fault α} {wrap : α → β} {fault : Fault} :
    computed.map wrap = .error fault ↔ computed = .error fault := by
  cases computed with
  | error other => simp only [Except.map, Except.error.injEq]
  | ok value => exact ⟨nofun, nofun⟩

/-- A computation that is refused if something is the case gives a value only if it is not. -/
theorem of_refuseIf_eq_ok {c : Bool} {refusal rest : Except Fault α} {value : α}
    (hrefusal : ∀ other, refusal ≠ .ok other)
    (h : (if c = true then refusal else rest) = .ok value) : c = false ∧ rest = .ok value := by
  cases c with
  | true => exact absurd h (hrefusal value)
  | false => exact ⟨rfl, h⟩

/-- Computations that all give a value give a list of values. -/
theorem exists_mapM_eq_ok {f : α → Except Fault β} {items : List α}
    (h : ∀ item ∈ items, ∃ value, f item = .ok value) : ∃ values, items.mapM f = .ok values := by
  induction items with
  | nil => exact ⟨[], rfl⟩
  | cons item rest ih =>
    obtain ⟨⟨value, hvalue⟩, hrest⟩ := List.forall_mem_cons.mp h
    obtain ⟨values, hvalues⟩ := ih hrest
    refine ⟨value :: values, ?_⟩
    rw [List.mapM_cons, hvalue, hvalues]
    rfl

/-- **Checks that are made in order** all pass if none of them fails. -/
theorem forM_eq_ok_iff {check : α → Except Fault Unit} {items : List α} :
    items.forM check = .ok () ↔ ∀ item ∈ items, check item = .ok () := by
  induction items with
  | nil => exact ⟨fun _ => nofun, fun _ => rfl⟩
  | cons item rest ih =>
    change (check item >>= fun _ => rest.forM check) = .ok () ↔ _
    rw [bind_eq_ok_iff, List.forall_mem_cons, ← ih]
    constructor
    · rintro ⟨_, hitem, hrest⟩
      exact ⟨hitem, hrest⟩
    · rintro ⟨hitem, hrest⟩
      exact ⟨(), hitem, hrest⟩

/-- **Checks that are made in order** end with the fault of the first one that fails. -/
theorem forM_eq_error_iff {check : α → Except Fault Unit} {items : List α} {fault : Fault} :
    items.forM check = .error fault ↔ ∃ before item after, items = before ++ item :: after ∧
      (∀ earlier ∈ before, check earlier = .ok ()) ∧ check item = .error fault := by
  induction items with
  | nil =>
    constructor
    · intro h
      cases h
    · rintro ⟨before, item, after, hitems, -⟩
      cases before <;> cases hitems
  | cons first rest ih =>
    change (check first >>= fun _ => rest.forM check) = .error fault ↔ _
    constructor
    · intro h
      cases hfirst : check first with
      | error other =>
        rw [hfirst] at h
        obtain rfl : other = fault := Except.error.inj h
        exact ⟨[], first, rest, rfl, nofun, hfirst⟩
      | ok _ =>
        rw [hfirst] at h
        obtain ⟨before, item, after, rfl, hbefore, hitem⟩ := ih.mp h
        exact ⟨first :: before, item, after, rfl,
          List.forall_mem_cons.mpr ⟨hfirst, hbefore⟩, hitem⟩
    · rintro ⟨before, item, after, hitems, hbefore, hitem⟩
      cases before with
      | nil =>
        obtain ⟨rfl, rfl⟩ := List.cons.inj hitems
        rw [hitem]
        rfl
      | cons _ before =>
        obtain ⟨rfl, rfl⟩ := List.cons.inj hitems
        obtain ⟨hfirst, hbefore⟩ := List.forall_mem_cons.mp hbefore
        rw [hfirst]
        exact ih.mpr ⟨before, item, after, rfl, hbefore, hitem⟩

/-- What is seen of the value of a computation is seen of a value that it has: single computations
are evaluated by this. -/
theorem exists_ok_of_map (computed : Except Fault α) (view : α → β) (seen : β)
    (h : computed.toOption.map view = some seen) :
    ∃ value, computed = .ok value ∧ view value = seen := by
  cases computed with
  | error fault => cases h
  | ok value => exact ⟨value, rfl, Option.some.inj h⟩

/-- The fault that a computation ends with. -/
def fault? : Except Fault α → Option Fault
  | .error fault => some fault
  | .ok _ => none

/-- A computation ends with a fault exactly if that is what is seen of it. -/
theorem fault?_eq_some_iff {computed : Except Fault α} {fault : Fault} :
    fault? computed = some fault ↔ computed = .error fault := by
  cases computed with
  | error other =>
    constructor
    · intro h
      rw [Option.some.inj h]
    · intro h
      rw [Except.error.inj h]
      rfl
  | ok value => exact ⟨nofun, nofun⟩

/-! ## When there is a value -/

/-- **A computation that gives a value unless something is the case**: a fault if it is, and a good
value if it is not. -/
def GivesUnless (bad : Prop) (good : α → Prop) (computed : Except Fault α) : Prop :=
  (bad → ∃ fault, computed = .error fault) ∧ (¬ bad → ∃ value, computed = .ok value ∧ good value)

/-- A computation gives a value unless something is the case if its values are known to be good and
it is known when it has one. -/
theorem givesUnless_of_iff {bad : Prop} {good : α → Prop} {computed : Except Fault α}
    (hiff : (∃ value, computed = .ok value) ↔ ¬ bad)
    (hgood : ∀ value, computed = .ok value → good value) : GivesUnless bad good computed := by
  constructor
  · intro hbad
    cases hcomputed : computed with
    | error fault => exact ⟨fault, rfl⟩
    | ok value => exact absurd hbad (hiff.mp ⟨value, hcomputed⟩)
  · intro hfree
    obtain ⟨value, hvalue⟩ := hiff.mpr hfree
    exact ⟨value, hvalue, hgood value hvalue⟩

/-- What is known of a value that is wrapped up is known of the value. -/
theorem GivesUnless.of_wrap {bad : Prop} {good : β → Prop} {wrap : α → β}
    {computed : Except Fault α}
    (h : GivesUnless bad good (computed >>= fun value => pure (wrap value))) :
    GivesUnless bad (fun value => good (wrap value)) computed := by
  obtain ⟨hfault, hvalue⟩ := h
  cases computed with
  | error fault =>
    refine ⟨fun _ => ⟨fault, rfl⟩, fun hfree => ?_⟩
    obtain ⟨value, hwrapped, -⟩ := hvalue hfree
    cases hwrapped
  | ok value =>
    refine ⟨fun hbad => ?_, fun hfree => ⟨value, rfl, ?_⟩⟩
    · obtain ⟨fault, hfault⟩ := hfault hbad
      cases hfault
    · obtain ⟨wrapped, hwrapped, hgood⟩ := hvalue hfree
      obtain rfl : wrap value = wrapped := Except.ok.inj hwrapped
      exact hgood

end Stepwise
