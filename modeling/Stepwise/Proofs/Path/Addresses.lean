import Stepwise.Path
import Stepwise.Proofs.Computations

/-! # Where a path leads

`Leads parts value target` says what it means that the parts of a path lead from a value to one
inside it, without following them: a part selects the element of a list at the place that it writes,
counted from either end, or the field of an object. A path leads to one value at most
(`Leads.unique`); where it leads to none, what is found is null (`Finds`).

Following a path fails in one way only: it comes to a list, and the next part shows a number that
cannot be read (`Stumbles`), because a digit in it is not decimal or because it is too long. The
main statement is `get_givesUnless`: a path that does not stumble gives what is found behind it. -/

namespace Stepwise.Path

/-! ## Parts that show numbers -/

/-- The digits of a part, without the minus sign before them. -/
def digitsOf : List Char → List Char
  | '-' :: digits => digits
  | digits => digits

/-- A part without a minus sign before it consists of its digits. -/
theorem digitsOf_eq_self {part : List Char} (h : ∀ digits, part ≠ '-' :: digits) :
    digitsOf part = part := by
  unfold digitsOf
  split
  next digits => exact absurd rfl (h digits)
  next => rfl

/-- **A part can be read**: if it shows a number, then in decimal digits, and not in too many. -/
def IsReadable (part : List Char) : Prop :=
  showsNumber part = true →
    (∀ c ∈ digitsOf part, Unicode.isDecimal c = true) ∧ (digitsOf part).length ≤ maxDigits

/-- **Reading an index** succeeds exactly if its digits are decimal and not too many. -/
theorem exists_readIndex_iff {part : List Char} :
    (∃ index, readIndex part = .ok index) ↔
      (∀ c ∈ digitsOf part, Unicode.isDecimal c = true) ∧
        (digitsOf part).length ≤ maxDigits := by
  -- the sign is cut off first, and has no part in whether the digits can be read
  have hread : ∀ (negative : Bool) (digits : List Char),
      (∃ index, (if !digits.all Unicode.isDecimal then
          .error (.notInteger (String.ofList part))
        else if maxDigits < digits.length then .error (.integerTooLong digits.length)
        else .ok (Binary64.signed negative (Binary64.natOfDigits (Binary64.westernDigits digits)))
          : Except Fault Int) = .ok index) ↔
        (∀ c ∈ digits, Unicode.isDecimal c = true) ∧ digits.length ≤ maxDigits := by
    intro negative digits
    rw [← List.all_eq_true, ← Nat.not_lt]
    by_cases hdecimal : digits.all Unicode.isDecimal = true
    · by_cases hlong : maxDigits < digits.length
      · simp [hdecimal, hlong]
      · simp [hdecimal, hlong]
    · simp [hdecimal]
  unfold readIndex
  split
  next negative digits hsplit =>
    split at hsplit
    next =>
      obtain ⟨rfl, rfl⟩ := Prod.mk.inj hsplit
      exact hread true _
    next hminus =>
      obtain ⟨rfl, rfl⟩ := Prod.mk.inj hsplit
      rw [digitsOf_eq_self hminus]
      exact hread false _

/-- A part that shows a number and can be read is one of a certain index. -/
theorem IsReadable.exists_readIndex {part : List Char} (h : IsReadable part)
    (hnumber : showsNumber part = true) : ∃ index, readIndex part = .ok index :=
  exists_readIndex_iff.mpr (h hnumber)

/-- A part that cannot be read shows a number, and reading it is a fault. -/
theorem exists_fault_of_not_isReadable {part : List Char} (h : ¬ IsReadable part) :
    showsNumber part = true ∧ ∃ fault, readIndex part = .error fault := by
  obtain ⟨hnumber, hunread⟩ := Classical.not_imp.mp h
  refine ⟨hnumber, ?_⟩
  cases hread : readIndex part with
  | error fault => exact ⟨fault, rfl⟩
  | ok index => exact absurd (exists_readIndex_iff.mp ⟨index, hread⟩) hunread

/-! ## Places in a list -/

/-- **The item at an index** of a list: counted from the start, or from the end if the index is
negative. -/
inductive ItemAt (items : List Value) : Int → Value → Prop
  /-- Counted from the start. -/
  | start {place : Nat} {item : Value} (found : items[place]? = some item) :
      ItemAt items place item
  /-- Counted from the end, whose last item is the first one. -/
  | fromEnd {place back : Nat} {item : Value} (total : place + back = items.length)
      (pos : 0 < back) (found : items[place]? = some item) : ItemAt items (-back) item

/-- The element at an index is the item there. -/
theorem elementAt?_eq_some_iff {items : List Value} {index : Int} {item : Value} :
    elementAt? items index = some item ↔ ItemAt items index item := by
  constructor
  · intro h
    unfold elementAt? at h
    split at h
    next hneg =>
      split at h
      next hbound =>
        obtain ⟨back, rfl⟩ : ∃ back : Nat, index = -back := ⟨index.natAbs, by omega⟩
        exact .fromEnd (by omega) (by omega) h
      next => cases h
    next hpos =>
      obtain ⟨place, rfl⟩ : ∃ place : Nat, index = place := ⟨index.toNat, by omega⟩
      exact .start h
  · intro h
    unfold elementAt?
    cases h with
    | start hfound =>
      rw [if_neg (by omega)]
      exact hfound
    | @fromEnd place back _ htotal hpos hfound =>
      have hplace : ((items.length : Int) + -(back : Int)).toNat = place := by omega
      rw [if_pos (by omega), if_pos (by omega), hplace]
      exact hfound

/-! ## Addresses -/

/-- **A part selects** a value inside another one. -/
inductive Selects (part : List Char) : Value → Value → Prop
  /-- A part that shows a number selects the item of a list at that index. -/
  | item {items : List Value} {index : Int} {item : Value} (number : showsNumber part = true)
      (read : readIndex part = .ok index) (found : ItemAt items index item) :
      Selects part (.list items) item
  /-- Any part selects the field of an object. -/
  | field {fields : Fields} {value : Value}
      (found : fields.find? (String.ofList part) = some value) :
      Selects part (.object fields) value

/-- **The parts of a path lead** from a value to one inside it. -/
inductive Leads : List (List Char) → Value → Value → Prop
  /-- No part leads away from the value. -/
  | here (value : Value) : Leads [] value value
  /-- The first part selects a value, from which the others lead on. -/
  | step {part : List Char} {rest : List (List Char)} {value inner target : Value}
      (head : Selects part value inner) (tail : Leads rest inner target) :
      Leads (part :: rest) value target

/-- **What is found** behind the parts of a path: what they lead to, or null if they lead
nowhere. -/
def Finds (parts : List (List Char)) (value target : Value) : Prop :=
  Leads parts value target ∨ (target = .null ∧ ∀ other, ¬ Leads parts value other)

/-- **A path stumbles** in a value: some of its parts lead to a list, and the next part shows a
number that cannot be read. -/
def Stumbles (parts : List (List Char)) (value : Value) : Prop :=
  ∃ front part back items, parts = front ++ part :: back ∧ Leads front value (.list items) ∧
    ¬ IsReadable part

/-! ## One part -/

/-- What a part selects is what the step gives. -/
theorem Selects.select_eq {part : List Char} {value inner : Value}
    (h : Selects part value inner) : select part value = .ok inner := by
  cases h with
  | item hnumber hread hfound =>
    rw [select, if_pos hnumber, hread, Except.map, elementAt?_eq_some_iff.mpr hfound]
    rfl
  | field hfound =>
    rw [select, Value.field, hfound]
    rfl

/-- A part selects one value at most. -/
theorem Selects.unique {part : List Char} {value inner inner' : Value}
    (h : Selects part value inner) (h' : Selects part value inner') : inner = inner' :=
  Except.ok.inj (h.select_eq.symm.trans h'.select_eq)

/-- A part that selects nothing from a list, if it can be read there, gives null. -/
theorem select_list_eq_null {part : List Char} {items : List Value} (hpart : IsReadable part)
    (hnone : ∀ inner, ¬ Selects part (.list items) inner) :
    select part (.list items) = .ok .null := by
  by_cases hnumber : showsNumber part = true
  · obtain ⟨index, hread⟩ := hpart.exists_readIndex hnumber
    have hitem : elementAt? items index = none := by
      rw [Option.eq_none_iff_forall_ne_some]
      intro item hitem
      exact hnone item (.item hnumber hread (elementAt?_eq_some_iff.mp hitem))
    rw [select, if_pos hnumber, hread, Except.map, hitem]
    rfl
  · rw [select, if_neg hnumber]

/-- **Where a part selects nothing, the step gives null**, unless it comes to a list with a number
that cannot be read. -/
theorem select_eq_null {part : List Char} {value : Value}
    (hlist : ∀ items, value = .list items → IsReadable part)
    (hnone : ∀ inner, ¬ Selects part value inner) : select part value = .ok .null := by
  cases value with
  | list items => exact select_list_eq_null (hlist items rfl) hnone
  | object fields =>
    have hfield : Bindings.find? (String.ofList part) fields = none := by
      rw [Option.eq_none_iff_forall_ne_some]
      intro inner hfound
      exact hnone inner (.field hfound)
    rw [select, Value.field, hfield]
    rfl
  | null => rfl
  | bool => rfl
  | int => rfl
  | float => rfl
  | text => rfl

/-! ## All parts -/

/-- Following a path gives what it leads to. -/
theorem Leads.follow_eq {parts : List (List Char)} {value target : Value}
    (h : Leads parts value target) : follow parts value = .ok target := by
  induction h with
  | here value => rfl
  | step hhead _ ih =>
    rw [follow, hhead.select_eq]
    exact ih

/-- **A path leads to one value at most.** -/
theorem Leads.unique {parts : List (List Char)} {value target target' : Value}
    (h : Leads parts value target) (h' : Leads parts value target') : target = target' :=
  Except.ok.inj (h.follow_eq.symm.trans h'.follow_eq)

/-- What is found behind a path is one value. -/
theorem Finds.unique {parts : List (List Char)} {value target target' : Value}
    (h : Finds parts value target) (h' : Finds parts value target') : target = target' := by
  rcases h with h | ⟨rfl, hnone⟩
  · rcases h' with h' | ⟨-, hnone⟩
    · exact h.unique h'
    · exact absurd h (hnone target)
  · rcases h' with h' | ⟨rfl, -⟩
    · exact absurd h' (hnone target')
    · rfl

/-- **A path that stumbles is a fault.** -/
theorem Stumbles.exists_fault {parts : List (List Char)} {value : Value}
    (h : Stumbles parts value) : ∃ fault, follow parts value = .error fault := by
  obtain ⟨front, part, back, items, rfl, hleads, hunread⟩ := h
  obtain ⟨hnumber, fault, hread⟩ := exists_fault_of_not_isReadable hunread
  have hselect : select part (.list items) = .error fault := by
    rw [select, if_pos hnumber, hread]
    rfl
  refine ⟨fault, ?_⟩
  rw [follow_append, hleads.follow_eq]
  change follow (part :: back) (.list items) = .error fault
  rw [follow, hselect]
  rfl

/-- What stumbles behind a part stumbles with it. -/
theorem Stumbles.cons {part : List Char} {rest : List (List Char)} {value inner : Value}
    (hselects : Selects part value inner) (h : Stumbles rest inner) :
    Stumbles (part :: rest) value := by
  obtain ⟨front, unread, back, items, rfl, hleads, hunread⟩ := h
  exact ⟨part :: front, unread, back, items, rfl, .step hselects hleads, hunread⟩

/-- **A path that does not stumble gives what is found behind it.** The induction is on the parts:
the first one selects a value, in which the rest does not stumble either, or nothing, and then the
path leads nowhere. -/
theorem exists_follow {parts : List (List Char)} {value : Value} (h : ¬ Stumbles parts value) :
    ∃ target, follow parts value = .ok target ∧ Finds parts value target := by
  induction parts generalizing value with
  | nil => exact ⟨value, rfl, .inl (.here value)⟩
  | cons part rest ih =>
    by_cases hselects : ∃ inner, Selects part value inner
    · obtain ⟨inner, hselects⟩ := hselects
      obtain ⟨target, hfollow, hfinds⟩ := ih fun hrest => h (hrest.cons hselects)
      refine ⟨target, ?_, ?_⟩
      · rw [follow, hselects.select_eq]
        exact hfollow
      · rcases hfinds with hleads | ⟨rfl, hnone⟩
        · exact .inl (.step hselects hleads)
        · refine .inr ⟨rfl, ?_⟩
          rintro other (_ | ⟨hselects', hleads⟩)
          rw [hselects'.unique hselects] at hleads
          exact hnone other hleads
    · -- nothing is selected here, so the path leads nowhere
      have hlist : ∀ items, value = .list items → IsReadable part := by
        rintro items rfl
        refine Classical.not_not.mp ?_
        intro hunread
        exact h ⟨[], part, rest, items, rfl, .here _, hunread⟩
      have hselect := select_eq_null hlist fun inner hinner => hselects ⟨inner, hinner⟩
      refine ⟨.null, ?_, .inr ⟨rfl, ?_⟩⟩
      · rw [follow, hselect]
        exact follow_null rest
      · rintro other (_ | ⟨hselects', -⟩)
        exact hselects ⟨_, hselects'⟩

/-- **What following a path gives**: what is found behind it, unless it stumbles. -/
theorem follow_eq_ok_iff {parts : List (List Char)} {value target : Value} :
    follow parts value = .ok target ↔ ¬ Stumbles parts value ∧ Finds parts value target := by
  constructor
  · intro h
    have hfree : ¬ Stumbles parts value := by
      intro hstumbles
      obtain ⟨fault, hfault⟩ := hstumbles.exists_fault
      rw [h] at hfault
      cases hfault
    obtain ⟨found, hfollow, hfinds⟩ := exists_follow hfree
    obtain rfl : target = found := Except.ok.inj (h.symm.trans hfollow)
    exact ⟨hfree, hfinds⟩
  · rintro ⟨hfree, hfinds⟩
    obtain ⟨found, hfollow, hfinds'⟩ := exists_follow hfree
    rw [hfollow, hfinds.unique hfinds']

/-- **A path gives what is found behind it**, unless it stumbles. -/
theorem get_givesUnless (data : Value) (path : String) :
    GivesUnless (Stumbles (parts path) data) (Finds (parts path) data) (get data path) := by
  refine givesUnless_of_iff ⟨?_, ?_⟩ ?_
  · rintro ⟨value, hvalue⟩
    exact (follow_eq_ok_iff.mp hvalue).1
  · intro hfree
    obtain ⟨target, hfollow, -⟩ := exists_follow hfree
    exact ⟨target, hfollow⟩
  · intro value hvalue
    exact (follow_eq_ok_iff.mp hvalue).2

end Stepwise.Path
