import Stepwise.Proofs.Bindings.Lookup
import Mathlib.Data.List.Perm.Basic

/-! # Bindings and their history

A `History` is what was done to bindings, the latest change first. It says by itself what a name is
bound to: what it was last bound to, unless it was removed after that (`History.value?`). It also
says since when a name is bound: since the first change that bound it after it was last absent
(`History.since?`).

Bindings *recount* a history if every name reads as the history says and the names stand in the
order in which they came to be bound (`Bindings.Recounts`). `Bindings.Recounts.change` is the step:
whatever is done next, the changed bindings recount the longer history. There is only one way to
recount a history (`Bindings.Recounts.unique`). -/

namespace Stepwise

universe u

variable {α : Type u}

/-- One change to bindings. -/
inductive Change (α : Type u) where
  /-- A name was bound to a value. -/
  | bound (name : String) (value : α)
  /-- A name was removed. -/
  | removed (name : String)
  /-- Every name was removed. -/
  | cleared

/-- What was done to bindings that were empty at first, the latest change first. -/
abbrev History (α : Type u) := List (Change α)

namespace History

/-- What a name is bound to after a history: what it was last bound to, unless it was removed after
that. -/
def value? (name : String) : History α → Option α
  | [] => none
  | .bound key value :: earlier => if key = name then some value else value? name earlier
  | .removed key :: earlier => if key = name then none else value? name earlier
  | .cleared :: _ => none

/-- Since when a name is bound after a history: the number of changes before the one that first
bound it since it was last absent. -/
def since? (name : String) : History α → Option Nat
  | [] => none
  | .bound key _ :: earlier =>
    if key = name then (since? name earlier).or (some earlier.length) else since? name earlier
  | .removed key :: earlier => if key = name then none else since? name earlier
  | .cleared :: _ => none

/-- **A name came to be bound before another one**, and both are bound still. -/
def Precedes (history : History α) (first second : String) : Prop :=
  ∃ i j, since? first history = some i ∧ since? second history = some j ∧ i < j

/-- The history of bindings that were bound one after the other. -/
def ofBindings (bindings : Bindings α) : History α :=
  (bindings.map fun pair => .bound pair.1 pair.2).reverse

variable {history : History α} {name other : String}

/-- A name is bound to something exactly if it is bound since some time. -/
theorem isSome_since? (name : String) (history : History α) :
    (since? name history).isSome = (value? name history).isSome := by
  induction history with
  | nil => rfl
  | cons change earlier ih =>
    cases change with
    | bound key value =>
      rw [since?, value?]
      split
      · rw [Option.isSome_or]
        exact Bool.or_true _
      · exact ih
    | removed key =>
      rw [since?, value?]
      split
      · rfl
      · exact ih
    | cleared => rfl

/-- A name is bound since a change of the history. -/
theorem since?_lt {i : Nat} (h : since? name history = some i) : i < history.length := by
  induction history with
  | nil => cases h
  | cons change earlier ih =>
    have hlater : since? name earlier = some i → i < (change :: earlier).length :=
      fun hearlier => Nat.lt_succ_of_lt (ih hearlier)
    cases change with
    | bound key value =>
      rw [since?] at h
      split at h
      · cases hearlier : since? name earlier with
        | some j =>
          rw [hearlier] at h
          exact hlater (hearlier.trans h)
        | none =>
          rw [hearlier] at h
          rw [← Option.some.inj h]
          exact Nat.lt_succ_self _
      · exact hlater h
    | removed key =>
      rw [since?] at h
      split at h
      · cases h
      · exact hlater h
    | cleared => cases h

/-- A change to another name leaves it as it is since when a name is bound. -/
theorem since?_bound_ne (h : name ≠ other) (value : α) (history : History α) :
    since? other (.bound name value :: history) = since? other history := by
  rw [since?, if_neg h]

/-- A name that is bound again is bound as long as before. -/
theorem since?_bound_of_some {i : Nat} (h : since? name history = some i) (value : α) :
    since? name (.bound name value :: history) = some i := by
  rw [since?, if_pos rfl, h]
  rfl

/-- A name that was absent is bound since now. -/
theorem since?_bound_of_none (h : since? name history = none) (value : α) :
    since? name (.bound name value :: history) = some history.length := by
  rw [since?, if_pos rfl, h]
  rfl

/-- The removal of another name leaves it as it is since when a name is bound. -/
theorem since?_removed_ne (h : name ≠ other) (history : History α) :
    since? other (.removed name :: history) = since? other history := by
  rw [since?, if_neg h]

/-- No name came to be bound before itself. -/
theorem Precedes.ne (h : history.Precedes name other) : name ≠ other := by
  rintro rfl
  obtain ⟨i, j, hi, hj, hlt⟩ := h
  obtain rfl : i = j := Option.some.inj (hi.symm.trans hj)
  exact Nat.lt_irrefl i hlt

/-- Of two names only one came to be bound before the other. -/
theorem Precedes.asymm (h : history.Precedes name other) : ¬ history.Precedes other name := by
  rintro ⟨j', i', hj', hi', hlt'⟩
  obtain ⟨i, j, hi, hj, hlt⟩ := h
  obtain rfl : i = i' := Option.some.inj (hi.symm.trans hi')
  obtain rfl : j = j' := Option.some.inj (hj.symm.trans hj')
  exact Nat.lt_asymm hlt hlt'

end History

namespace Bindings

open History

/-- Bindings after a change. -/
def change : Change α → Bindings α → Bindings α
  | .bound name value, bindings => bindings.put name value
  | .removed name, bindings => bindings.erase name
  | .cleared, _ => []

/-- **Bindings recount a history**: every name reads as the history says, and the names stand in the
order in which they came to be bound. -/
structure Recounts (bindings : Bindings α) (history : History α) : Prop where
  /-- A name is bound to what it was last bound to. -/
  find? : ∀ name, bindings.find? name = history.value? name
  /-- The names are in the order in which they came to be bound. -/
  ordered : bindings.names.Pairwise history.Precedes

/-- Bindings with the same distinct names that all read the same are the same. -/
theorem eq_of_names_eq {bindings other : Bindings α} (hdistinct : bindings.names.Nodup)
    (hnames : bindings.names = other.names)
    (h : ∀ name, bindings.find? name = other.find? name) : bindings = other := by
  induction bindings generalizing other with
  | nil => exact (List.map_eq_nil_iff.mp hnames.symm).symm
  | cons pair rest ih =>
    cases other with
    | nil => cases hnames
    | cons pair' rest' =>
      obtain ⟨key, value⟩ := pair
      obtain ⟨key', value'⟩ := pair'
      rw [names_cons, names_cons] at hnames
      obtain ⟨rfl, hrest⟩ := List.cons.inj hnames
      rw [names_cons, List.nodup_cons] at hdistinct
      have hvalue := h key
      rw [find?_cons_self, find?_cons_self] at hvalue
      obtain rfl := Option.some.inj hvalue
      rw [ih hdistinct.2 hrest fun name => ?_]
      by_cases heq : key = name
      · subst heq
        rw [find?_eq_none_iff.mpr hdistinct.1, find?_eq_none_iff.mpr (hrest ▸ hdistinct.1)]
      · have hname := h name
        rwa [Bindings.find?, Bindings.find?, if_neg heq, if_neg heq] at hname

namespace Recounts

variable {bindings other : Bindings α} {history : History α} {name : String}

/-- No bindings recount that nothing was done. -/
theorem nil : Recounts ([] : Bindings α) [] := ⟨fun _ => rfl, .nil⟩

/-- **The names are distinct.** -/
theorem nodup (h : bindings.Recounts history) : bindings.names.Nodup :=
  h.ordered.imp fun hprecedes => hprecedes.ne

/-- **The names are those that are bound** after the history. -/
theorem mem_names_iff (h : bindings.Recounts history) :
    name ∈ bindings.names ↔ ∃ value, history.value? name = some value := by
  rw [← exists_find?_iff, h.find?]

/-- The names are those that are bound since some time. -/
theorem mem_names_iff_since (h : bindings.Recounts history) :
    name ∈ bindings.names ↔ ∃ i, history.since? name = some i := by
  rw [h.mem_names_iff, ← Option.isSome_iff_exists, ← Option.isSome_iff_exists, isSome_since?]

/-- Binding a name. -/
theorem bound (h : bindings.Recounts history) (name : String) (value : α) :
    (bindings.put name value).Recounts (.bound name value :: history) where
  find? := by
    intro asked
    rw [value?]
    split
    next heq => rw [← heq, find?_put]
    next hne => rw [find?_put_ne hne, h.find?]
  ordered := by
    -- a name that is bound is bound as long as before, whichever name it is
    have hkept : ∀ old ∈ bindings.names, ∃ i, history.since? old = some i ∧
        since? old (.bound name value :: history) = some i := by
      intro old hold
      obtain ⟨i, hi⟩ := h.mem_names_iff_since.mp hold
      by_cases heq : name = old
      · subst heq
        exact ⟨i, hi, since?_bound_of_some hi value⟩
      · exact ⟨i, hi, (since?_bound_ne heq value history).trans hi⟩
    have hnames : bindings.names.Pairwise (Precedes (.bound name value :: history)) := by
      refine h.ordered.imp_of_mem fun {first second} hfirst hsecond hprecedes => ?_
      obtain ⟨i, hi, hi'⟩ := hkept first hfirst
      obtain ⟨j, hj, hj'⟩ := hkept second hsecond
      obtain ⟨i', j', hi'', hj'', hlt⟩ := hprecedes
      obtain rfl : i = i' := Option.some.inj (hi.symm.trans hi'')
      obtain rfl : j = j' := Option.some.inj (hj.symm.trans hj'')
      exact ⟨i, j, hi', hj', hlt⟩
    rw [names_put]
    split
    · exact hnames
    next hnew =>
      rw [h.mem_names_iff_since, ← Option.isSome_iff_exists, Bool.not_eq_true,
        Option.isSome_eq_false_iff, Option.isNone_iff_eq_none] at hnew
      refine List.pairwise_append.mpr ⟨hnames, List.pairwise_singleton _ _, ?_⟩
      intro old hold last hlast
      obtain rfl := List.mem_singleton.mp hlast
      obtain ⟨i, hi, hi'⟩ := hkept old hold
      exact ⟨i, _, hi', since?_bound_of_none hnew value, since?_lt hi⟩

/-- Removing a name. -/
theorem removed (h : bindings.Recounts history) (name : String) :
    (bindings.erase name).Recounts (.removed name :: history) where
  find? := by
    intro asked
    rw [value?]
    split
    next heq => rw [← heq, find?_erase_self h.nodup]
    next hne => rw [find?_erase_ne hne, h.find?]
  ordered := by
    rw [names_erase]
    refine (h.ordered.sublist List.erase_sublist).imp_of_mem ?_
    rintro first second hfirst hsecond ⟨i, j, hi, hj, hlt⟩
    have hne : ∀ left ∈ bindings.names.erase name, name ≠ left :=
      fun left hleft heq => (h.nodup.mem_erase_iff.mp hleft).1 heq.symm
    exact ⟨i, j, (since?_removed_ne (hne first hfirst) history).trans hi,
      (since?_removed_ne (hne second hsecond) history).trans hj, hlt⟩

/-- **A change is recounted**, whichever it is. -/
theorem change (h : bindings.Recounts history) (change : Change α) :
    (bindings.change change).Recounts (change :: history) := by
  cases change with
  | bound name value => exact h.bound name value
  | removed name => exact h.removed name
  | cleared => exact ⟨fun _ => rfl, .nil⟩

/-- Several changes are recounted one after the other. -/
theorem changes (h : bindings.Recounts history) (later : History α) :
    (later.foldr Bindings.change bindings).Recounts (later ++ history) := by
  induction later with
  | nil => exact h
  | cons last later ih => exact ih.change last

/-- **There is one way to recount a history**: the order and the values leave no choice. -/
theorem unique (h : bindings.Recounts history) (h' : other.Recounts history) :
    bindings = other := by
  have hnames : bindings.names = other.names := by
    have hperm : bindings.names.Perm other.names :=
      (List.perm_ext_iff_of_nodup h.nodup h'.nodup).mpr fun name =>
        h.mem_names_iff.trans h'.mem_names_iff.symm
    exact hperm.eq_of_pairwise (fun _ _ _ _ hab hba => absurd hba hab.asymm) h.ordered h'.ordered
  exact eq_of_names_eq h.nodup hnames fun name => (h.find? name).trans (h'.find? name).symm

end Recounts

/-! ## Bindings as they are given -/

/-- Binding a new name puts it at the end. -/
theorem put_of_not_mem {bindings : Bindings α} {name : String} (h : name ∉ bindings.names)
    (value : α) : bindings.put name value = bindings ++ [(name, value)] := by
  induction bindings with
  | nil => rfl
  | cons pair rest ih =>
    rw [names_cons, List.mem_cons, not_or] at h
    rw [put, if_neg (Ne.symm h.1), ih h.2, List.cons_append]

/-- Binding the names of a list one after the other is what its history says. -/
theorem putAll_eq_foldr (bindings pairs : Bindings α) :
    bindings.putAll pairs = (History.ofBindings pairs).foldr change bindings := by
  rw [History.ofBindings, List.foldr_reverse, List.foldl_map]
  rfl

/-- Binding new and distinct names adds them as they are. -/
theorem putAll_of_nodup {bindings pairs : Bindings α} (h : (bindings ++ pairs).names.Nodup) :
    bindings.putAll pairs = bindings ++ pairs := by
  induction pairs generalizing bindings with
  | nil => exact (List.append_nil _).symm
  | cons pair rest ih =>
    have hnew : pair.1 ∉ bindings.names := by
      rw [names, List.map_append, List.map_cons] at h
      exact fun hmem => (List.nodup_append.mp h).2.2 _ hmem _ List.mem_cons_self rfl
    have hput : bindings.putAll (pair :: rest) = (bindings.put pair.1 pair.2).putAll rest := rfl
    rw [hput, put_of_not_mem hnew, ih, List.append_assoc, List.singleton_append]
    rwa [List.append_assoc, List.singleton_append]

/-- **Bindings under distinct names recount** that they were bound one after the other. -/
theorem recounts_ofBindings {bindings : Bindings α} (h : bindings.names.Nodup) :
    bindings.Recounts (History.ofBindings bindings) := by
  have hchanges := Recounts.nil.changes (History.ofBindings bindings)
  have hall : putAll [] bindings = bindings := putAll_of_nodup h
  rwa [← putAll_eq_foldr, hall, List.append_nil] at hchanges

end Bindings

end Stepwise
