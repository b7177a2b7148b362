import Stepwise.Proofs.Path.Addresses
import Stepwise.Proofs.Text.Numerals

/-! # Writing paths

An address in a value names a field of an object or an index of a list at each of its hops
(`Reaches`). `written` writes it as a path: a point before each name, and for each index either a
point before it or brackets around it (`Segment`).

A path whose names contain no point and no opening bracket is taken apart where it was put together
(`parts_written`), however its indices are written. Hence the main statement, `get_written`: the
path of an address leads to the value there. -/

namespace Stepwise.Path

/-! ## Addresses -/

/-- One hop of an address. -/
inductive Hop where
  /-- To the field of an object. -/
  | field (name : String)
  /-- To the item of a list at an index, counted from the end if it is negative. -/
  | item (index : Int)
  deriving DecidableEq, Repr

namespace Hop

/-- The part of a path that makes the hop. -/
def part : Hop → List Char
  | field name => name.toList
  | item index => Text.numeral index

/-- **A hop can be written**: its name contains nothing that has a meaning in a path. -/
def IsPlain : Hop → Prop
  | field name => '.' ∉ name.toList ∧ '[' ∉ name.toList
  | item _ => True

/-- A plain hop is decided by its name. -/
instance (hop : Hop) : Decidable hop.IsPlain :=
  match hop with
  | field name => inferInstanceAs (Decidable ('.' ∉ name.toList ∧ '[' ∉ name.toList))
  | item _ => inferInstanceAs (Decidable True)

end Hop

/-- A list all of whose indices can be read: their digits are not too many. -/
def IsCountable {α : Type} (items : List α) : Prop := items.length < Nat.pow 10 maxDigits

/-- The items are counted. -/
instance {α : Type} (items : List α) : Decidable (IsCountable items) :=
  inferInstanceAs (Decidable (items.length < Nat.pow 10 maxDigits))

/-- **An address reaches** a value inside another one. -/
inductive Reaches : List Hop → Value → Value → Prop
  /-- No hop leads away from the value. -/
  | here (value : Value) : Reaches [] value value
  /-- A hop to a field. -/
  | field {name : String} {hops : List Hop} {fields : Fields} {inner target : Value}
      (found : fields.find? name = some inner) (rest : Reaches hops inner target) :
      Reaches (.field name :: hops) (.object fields) target
  /-- A hop to an item. -/
  | item {index : Int} {hops : List Hop} {items : List Value} {inner target : Value}
      (countable : IsCountable items) (found : ItemAt items index inner)
      (rest : Reaches hops inner target) : Reaches (.item index :: hops) (.list items) target

/-! ## Paths as they are written -/

/-- A hop as it is written in a path. -/
inductive Segment where
  /-- A name behind a point. -/
  | field (name : String)
  /-- An index behind a point. -/
  | pointed (index : Int)
  /-- An index in brackets. -/
  | bracketed (index : Int)
  deriving DecidableEq, Repr

namespace Segment

/-- The hop that is written. -/
def hop : Segment → Hop
  | field name => .field name
  | pointed index => .item index
  | bracketed index => .item index

/-- What is written. -/
def text : Segment → String
  | field name => "." ++ name
  | pointed index => "." ++ toString index
  | bracketed index => "[" ++ toString index ++ "]"

end Segment

/-- **A path as it is written**: the name of a field, and the segments behind it. -/
def written (first : String) (segments : List Segment) : String :=
  segments.foldl (fun path segment => path ++ segment.text) first

/-- The characters of a path are those of the name and of the segments. -/
theorem toList_written (first : String) (segments : List Segment) :
    (written first segments).toList =
      first.toList ++ segments.flatMap fun segment => segment.text.toList := by
  induction segments generalizing first with
  | nil => simp [written]
  | cons segment rest ih =>
    have hfold : written first (segment :: rest) = written (first ++ segment.text) rest := rfl
    rw [hfold, ih, String.toList_append, List.flatMap_cons, List.append_assoc]

/-! ## Rewriting brackets -/

/-- What contains no bracket is not rewritten. -/
theorem dotted_append {cs : List Char} (h : '[' ∉ cs) (rest : List Char) :
    dotted (cs ++ rest) = cs ++ dotted rest := by
  induction cs with
  | nil => rfl
  | cons c cs ih =>
    obtain ⟨hc, hcs⟩ := List.ne_and_not_mem_of_not_mem_cons h
    rw [List.cons_append, dotted, if_neg (Ne.symm hc), ih hcs, List.cons_append]

/-- **An index in brackets** is rewritten to one behind a point. -/
theorem dotted_bracketed (index : Int) (rest : List Char) :
    dotted ('[' :: (Text.numeral index ++ ']' :: rest)) =
      '.' :: (Text.numeral index ++ dotted rest) := by
  rw [dotted, if_pos rfl]
  split
  next inside after hbracketed =>
    rw [bracketed?_numeral] at hbracketed
    obtain ⟨rfl, rfl⟩ := Prod.mk.inj (Option.some.inj hbracketed)
    rfl
  next hbracketed =>
    rw [bracketed?_numeral] at hbracketed
    cases hbracketed

/-- A numeral contains nothing that has a meaning in a path. -/
theorem not_mem_numeral {c : Char} (hdigit : c.isDigit = false) (hminus : c ≠ '-') (n : Int) :
    c ∉ Text.numeral n := by
  intro hmem
  rcases Text.mem_numeral hmem with h | h
  · rw [hdigit] at h
    cases h
  · exact hminus h

/-- The part of a plain hop contains no point and no bracket. -/
theorem Hop.IsPlain.not_mem_part {hop : Hop} (h : hop.IsPlain) :
    '.' ∉ hop.part ∧ '[' ∉ hop.part := by
  cases hop with
  | field name => exact h
  | item index =>
    exact ⟨not_mem_numeral (by decide) (by decide) index,
      not_mem_numeral (by decide) (by decide) index⟩

/-- **A segment is rewritten** to a point and the part that makes its hop. -/
theorem dotted_text {segment : Segment} (h : segment.hop.IsPlain) (rest : List Char) :
    dotted (segment.text.toList ++ rest) = '.' :: (segment.hop.part ++ dotted rest) := by
  have hpoint : ∀ part : List Char, '[' ∉ part →
      dotted ('.' :: part ++ rest) = '.' :: (part ++ dotted rest) := by
    intro part hpart
    have hfree : '[' ∉ '.' :: part := by
      rw [List.mem_cons, not_or]
      exact ⟨by decide, hpart⟩
    rw [dotted_append hfree, List.cons_append]
  cases segment with
  | field name =>
    rw [Segment.text, String.toList_append]
    exact hpoint _ h.not_mem_part.2
  | pointed index =>
    rw [Segment.text, String.toList_append, Text.toList_toString]
    exact hpoint _ h.not_mem_part.2
  | bracketed index =>
    rw [Segment.text, String.toList_append, String.toList_append, Text.toList_toString,
      List.append_assoc, List.append_assoc]
    exact dotted_bracketed index rest

/-- **The segments of a path are rewritten** one by one. -/
theorem dotted_segments {segments : List Segment}
    (h : ∀ segment ∈ segments, segment.hop.IsPlain) :
    dotted (segments.flatMap fun segment => segment.text.toList) =
      segments.flatMap fun segment => '.' :: segment.hop.part := by
  induction segments with
  | nil => rw [List.flatMap_nil, List.flatMap_nil, dotted]
  | cons segment rest ih =>
    rw [List.forall_mem_cons] at h
    rw [List.flatMap_cons, List.flatMap_cons, dotted_text h.1, ih h.2, List.cons_append]

end Stepwise.Path

namespace Stepwise.Text

/-! ## Splitting -/

variable {separator : Char}

/-- A text without the separator is one part. -/
theorem split_eq_singleton {cs : List Char} (h : separator ∉ cs) : split separator cs = [cs] := by
  induction cs with
  | nil => rfl
  | cons c cs ih =>
    obtain ⟨hc, hcs⟩ := List.ne_and_not_mem_of_not_mem_cons h
    rw [split, if_neg (Ne.symm hc), ih hcs]

/-- **Text before the first separator** is the first part. -/
theorem split_append_cons {cs : List Char} (h : separator ∉ cs) (rest : List Char) :
    split separator (cs ++ separator :: rest) = cs :: split separator rest := by
  induction cs with
  | nil => rw [List.nil_append, split, if_pos rfl]
  | cons c cs ih =>
    obtain ⟨hc, hcs⟩ := List.ne_and_not_mem_of_not_mem_cons h
    rw [List.cons_append, split, if_neg (Ne.symm hc), ih hcs]

/-- **Parts behind separators** are split where they were joined. -/
theorem split_joined {first : List Char} {others : List (List Char)} (hfirst : separator ∉ first)
    (hothers : ∀ part ∈ others, separator ∉ part) :
    split separator (first ++ others.flatMap (separator :: ·)) = first :: others := by
  induction others generalizing first with
  | nil => rw [List.flatMap_nil, List.append_nil, split_eq_singleton hfirst]
  | cons part rest ih =>
    rw [List.forall_mem_cons] at hothers
    rw [List.flatMap_cons, List.cons_append, split_append_cons hfirst, ih hothers.1 hothers.2]

end Stepwise.Text

namespace Stepwise.Path

variable {first : String} {segments : List Segment}

/-! ## Reading what is written -/

/-- **A written path is taken apart** into the parts that make its hops. -/
theorem parts_written
    (hplain : ∀ hop ∈ Hop.field first :: segments.map Segment.hop, hop.IsPlain) :
    parts (written first segments) =
      (Hop.field first :: segments.map Segment.hop).map Hop.part := by
  rw [List.forall_mem_cons] at hplain
  obtain ⟨hfirst, hothers⟩ := hplain
  have hsegments : ∀ segment ∈ segments, segment.hop.IsPlain := fun segment hmem =>
    hothers _ (List.mem_map_of_mem hmem)
  have hpoints : ∀ part ∈ (segments.map Segment.hop).map Hop.part, '.' ∉ part := by
    intro part hpart
    obtain ⟨hop, hmem, rfl⟩ := List.mem_map.mp hpart
    exact (hothers hop hmem).not_mem_part.1
  rw [parts, toList_written, dotted_append hfirst.2, dotted_segments hsegments, List.map_cons,
    Hop.part, ← Text.split_joined hfirst.1 hpoints, List.flatMap_map, List.flatMap_map]

/-- **A list has items at its indices**, from either end, and at no others. -/
theorem exists_itemAt_iff {items : List Value} {index : Int} :
    (∃ item, ItemAt items index item) ↔
      -(items.length : Int) ≤ index ∧ index < items.length := by
  constructor
  · rintro ⟨item, h⟩
    cases h with
    | @start place _ hfound =>
      have hlt : place < items.length := (List.getElem?_eq_some_iff.mp hfound).1
      omega
    | fromEnd htotal => omega
  · rintro ⟨hlow, hhigh⟩
    by_cases hneg : index < 0
    · obtain ⟨back, rfl⟩ : ∃ back : Nat, index = -back := ⟨index.natAbs, by omega⟩
      have hlt : items.length - back < items.length := by omega
      exact ⟨items[items.length - back],
        .fromEnd (by omega) (by omega) (List.getElem?_eq_getElem hlt)⟩
    · obtain ⟨place, rfl⟩ : ∃ place : Nat, index = place := ⟨index.toNat, by omega⟩
      have hlt : place < items.length := by omega
      exact ⟨items[place], .start (List.getElem?_eq_getElem hlt)⟩

/-- An index of a countable list can be read. -/
theorem ItemAt.readIndex_eq {items : List Value} {index : Int} {item : Value}
    (h : ItemAt items index item) (hcountable : IsCountable items) :
    readIndex (Text.numeral index) = .ok index := by
  have hbound : index.natAbs ≤ items.length := by
    have hrange := exists_itemAt_iff.mp ⟨item, h⟩
    omega
  have hlt : index.natAbs < Nat.pow 10 maxDigits := Nat.lt_of_le_of_lt hbound hcountable
  exact readIndex_numeral (Text.length_digits_le (by decide) hlt)

/-- **The parts of an address lead to the value that it reaches.** -/
theorem Reaches.leads {hops : List Hop} {value target : Value} (h : Reaches hops value target) :
    Leads (hops.map Hop.part) value target := by
  induction h with
  | here value => exact .here value
  | @field name _ fields inner _ hfound _ ih =>
    refine .step (.field ?_) ih
    rw [Hop.part, String.ofList_toList]
    exact hfound
  | item hcountable hfound _ ih =>
    exact .step (.item (showsNumber_numeral _) (hfound.readIndex_eq hcountable) hfound) ih

/-- The path of an address that reaches a value is followed to it. -/
theorem Reaches.get_eq {data target : Value}
    (hreaches : Reaches (.field first :: segments.map Segment.hop) data target)
    (hplain : ∀ hop ∈ Hop.field first :: segments.map Segment.hop, hop.IsPlain) :
    get data (written first segments) = .ok target := by
  rw [get, parts_written hplain]
  exact hreaches.leads.follow_eq

/-- **The path of an address leads to the value there.** The names in it may look like numbers or be
empty, an index may be written behind a point or in brackets, and how it is written makes no
difference, also where the path leads to nothing. -/
theorem get_written {fields : Fields} {target : Value}
    (hreaches : Reaches (.field first :: segments.map Segment.hop) (.object fields) target)
    (hplain : ∀ hop ∈ Hop.field first :: segments.map Segment.hop, hop.IsPlain) :
    get (.object fields) (written first segments) = .ok target ∧
      ∀ segments' : List Segment, segments'.map Segment.hop = segments.map Segment.hop →
        ∀ data, get data (written first segments') = get data (written first segments) := by
  refine ⟨hreaches.get_eq hplain, fun segments' hhops data => ?_⟩
  have hplain' : ∀ hop ∈ Hop.field first :: segments'.map Segment.hop, hop.IsPlain := by
    rw [hhops]
    exact hplain
  rw [get, get, parts_written hplain, parts_written hplain', hhops]

/-- A value under an empty name, in a list that is counted from its end, under a name that is a
number. -/
theorem get_written_mixed :
    get (.object [("", .list [.null, .object [("0", .list [.text "last"])]])])
      (written "" [.bracketed (-1), .field "0", .pointed 0]) = .ok (.text "last") := by
  have hlast : ItemAt [.text "last"] (0 : Nat) (.text "last") := .start rfl
  have hpair : ItemAt [.null, .object [("0", .list [.text "last"])]] (-(1 : Nat))
      (.object [("0", .list [.text "last"])]) := .fromEnd (rfl : 1 + 1 = 2) (by decide) rfl
  have hreaches : Reaches (.field "" ::
        [Segment.bracketed (-1), .field "0", .pointed 0].map Segment.hop)
      (.object [("", .list [.null, .object [("0", .list [.text "last"])]])]) (.text "last") :=
    .field rfl (.item (by decide +kernel) hpair
      (.field rfl (.item (by decide +kernel) hlast (.here _))))
  exact (get_written hreaches (by decide)).1

end Stepwise.Path
