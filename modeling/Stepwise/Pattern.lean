import Stepwise.Pattern.Presentation

/-! # Patterns

A pattern is a text with placeholders in braces, such as `geo:{latitude},{longitude:.2f}`: a name,
possibly followed by members of its value, a conversion after `!`, and a layout after `:`. A doubled
brace stands for a single one. A layout may itself hold placeholders, whose layouts may not.

`Pattern.pieces` takes a text apart; a piece that is not well formed ends the list and carries its
fault, so that the pieces before it are still filled, and their faults found, first. `Pattern.fill`
fills the placeholders from named values. -/

namespace Stepwise.Pattern

/-! ## Taking a pattern apart -/

/-- A placeholder. -/
structure Placeholder where
  /-- The name of a value and the members to follow. -/
  name : List Char
  /-- The letter after the exclamation mark. -/
  conversion : Option Char
  /-- How to write the value. -/
  layout : List Char
  deriving DecidableEq, Repr

/-- A part of a pattern. -/
inductive Piece where
  /-- A character that stands for itself. -/
  | literal (c : Char)
  /-- A value to be written. -/
  | placeholder (p : Placeholder)
  /-- The rest of a pattern that cannot be taken apart. -/
  | broken (fault : PatternFault)
  deriving DecidableEq, Repr

/-- A name, the character that ends it, and what follows; whatever stands in brackets belongs to the
name. -/
def takeName : Bool → List Char → Except PatternFault (List Char × Char × List Char)
  | _, [] => .error .unclosed
  | inBrackets, c :: cs =>
    if !inBrackets && c == '\x7b' then .error .braceInName
    else if !inBrackets && (c == '\x7d' || c == ':' || c == '!') then .ok ([], c, cs)
    else
      match takeName (if inBrackets then c != ']' else c == '[') cs with
      | .ok (name, stop, rest) => .ok (c :: name, stop, rest)
      | .error fault => .error fault

/-- How many braces are open after a character. -/
def depthAfter (c : Char) (depth : Nat) : Nat :=
  if c == '\x7b' then depth + 1 else if c == '\x7d' then depth - 1 else depth

/-- A layout and what follows the brace that closes it, `depth` braces being open within it. -/
def takeLayout : Nat → List Char → Except PatternFault (List Char × List Char)
  | _, [] => .error .layoutUnclosed
  | depth, c :: cs =>
    if c == '\x7d' && depth == 0 then .ok ([], cs)
    else
      match takeLayout (depthAfter c depth) cs with
      | .ok (layout, rest) => .ok (c :: layout, rest)
      | .error fault => .error fault

/-- A placeholder whose name and conversion are known, and what follows it. -/
def closePlaceholder (name : List Char) (conversion : Option Char) (cs : List Char) :
    Except PatternFault (Placeholder × List Char) :=
  match takeLayout 0 cs with
  | .ok (layout, rest) => .ok (⟨name, conversion, layout⟩, rest)
  | .error fault => .error fault

/-- The conversion of a letter; the character NUL asks for none. -/
def conversionOf (letter : Char) : Option Char := if letter == '\x00' then none else some letter

/-- A placeholder whose opening brace has been taken, and what follows it. -/
def takePlaceholder (cs : List Char) : Except PatternFault (Placeholder × List Char) :=
  match takeName false cs with
  | .error fault => .error fault
  | .ok (name, stop, rest) =>
    if stop == '\x7d' then .ok (⟨name, none, []⟩, rest)
    else if stop == ':' then closePlaceholder name none rest
    else
      match rest with
      | [] => .error .conversionMissing
      | [_] => .error .layoutUnclosed
      | letter :: next :: rest =>
        if next == '\x7d' then .ok (⟨name, conversionOf letter, []⟩, rest)
        else if next == ':' then closePlaceholder name (conversionOf letter) rest
        else .error .conversionFollowed

/-- A name leaves less than it was taken from. -/
theorem takeName_length {inBrackets : Bool} {cs name rest : List Char} {stop : Char}
    (h : takeName inBrackets cs = .ok (name, stop, rest)) : rest.length < cs.length := by
  induction cs generalizing inBrackets name stop with
  | nil => simp [takeName] at h
  | cons c cs ih =>
    unfold takeName at h
    split at h
    · simp at h
    · split at h
      · simp_all
      · split at h
        · rename_i heq
          simp only [Except.ok.injEq, Prod.mk.injEq] at h
          obtain ⟨-, -, rfl⟩ := h
          exact Nat.lt_succ_of_lt (ih heq)
        · simp at h

/-- A layout leaves less than it was taken from. -/
theorem takeLayout_length {depth : Nat} {cs layout rest : List Char}
    (h : takeLayout depth cs = .ok (layout, rest)) : rest.length < cs.length := by
  induction cs generalizing depth layout with
  | nil => simp [takeLayout] at h
  | cons c cs ih =>
    unfold takeLayout at h
    split at h
    · simp_all
    · split at h
      · rename_i heq
        simp only [Except.ok.injEq, Prod.mk.injEq] at h
        obtain ⟨-, rfl⟩ := h
        exact Nat.lt_succ_of_lt (ih heq)
      · simp at h

/-- Closing a placeholder leaves less than it was given. -/
theorem closePlaceholder_length {name cs rest : List Char} {conversion : Option Char}
    {p : Placeholder} (h : closePlaceholder name conversion cs = .ok (p, rest)) :
    rest.length < cs.length := by
  unfold closePlaceholder at h
  split at h
  · rename_i heq
    simp only [Except.ok.injEq, Prod.mk.injEq] at h
    obtain ⟨-, rfl⟩ := h
    exact takeLayout_length heq
  · simp at h

/-- A placeholder leaves less than it was taken from. -/
theorem takePlaceholder_length {cs rest : List Char} {p : Placeholder}
    (h : takePlaceholder cs = .ok (p, rest)) : rest.length < cs.length := by
  unfold takePlaceholder at h
  split at h
  · simp at h
  · rename_i name stop after heq
    have hname := takeName_length heq
    split at h
    · simp_all
    · split at h
      · exact Nat.lt_trans (closePlaceholder_length h) hname
      · split at h
        · simp at h
        · simp at h
        · simp only [List.length_cons] at hname
          split at h
          · simp only [Except.ok.injEq, Prod.mk.injEq] at h
            obtain ⟨-, rfl⟩ := h
            omega
          · split at h
            · have := closePlaceholder_length h
              omega
            · simp at h

/-- The pieces of a pattern. -/
def pieces : List Char → List Piece
  | [] => []
  | [c] => if c == '\x7b' || c == '\x7d' then [.broken (.loneBrace c)] else [.literal c]
  | c :: next :: rest =>
    if c == '\x7b' || c == '\x7d' then
      if next == c then .literal c :: pieces rest
      else if c == '\x7d' then [.broken (.loneBrace c)]
      else
        match h : takePlaceholder (next :: rest) with
        | .error fault => [.broken fault]
        | .ok (p, after) =>
          have : after.length < rest.length + 1 := takePlaceholder_length h
          .placeholder p :: pieces after
    else .literal c :: pieces (next :: rest)
termination_by cs => cs.length

/-! ## Members -/

/-- One step from a value to a value within it. -/
inductive Member where
  /-- A property of the value, after a point. -/
  | property (name : String)
  /-- An element under a name, in brackets. -/
  | key (name : String)
  /-- An element under a number, in brackets. -/
  | index (n : Nat)
  /-- The rest of a name that cannot be taken apart. -/
  | broken (fault : PatternFault)
  deriving DecidableEq, Repr

/-- The member that stands in brackets: under a number if it is written in digits only. -/
def bracketed (name : List Char) : Member :=
  match takeNumber name with
  | .error fault => .broken fault
  | .ok (some n, []) => .index n
  | .ok _ => .key (String.ofList name)

/-- The members of a name, from the point or bracket on that ends its first part. -/
def members : List Char → List Member
  | [] => []
  | c :: cs =>
    if c == '.' then
      let name := cs.takeWhile fun c => c != '.' && c != '['
      if name.isEmpty then [.broken .emptyMember]
      else .property (String.ofList name) :: members (cs.drop name.length)
    else if c == '[' then
      let name := cs.takeWhile (· != ']')
      if name.isEmpty then [.broken .emptyMember]
      else bracketed name :: members (cs.drop (name.length + 1))
    else [.broken .bracketFollowed]
termination_by cs => cs.length
decreasing_by all_goals simp only [List.length_drop, List.length_cons]; omega

/-- The properties of numbers: a number is its own real part. -/
def property? (name : String) : Value → Option Value
  | .bool b => intProperty? b.toInt
  | .int n => intProperty? n
  | .float x =>
    if name = "real" then some (.float x)
    else if name = "imag" then some (.float (Binary64.zero false))
    else none
  | _ => none
where
  /-- The properties of an integer, which is also a fraction. -/
  intProperty? (n : Int) : Option Value :=
    if name = "real" || name = "numerator" then some (.int n)
    else if name = "imag" then some (.int 0)
    else if name = "denominator" then some (.int 1)
    else none

/-- The value within a value that a member leads to. -/
def Member.follow (value : Value) : Member → Except Fault Value
  | property name =>
    match property? name value with
    | some found => .ok found
    | none => .error (.noMember value.typeName name)
  | key name =>
    match value with
    | .object fields =>
      match Bindings.find? name fields with
      | some found => .ok found
      | none => .error (.missingKey (some name))
    | .list _ | .text _ => .error (.pattern (.memberNotNumbered value.typeName))
    | _ => .error (.pattern (.notSubscriptable value.typeName))
  | index n =>
    match value with
    | .list items =>
      match items[n]? with
      | some found => .ok found
      | none => .error (.pattern (.memberOutOfRange value.typeName))
    | .text s =>
      match s.toList[n]? with
      | some c => .ok (.text (String.singleton c))
      | none => .error (.pattern (.memberOutOfRange value.typeName))
    | .object _ => .error (.pattern (.memberNotNamed n))
    | _ => .error (.pattern (.notSubscriptable value.typeName))
  | broken fault => .error (.pattern fault)

/-! ## Filling a pattern -/

/-- The value that a name leads to. The values have names only, so neither a number nor the lack of
a name leads to one. -/
def lookUp (values : Fields) (name : List Char) : Except Fault Value := do
  let (first, rest) := Text.spanUntil (fun c => c == '.' || c == '[') name
  match ← (takeNumber first).mapError .pattern with
  | (some n, []) => throw (.pattern (.noPosition n))
  | _ =>
    if first.isEmpty then throw (.pattern (.noPosition 0))
    match values.find? (String.ofList first) with
    | none => throw (.missingKey (some (String.ofList first)))
    | some value => (members rest).foldlM Member.follow value

/-- The value that a conversion makes of a value: its text, its literal, or its literal in ASCII. -/
def convert (value : Value) : Option Char → Except Fault Value
  | none => .ok value
  | some 's' => .ok (.text value.toText)
  | some 'r' => .ok (.text value.literal)
  | some 'a' => .ok (.text (Text.escapeBeyondAscii value.literal))
  | some letter => .error (.pattern (.unknownConversion letter))

/-- The text of a pattern in which layouts may be nested to a depth below the given one. -/
def fillWithin (values : Fields) : Nat → List Char → Except Fault (List Char)
  | 0, _ => .error (.pattern .tooDeep)
  | depth + 1, cs => do
    let texts ← (pieces cs).mapM fun
      | .literal c => pure [c]
      | .broken fault => throw (.pattern fault)
      | .placeholder p => do
        let value ← convert (← lookUp values p.name) p.conversion
        let layout ← if p.layout.contains '\x7b' then fillWithin values depth p.layout
          else pure p.layout
        value.present layout
    return texts.flatten

/-- The text of a pattern with its placeholders filled from named values. -/
def fill (pattern : String) (values : Fields) : Except Fault String :=
  (fillWithin values 2 pattern.toList).map String.ofList

end Stepwise.Pattern
