import Stepwise.Value
import Stepwise.Fault
import Stepwise.Value.Display

/-! # Reading a value as fields

Fields may be given as an object or as a list of pairs. `Value.toFields` accepts either and also
takes any value that counts as false for no fields; `Value.assign` binds the pairs one by one and
keeps those bound before a pair that is refused. -/

namespace Stepwise.Value

/-- The elements of a value that can be taken apart: those of a list, the characters of a text, the
field names of an object. -/
def elements? : Value → Option (List Value)
  | list items => some items
  | text s => some (s.toList.map fun c => text (String.singleton c))
  | object fields => some (fields.map fun pair => text pair.1)
  | _ => none

/-- The name of a field given by a value. Lists and objects name nothing. Names are texts, so one
that is given by a number, a truth value or null is that of its text. -/
def fieldName : Value → Except Fault String
  | value@(list _) | value@(object _) => .error (.unhashable value.typeName)
  | value => .ok value.toText

/-- One entry of a list of pairs. -/
def entry (index : Nat) (value : Value) : Except Fault (String × Value) :=
  match value.elements? with
  | none => .error (.entryNotSequence index)
  | some [name, item] => do return (← name.fieldName, item)
  | some items => .error (.entryLength index items.length)

/-- The entries of a list of pairs from an index on, bound one after the other. -/
def bindEntries (bound : Fields) : Nat → List Value → Except Fault Fields
  | _, [] => .ok bound
  | index, value :: rest => do
    let (name, item) ← entry index value
    bindEntries (bound.put name item) (index + 1) rest

/-- The fields that a value gives: those of an object, or the pairs of a sequence; a value that
counts as false gives none. -/
def toFields (value : Value) : Except Fault Fields :=
  if !value.isTrue then .ok []
  else match value with
    | object fields => .ok fields
    | other => match other.elements? with
      | some items => bindEntries [] 0 items
      | none => .error (.notIterable other.typeName)

/-- The two elements of a pair. -/
def pair (value : Value) : Except Fault (String × Value) :=
  match value.elements? with
  | none => .error (.notPair value.typeName)
  | some [name, item] => do return (← name.fieldName, item)
  | some items => .error (if items.length < 2 then .pairTooShort items.length else .pairTooLong)

/-- Bind pairs one after the other up to the first that is refused: the fields then bound, and why
it was refused. -/
def assignPairs (bound : Fields) : List Value → Fields × Except Fault Unit
  | [] => (bound, .ok ())
  | value :: rest =>
    match pair value with
    | .ok (name, item) => assignPairs (bound.put name item) rest
    | .error fault => (bound, .error fault)

/-- Bind the fields of an object or the pairs of a sequence on top of those already bound. -/
def assign (bound : Fields) (value : Value) : Fields × Except Fault Unit :=
  match value with
  | object fields => (bound.putAll fields, .ok ())
  | other => match other.elements? with
    | some items => assignPairs bound items
    | none => (bound, .error (.notIterable other.typeName))

/-- The fields of a value that must be an object, of which the member `member` was asked for. -/
def fieldsFor (member : String) : Value → Except Fault Fields
  | object fields => .ok fields
  | other => .error (.noMember other.typeName member)

/-- An object gives its own fields. -/
@[simp] theorem toFields_object (fields : Fields) : toFields (object fields) = .ok fields := by
  cases fields <;> simp [toFields, isTrue]

@[simp] theorem toFields_null : toFields null = .ok [] := rfl

@[simp] theorem fieldsFor_object (member : String) (fields : Fields) :
    fieldsFor member (object fields) = .ok fields := rfl

end Stepwise.Value
