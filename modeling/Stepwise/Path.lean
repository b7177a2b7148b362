import Stepwise.Value
import Stepwise.Fault
import Stepwise.Text
import Stepwise.Binary64.Reading

/-! # Paths into values

A path such as `items[0].name` leads from a value to one inside it. `parts` takes a path apart: an
index in brackets is the same as one after a point, and the points separate the parts. `follow`
walks the parts: a part that shows a number selects from a list, counting from the end if it is
negative; any part selects a field of an object; where there is nothing to select the result is
null.

A part counts as a number if it consists of digits of any kind, but only decimal digits can be read
(`readIndex`); selecting from a list with a part such as `²` is therefore a fault. -/

namespace Stepwise.Path

/-! ## Taking a path apart -/

/-- The inside of a pair of brackets that holds an integer, and what follows the brackets; the
argument starts behind the opening bracket. -/
def bracketed? (cs : List Char) : Option (List Char × List Char) :=
  let (sign, digits) := match cs with
    | '-' :: rest => (['-'], rest)
    | rest => ([], rest)
  match digits.dropWhile Unicode.isDecimal with
  | ']' :: rest =>
    let number := digits.takeWhile Unicode.isDecimal
    if number.isEmpty then none else some (sign ++ number, rest)
  | _ => none

/-- What follows a pair of brackets is shorter than what follows the opening one. -/
theorem length_of_bracketed? {cs inside rest : List Char}
    (h : bracketed? cs = some (inside, rest)) : rest.length < cs.length := by
  have drop_le : ∀ ds : List Char, (ds.dropWhile Unicode.isDecimal).length ≤ ds.length :=
    fun ds => (List.dropWhile_suffix _).length_le
  unfold bracketed? at h
  split at h
  next sign digits hsplit =>
  have hdigits : digits.length ≤ cs.length := by
    split at hsplit <;> simp only [Prod.mk.injEq] at hsplit <;> obtain ⟨_, rfl⟩ := hsplit <;> simp
  split at h
  next tail heq =>
    have hdrop := drop_le digits
    rw [heq, List.length_cons] at hdrop
    simp only at h
    split at h
    · cases h
    · simp only [Option.some.injEq, Prod.mk.injEq] at h
      obtain ⟨_, rfl⟩ := h
      omega
  next => cases h

/-- A path in which every index in brackets is written after a point instead. -/
def dotted : List Char → List Char
  | [] => []
  | c :: cs =>
    if c = '[' then
      match _h : bracketed? cs with
      | some (inside, rest) => '.' :: (inside ++ dotted rest)
      | none => c :: dotted cs
    else c :: dotted cs
termination_by cs => cs.length
decreasing_by
  · have := length_of_bracketed? _h
    simp only [List.length_cons]
    omega
  · simp
  · simp

/-- The parts of a path. -/
def parts (path : String) : List (List Char) := Text.split '.' (dotted path.toList)

/-! ## Indices -/

/-- A part that shows a number: digits, perhaps after a minus sign. -/
def showsNumber : List Char → Bool
  | '-' :: digits => !digits.isEmpty && digits.all Unicode.isDigit
  | digits => !digits.isEmpty && digits.all Unicode.isDigit

/-- The greatest number of digits in an integer that is read. -/
def maxDigits : Nat := 4300

/-- The integer that a part shows; digits that are not decimal cannot be read. -/
def readIndex (part : List Char) : Except Fault Int :=
  let (negative, digits) := match part with
    | '-' :: digits => (true, digits)
    | digits => (false, digits)
  if !digits.all Unicode.isDecimal then .error (.notInteger (String.ofList part))
  else if maxDigits < digits.length then .error (.integerTooLong digits.length)
  else .ok (Binary64.signed negative (Binary64.natOfDigits (Binary64.westernDigits digits)))

/-- The element of a list at an index, counted from the end if it is negative. -/
def elementAt? (items : List Value) (index : Int) : Option Value :=
  if index < 0 then
    if -(items.length : Int) ≤ index then items[(items.length + index).toNat]? else none
  else items[index.toNat]?

/-! ## Following a path -/

/-- What one part selects from a value. -/
def select (part : List Char) : Value → Except Fault Value
  | .list items =>
    if showsNumber part then (readIndex part).map fun index => .ofOption (elementAt? items index)
    else .ok .null
  | .object fields => .ok (.field (String.ofList part) fields)
  | _ => .ok .null

/-- What a list of parts leads to from a value. -/
def follow : List (List Char) → Value → Except Fault Value
  | [], value => .ok value
  | part :: rest, value => do follow rest (← select part value)

/-- What a path leads to from a value. -/
def get (data : Value) (path : String) : Except Fault Value := follow (parts path) data

/-! ## Reading equations -/

@[simp] theorem follow_nil (value : Value) : follow [] value = .ok value := rfl

@[simp] theorem select_null (part : List Char) : select part .null = .ok .null := rfl

/-- From null, every path leads to null. -/
@[simp] theorem follow_null (ps : List (List Char)) : follow ps .null = .ok .null := by
  induction ps with
  | nil => rfl
  | cons part rest ih => simpa [follow, bind, Except.bind] using ih

/-- A concatenated path is followed part by part. -/
theorem follow_append (ps qs : List (List Char)) (value : Value) :
    follow (ps ++ qs) value = follow ps value >>= follow qs := by
  induction ps generalizing value with
  | nil => rfl
  | cons part rest ih =>
    simp only [List.cons_append, follow]
    cases select part value with
    | error fault => rfl
    | ok next => exact ih next

end Stepwise.Path
