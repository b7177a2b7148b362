import Stepwise.Store
import Stepwise.Path
import Stepwise.Json.Writer

/-! # Templates

A text may refer to variables in *blocks*: two opening braces, at least one character that is not a
closing brace, two closing braces. `pieces` splits a text into its blocks and the characters between
them, each block being the first one in what is left of the text. `resolve` replaces every block by
the value of the variable it names and leaves all else as it is; a value put in is not looked at
again, so braces in it have no meaning.

`references` lists the names in the blocks of a value, and `resolveFields` resolves every text in a
configuration, at any depth. -/

namespace Stepwise.Template

/-! ## Blocks -/

/-- A character of a text, or the inside of a block. -/
inductive Piece where
  /-- A character outside every block. -/
  | literal (c : Char)
  /-- A block with what stands between its braces. -/
  | block (inside : List Char)
  deriving DecidableEq, Repr

/-- The block at the start of a text and what follows it, if the inside is acceptable. -/
def blockAt? (accepts : List Char → Bool) : List Char → Option (List Char × List Char)
  | '{' :: '{' :: cs =>
    match cs.dropWhile (· != '}') with
    | '}' :: '}' :: rest =>
      let inside := cs.takeWhile (· != '}')
      if !inside.isEmpty && accepts inside then some (inside, rest) else none
    | _ => none
  | _ => none

/-- What follows a block is shorter than the text that starts with it. -/
theorem length_of_blockAt? {accepts : List Char → Bool} {cs inside rest : List Char}
    (h : blockAt? accepts cs = some (inside, rest)) : rest.length < cs.length := by
  unfold blockAt? at h
  split at h
  next tail =>
    have hle : (tail.dropWhile (· != '}')).length ≤ tail.length :=
      (List.dropWhile_suffix _).length_le
    split at h
    next hdrop =>
      rw [hdrop] at hle
      simp only at h
      split at h
      · simp only [Option.some.injEq, Prod.mk.injEq] at h
        obtain ⟨_, rfl⟩ := h
        simp only [List.length_cons] at hle ⊢
        omega
      · cases h
    next => cases h
  next => cases h

/-- A text as its blocks with an acceptable inside and the characters between them. -/
def piecesWith (accepts : List Char → Bool) : List Char → List Piece
  | [] => []
  | c :: cs =>
    match _h : blockAt? accepts (c :: cs) with
    | some (inside, rest) => .block inside :: piecesWith accepts rest
    | none => .literal c :: piecesWith accepts cs
termination_by cs => cs.length
decreasing_by
  · exact length_of_blockAt? _h
  · simp

/-- A text as its blocks and the characters between them. -/
def pieces (cs : List Char) : List Piece := piecesWith (fun _ => true) cs

/-- A piece as it is written in the text. -/
def Piece.source : Piece → List Char
  | literal c => [c]
  | block inside => '{' :: '{' :: (inside ++ ['}', '}'])

/-- The inside of a block. -/
def Piece.inside? : Piece → Option (List Char)
  | literal _ => none
  | block inside => some inside

/-- The inside of a block, in order of occurrence. -/
def insides (accepts : List Char → Bool) (s : String) : List (List Char) :=
  (piecesWith accepts s.toList).filterMap Piece.inside?

/-- The variable names in the blocks of a text, in order of occurrence. -/
def textReferences (s : String) : List String :=
  (insides (fun _ => true) s).map fun inside => String.ofList (Text.trim inside)

/-- Whether a value is a text with a block. -/
def hasReference : Value → Bool
  | .text s => !(insides (fun _ => true) s).isEmpty
  | _ => false

/-! ## Look-up -/

/-- The value of a variable, or what a path starting with a variable leads to; null if there is
nothing of that name. A variable whose name looks like a path comes first. -/
def lookup (store : Store) (name : String) : Except Fault Value :=
  match store.get? name with
  | some value => .ok value
  | none =>
    if name.toList.contains '.' || name.toList.contains '[' then Path.get store.snapshot name
    else .ok .null

/-- The text that stands for a value in a resolved template, if the value can be written: nothing
for null, JSON for truth values, lists and objects. -/
def stringify : Value → String
  | .null => ""
  | value@(.bool _) | value@(.list _) | value@(.object _) => Json.write value
  | value => value.toText

/-! ## Resolution -/

/-- The text of one piece. -/
def resolvePiece (store : Store) : Piece → Except Fault (List Char)
  | .literal c => .ok [c]
  | .block inside => do
    return (stringify (← lookup store (String.ofList (Text.trim inside)))).toList

/-- The text of a list of pieces. -/
def resolvePieces (store : Store) : List Piece → Except Fault (List Char)
  | [] => .ok []
  | piece :: rest => do return (← resolvePiece store piece) ++ (← resolvePieces store rest)

/-- A text with every block replaced by the value of its variable. -/
def resolve (store : Store) (s : String) : Except Fault String := do
  return String.ofList (← resolvePieces store (pieces s.toList))

mutual

/-- A value with every text in it resolved. -/
def resolveValue (store : Store) : Value → Except Fault Value
  | .text s => do return .text (← resolve store s)
  | .list items => do return .list (← resolveItems store items)
  | .object fields => do return .object (← resolveFields store fields)
  | value => .ok value

/-- A list with every text in it resolved. -/
def resolveItems (store : Store) : List Value → Except Fault (List Value)
  | [] => .ok []
  | value :: rest => do return (← resolveValue store value) :: (← resolveItems store rest)

/-- Fields with every text in them resolved; the names stay as they are. -/
def resolveFields (store : Store) : List (String × Value) → Except Fault (List (String × Value))
  | [] => .ok []
  | (name, value) :: rest => do
    return (name, ← resolveValue store value) :: (← resolveFields store rest)

end

/-! ## References -/

mutual

/-- The variable names in the blocks of every text in a value, in order of occurrence. -/
def references : Value → List String
  | .text s => textReferences s
  | .list items => itemReferences items
  | .object fields => fieldReferences fields
  | _ => []

/-- The variable names in a list. -/
def itemReferences : List Value → List String
  | [] => []
  | value :: rest => references value ++ itemReferences rest

/-- The variable names in fields. -/
def fieldReferences : List (String × Value) → List String
  | [] => []
  | (_, value) :: rest => references value ++ fieldReferences rest

end

/-- The names among the given ones that a resolution finds unbound, up to the first name whose
look-up fails. -/
def unbound (store : Store) : List String → List String
  | [] => []
  | name :: rest =>
    match lookup store name with
    | .error _ => []
    | .ok value => if value.isNull then name :: unbound store rest else unbound store rest

/-! ## Laws -/

@[simp] theorem pieces_nil : pieces [] = [] := by
  unfold pieces piecesWith
  rfl

@[simp] theorem stringify_null : stringify .null = "" := rfl

@[simp] theorem stringify_text (s : String) : stringify (.text s) = s := rfl

/-- Two lists of pieces are resolved one after the other. -/
theorem resolvePieces_append (store : Store) (ps qs : List Piece) :
    resolvePieces store (ps ++ qs) =
      (do return (← resolvePieces store ps) ++ (← resolvePieces store qs)) := by
  induction ps with
  | nil =>
    cases h : resolvePieces store qs <;>
      simp [resolvePieces, h, bind, Except.bind, pure, Except.pure]
  | cons piece rest ih =>
    simp only [List.cons_append, resolvePieces, ih]
    cases resolvePiece store piece <;> cases resolvePieces store rest <;>
      cases resolvePieces store qs <;> simp [bind, Except.bind, pure, Except.pure]

/-- Resolving keeps the names of the fields and their order. -/
theorem names_resolveFields {store : Store} {fields resolved : List (String × Value)}
    (h : resolveFields store fields = .ok resolved) :
    Bindings.names resolved = Bindings.names fields := by
  induction fields generalizing resolved with
  | nil =>
    simp only [resolveFields, Except.ok.injEq] at h
    rw [← h]
  | cons pair rest ih =>
    obtain ⟨name, value⟩ := pair
    simp only [resolveFields] at h
    cases hv : resolveValue store value with
    | error fault => simp [hv, bind, Except.bind] at h
    | ok v =>
      cases hr : resolveFields store rest with
      | error fault => simp [hv, hr, bind, Except.bind] at h
      | ok r =>
        simp only [hv, hr, bind, Except.bind, pure, Except.pure, Except.ok.injEq] at h
        rw [← h, Bindings.names_cons, Bindings.names_cons, ih hr]

end Stepwise.Template
