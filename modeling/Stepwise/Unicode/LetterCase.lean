import Stepwise.Unicode.CaseTable

/-! # Upper and lower case

`upper` and `lower` map whole texts. Most characters map one by one by the runs of the case tables.
Three rules go beyond that: an upper case may have several characters (`ß` gives `SS`), a capital
dotted I becomes an i with a separate dot, and the lower case of a capital sigma depends on its
neighbours: it is the final form `ς` after a cased letter with no cased letter following, where
marks are skipped on both sides. -/

namespace Stepwise.Unicode

/-- The code point that a list of runs gives for `code`; a code point outside every run stays. -/
def applyRuns (runs : List CaseRun) (code : Nat) : Nat :=
  match runs.find? fun r =>
      r.first ≤ code && code ≤ r.last && (code - r.first) % r.step == 0 with
  | some r => ((code : Int) + r.shift).toNat
  | none => code

/-- The upper case of one character. -/
def upperChar (c : Char) : List Char :=
  match upperExpansions.lookup c.toNat with
  | some codes => codes.map Char.ofNat
  | none => [Char.ofNat (applyRuns upperRuns c.toNat)]

/-- The upper case of a text. -/
def upper (cs : List Char) : List Char := cs.flatMap upperChar

/-- A cased letter that is not a skipped mark. -/
def isCased (c : Char) : Bool :=
  casedRanges.any fun (first, last) => first ≤ c.toNat && c.toNat ≤ last

/-- A mark that is skipped when the neighbours of a letter are looked at. -/
def isSkipped (c : Char) : Bool :=
  skippedRanges.any fun (first, last) => first ≤ c.toNat && c.toNat ≤ last

/-- Whether the first character that is not skipped is a cased letter. -/
def startsCased (cs : List Char) : Bool :=
  match cs.find? (fun c => !isSkipped c) with
  | some c => isCased c
  | none => false

/-- The lower case of one character that is not a capital sigma. -/
def lowerChar (c : Char) : List Char :=
  if c.toNat = 0x130 then ['i', Char.ofNat 0x307]
  else [Char.ofNat (applyRuns lowerRuns c.toNat)]

/-- The lower case of a text that follows a cased letter (`casedBefore`) or does not. -/
def lowerAfter : Bool → List Char → List Char
  | _, [] => []
  | casedBefore, c :: cs =>
    let here :=
      if c = 'Σ' then (if casedBefore && !startsCased cs then ['ς'] else ['σ']) else lowerChar c
    here ++ lowerAfter (if isSkipped c then casedBefore else isCased c) cs

/-- The lower case of a text. -/
def lower (cs : List Char) : List Char := lowerAfter false cs

@[simp] theorem upper_nil : upper [] = [] := rfl

@[simp] theorem lower_nil : lower [] = [] := rfl

end Stepwise.Unicode
