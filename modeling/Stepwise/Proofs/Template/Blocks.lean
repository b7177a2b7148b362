import Stepwise.Template

/-! # Cutting a text at its blocks

What it means that a text is cut at its blocks, said without scanning it: `Cuts accepts cs blocks
last` holds if the first block of `cs` stands behind a literal part in which none starts, the rest
is cut in the same way, and no block occurs in `last`.

Every text is cut in one way only (`Cuts.unique`), and `piecesWith` finds it (`Cuts.pieces_eq`): the
two searches for the next block, by position and character by character, agree. -/

namespace Stepwise.Template

variable {accepts : List Char → Bool}

/-! ## Occurrences -/

/-- A block as it is written. -/
def written (inside : List Char) : List Char := '{' :: '{' :: (inside ++ ['}', '}'])

/-- **What may stand inside a block**: at least one character, none of them a closing brace. -/
structure IsInside (accepts : List Char → Bool) (inside : List Char) : Prop where
  /-- A block is not empty. -/
  ne_nil : inside ≠ []
  /-- A block ends at its first closing brace. -/
  free : '}' ∉ inside
  /-- The inside is one that is looked for. -/
  accepted : accepts inside = true

/-- **A block occurs in a text** from a position on. -/
def OccursAt (accepts : List Char → Bool) (inside cs : List Char) (position : Nat) : Prop :=
  IsInside accepts inside ∧ ∃ rest, cs.drop position = written inside ++ rest

/-- Behind the first character, a block occurs one position earlier in what is left. -/
theorem occursAt_cons_succ {inside cs : List Char} {c : Char} {position : Nat} :
    OccursAt accepts inside (c :: cs) (position + 1) ↔ OccursAt accepts inside cs position :=
  Iff.rfl

/-- No block occurs in the empty text. -/
theorem not_occursAt_nil (inside : List Char) (position : Nat) :
    ¬ OccursAt accepts inside [] position := by
  rintro ⟨-, rest, h⟩
  rw [List.drop_nil] at h
  cases h

/-- **The block at the start of a text** is found exactly where one is written. -/
theorem blockAt?_eq_some_iff {cs inside rest : List Char} :
    blockAt? accepts cs = some (inside, rest) ↔
      IsInside accepts inside ∧ cs = written inside ++ rest := by
  constructor
  · intro h
    unfold blockAt? at h
    split at h
    next tail =>
      split at h
      next after hdrop =>
        simp only at h
        split at h
        next hinside =>
          obtain ⟨rfl, rfl⟩ := Prod.mk.inj (Option.some.inj h)
          simp only [Bool.and_eq_true, Bool.not_eq_true', List.isEmpty_eq_false_iff] at hinside
          refine ⟨⟨hinside.1, ?_, hinside.2⟩, ?_⟩
          · intro hmem
            simpa using List.all_eq_true.mp List.all_takeWhile _ hmem
          · have htail : tail.takeWhile (· != '}') ++ '}' :: '}' :: after = tail := by
              rw [← hdrop]
              exact List.takeWhile_append_dropWhile
            rw [written, List.cons_append, List.cons_append, List.append_assoc]
            exact congrArg (fun tail => '{' :: '{' :: tail) htail.symm
        next => cases h
      next => cases h
    next => cases h
  · rintro ⟨hinside, rfl⟩
    -- the scan stops at the first closing brace, which is the one behind the inside
    have hfree : ∀ c ∈ inside, (c != '}') = true := by
      intro c hc
      rw [bne_iff_ne]
      rintro rfl
      exact hinside.free hc
    have hdrop : (inside ++ '}' :: '}' :: rest).dropWhile (· != '}') = '}' :: '}' :: rest :=
      List.dropWhile_append_of_pos hfree
    have htake : (inside ++ '}' :: '}' :: rest).takeWhile (· != '}') = inside := by
      rw [List.takeWhile_append_of_pos hfree]
      simp
    have hwritten : written inside ++ rest = '{' :: '{' :: (inside ++ '}' :: '}' :: rest) := by
      simp [written]
    rw [hwritten, blockAt?]
    simp [hdrop, htake, hinside.accepted, hinside.ne_nil]

/-- Where no block is found at the start of a text, none occurs there. -/
theorem not_occursAt_zero {cs : List Char} (h : blockAt? accepts cs = none) (inside : List Char) :
    ¬ OccursAt accepts inside cs 0 := by
  rintro ⟨hinside, rest, hcs⟩
  have hfound : blockAt? accepts cs = some (inside, rest) :=
    blockAt?_eq_some_iff.mpr ⟨hinside, hcs⟩
  rw [h] at hfound
  cases hfound

/-- **A block ends where it ends**: the same text does not start with two different ones. -/
theorem written_append_inj {inside inside' rest rest' : List Char} (h : IsInside accepts inside)
    (h' : IsInside accepts inside') (heq : written inside ++ rest = written inside' ++ rest') :
    inside = inside' ∧ rest = rest' := by
  have hfound : blockAt? accepts (written inside ++ rest) = some (inside, rest) :=
    blockAt?_eq_some_iff.mpr ⟨h, rfl⟩
  have hfound' : blockAt? accepts (written inside ++ rest) = some (inside', rest') :=
    blockAt?_eq_some_iff.mpr ⟨h', heq⟩
  exact Prod.mk.inj (Option.some.inj (hfound.symm.trans hfound'))

/-! ## Cuts -/

/-- A block of a text with the literal part before it. -/
structure Block where
  /-- What stands between this block and the one before it. -/
  before : List Char
  /-- What stands between the braces. -/
  inside : List Char
  deriving DecidableEq, Repr

/-- **A text is cut at its blocks**, from left to right, each of them the first one that occurs in
what is left of the text; no block occurs in the last part. -/
inductive Cuts (accepts : List Char → Bool) : List Char → List Block → List Char → Prop
  /-- A text in which no block occurs. -/
  | tail {last : List Char} (free : ∀ position inside, ¬ OccursAt accepts inside last position) :
      Cuts accepts last [] last
  /-- A text with a block, in front of which none occurs. -/
  | block {before inside rest last : List Char} {blocks : List Block}
      (isInside : IsInside accepts inside)
      (first : ∀ position < before.length, ∀ other,
        ¬ OccursAt accepts other (before ++ (written inside ++ rest)) position)
      (cut : Cuts accepts rest blocks last) :
      Cuts accepts (before ++ (written inside ++ rest)) (⟨before, inside⟩ :: blocks) last

/-- A text without blocks is its own last part. -/
theorem Cuts.eq_of_nil {cs last : List Char} (h : Cuts accepts cs [] last) : last = cs := by
  cases h with
  | tail => rfl

/-- A block occurs behind the literal part before it. -/
theorem occursAt_length (before : List Char) {inside : List Char} (rest : List Char)
    (h : IsInside accepts inside) :
    OccursAt accepts inside (before ++ (written inside ++ rest)) before.length :=
  ⟨h, rest, List.drop_left⟩

/-- **A text is cut in one way only.** -/
theorem Cuts.unique {cs last last' : List Char} {blocks blocks' : List Block}
    (h : Cuts accepts cs blocks last) (h' : Cuts accepts cs blocks' last') :
    blocks = blocks' ∧ last = last' := by
  induction h generalizing blocks' last' with
  | tail hfree =>
    cases h' with
    | tail => exact ⟨rfl, rfl⟩
    | block hinside => exact absurd (occursAt_length _ _ hinside) (hfree _ _)
  | @block before inside rest last blocks hinside hfirst _ ih =>
    generalize hcs : before ++ (written inside ++ rest) = cs at h' hfirst
    cases h' with
    | tail hfree =>
      rw [← hcs] at hfree
      exact absurd (occursAt_length _ _ hinside) (hfree _ _)
    | @block before' inside' rest' _ blocks' hinside' hfirst' hrest' =>
      -- neither first block stands in front of the other
      have hge : ¬ before'.length < before.length := by
        intro hlt
        exact hfirst _ hlt _ (occursAt_length _ _ hinside')
      have hle : ¬ before.length < before'.length := by
        intro hlt
        have hoccurs := occursAt_length before rest hinside
        rw [hcs] at hoccurs
        exact hfirst' _ hlt _ hoccurs
      have hlength : before.length = before'.length := by omega
      obtain ⟨rfl, hwritten⟩ := List.append_inj hcs hlength
      obtain ⟨rfl, rfl⟩ := written_append_inj hinside hinside' hwritten
      obtain ⟨rfl, rfl⟩ := ih hrest'
      exact ⟨rfl, rfl⟩

/-! ## The scan -/

/-- The pieces of a text that is cut at its blocks. -/
def layout : List Block → List Char → List Piece
  | [], last => last.map .literal
  | block :: rest, last =>
    block.before.map .literal ++ .block block.inside :: layout rest last

/-- A block at the start of a text is its first piece. -/
theorem piecesWith_written {inside rest : List Char} (h : IsInside accepts inside) :
    piecesWith accepts (written inside ++ rest) = .block inside :: piecesWith accepts rest := by
  have hfound : blockAt? accepts (written inside ++ rest) = some (inside, rest) :=
    blockAt?_eq_some_iff.mpr ⟨h, rfl⟩
  have hcons : written inside ++ rest = '{' :: ('{' :: (inside ++ ['}', '}']) ++ rest) := rfl
  rw [hcons] at hfound ⊢
  rw [piecesWith]
  split
  next heq =>
    rw [hfound] at heq
    obtain ⟨rfl, rfl⟩ := Prod.mk.inj (Option.some.inj heq)
    rfl
  next heq =>
    rw [hfound] at heq
    cases heq

/-- A character with which no block starts is a piece by itself. -/
theorem piecesWith_cons {c : Char} {cs : List Char} (h : blockAt? accepts (c :: cs) = none) :
    piecesWith accepts (c :: cs) = .literal c :: piecesWith accepts cs := by
  rw [piecesWith]
  split
  next heq =>
    rw [h] at heq
    cases heq
  next => rfl

/-- A character with which no block starts belongs to the first literal part. -/
theorem Cuts.cons {cs last : List Char} {blocks : List Block} (h : Cuts accepts cs blocks last)
    {c : Char} (hnone : blockAt? accepts (c :: cs) = none) :
    ∃ blocks' last', Cuts accepts (c :: cs) blocks' last' ∧
      layout blocks' last' = .literal c :: layout blocks last := by
  cases h with
  | tail hfree =>
    refine ⟨[], c :: cs, .tail ?_, rfl⟩
    intro position inside
    cases position with
    | zero => exact not_occursAt_zero hnone inside
    | succ position =>
      rw [occursAt_cons_succ]
      exact hfree position inside
  | @block before inside rest _ blocks hinside hfirst hrest =>
    have hfirst' : ∀ position < (c :: before).length, ∀ other,
        ¬ OccursAt accepts other (c :: before ++ (written inside ++ rest)) position := by
      intro position hposition other
      cases position with
      | zero => exact not_occursAt_zero hnone other
      | succ position =>
        rw [List.cons_append, occursAt_cons_succ]
        exact hfirst position (Nat.lt_of_succ_lt_succ hposition) other
    exact ⟨⟨c :: before, inside⟩ :: blocks, last, .block hinside hfirst' hrest, rfl⟩

/-- **Every text is cut at its blocks**, and its pieces are laid out accordingly. -/
theorem exists_cuts (accepts : List Char → Bool) (cs : List Char) :
    ∃ blocks last, Cuts accepts cs blocks last ∧ piecesWith accepts cs = layout blocks last := by
  induction cs using piecesWith.induct accepts with
  | case1 =>
    refine ⟨[], [], .tail fun position inside => not_occursAt_nil inside position, ?_⟩
    rw [piecesWith]
    rfl
  | case2 c cs inside rest hblock ih =>
    obtain ⟨blocks, last, hcuts, hpieces⟩ := ih
    obtain ⟨hinside, hcs⟩ := blockAt?_eq_some_iff.mp hblock
    have hfirst : ∀ position < ([] : List Char).length, ∀ other,
        ¬ OccursAt accepts other ([] ++ (written inside ++ rest)) position := by
      intro position hposition
      cases hposition
    rw [hcs]
    refine ⟨⟨[], inside⟩ :: blocks, last, .block hinside hfirst hcuts, ?_⟩
    rw [piecesWith_written hinside, hpieces]
    rfl
  | case3 c cs hblock ih =>
    obtain ⟨blocks, last, hcuts, hpieces⟩ := ih
    obtain ⟨blocks', last', hcuts', hlayout⟩ := hcuts.cons hblock
    refine ⟨blocks', last', hcuts', ?_⟩
    rw [piecesWith_cons hblock, hpieces, hlayout]

/-- **The pieces of a text are those of its cut.** -/
theorem Cuts.pieces_eq {cs last : List Char} {blocks : List Block}
    (h : Cuts accepts cs blocks last) : piecesWith accepts cs = layout blocks last := by
  obtain ⟨blocks', last', hcuts, hpieces⟩ := exists_cuts accepts cs
  obtain ⟨rfl, rfl⟩ := h.unique hcuts
  exact hpieces

/-- The insides of the blocks of a text, in order of occurrence. -/
theorem insides_layout (blocks : List Block) (last : List Char) :
    (layout blocks last).filterMap Piece.inside? = blocks.map Block.inside := by
  have hliteral : ∀ cs : List Char, (cs.map Piece.literal).filterMap Piece.inside? = [] := by
    intro cs
    rw [List.filterMap_eq_nil_iff]
    intro piece hpiece
    obtain ⟨c, -, rfl⟩ := List.mem_map.mp hpiece
    rfl
  induction blocks with
  | nil => exact hliteral last
  | cons block rest ih =>
    rw [layout, List.filterMap_append, hliteral, List.nil_append, List.map_cons, ← ih]
    rfl

end Stepwise.Template
