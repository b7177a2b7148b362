import Stepwise.Text
import Mathlib.Data.List.Basic
import Mathlib.Data.List.TakeWhile

/-! # Texts without blanks at their ends

A trimmed text has no blanks at its ends (`IsTrimmed`, `isTrimmed_trimmed`). Such a text may be put
between blanks (`IsPadded`), and trimming gives it back (`IsPadded.trimmed_eq`). Trimming leaves
something of every text that is not blank itself (`isBlank_trimmed`). -/

namespace Stepwise.Text

/-- **A text without blanks at its ends**: its first and its last character are not blank. -/
def IsTrimmed (s : String) : Prop :=
  (∀ c ∈ s.toList.head?, Unicode.isBlank c = false) ∧
    ∀ c ∈ s.toList.getLast?, Unicode.isBlank c = false

/-- **A text in padding**: the text between blanks, if there are any. -/
def IsPadded (s padded : String) : Prop :=
  ∃ before after : String, isBlank before = true ∧ isBlank after = true ∧
    padded = before ++ s ++ after

/-! ## Blank texts -/

/-- A text is blank if it is put together from blank ones. -/
theorem isBlank_append (s t : String) : isBlank (s ++ t) = (isBlank s && isBlank t) := by
  rw [isBlank, String.toList_append, List.all_append]
  rfl

/-- A text that has no blanks at its ends and is not empty is not blank. -/
theorem isBlank_eq_false {s : String} (htrimmed : trimmed s = s) (hne : s ≠ "") :
    isBlank s = false := by
  rw [← Bool.not_eq_true, isBlank, List.all_eq_true]
  intro hblank
  have hstart : trimStart s.toList = [] := by
    rw [trimStart, List.dropWhile_eq_nil_iff]
    exact hblank
  rw [trimmed, trim, hstart] at htrimmed
  exact hne htrimmed.symm

/-- A text that is not blank is not empty. -/
theorem ne_empty_of_isBlank {s : String} (h : isBlank s = false) : s ≠ "" := by
  rintro rfl
  cases h

/-! ## What trimming leaves -/

/-- The first character that is left at the start is not blank. -/
theorem head?_trimStart {cs : List Char} {c : Char} (h : c ∈ (trimStart cs).head?) :
    Unicode.isBlank c = false := by
  have hhead := List.head?_dropWhile_not Unicode.isBlank cs
  rw [trimStart] at h
  rw [Option.mem_def.mp h] at hhead
  simpa using hhead

/-- Trimming the start leaves the end as it is, if anything is left. -/
theorem getLast?_trimStart {cs : List Char} {c : Char} (h : c ∈ (trimStart cs).getLast?) :
    c ∈ cs.getLast? := by
  obtain ⟨before, hsplit⟩ := List.dropWhile_suffix (l := cs) Unicode.isBlank
  rw [← hsplit]
  exact List.mem_getLast?_append_of_mem_getLast? h

/-- **A trimmed text** has no blanks at its ends. -/
theorem isTrimmed_trimmed (s : String) : IsTrimmed (trimmed s) := by
  rw [IsTrimmed, trimmed, String.toList_ofList, trim, trimEnd, List.head?_reverse,
    List.getLast?_reverse]
  constructor
  · intro c hc
    have hlast := getLast?_trimStart hc
    rw [List.getLast?_reverse] at hlast
    exact head?_trimStart hlast
  · intro c hc
    exact head?_trimStart hc

/-- What does not start with a blank still starts in the same way once it is trimmed. -/
theorem trim_cons {c : Char} (hc : Unicode.isBlank c = false) (cs : List Char) :
    ∃ rest, trim (c :: cs) = c :: rest := by
  have hstart : trimStart (c :: cs) = c :: cs := by
    rw [trimStart, List.dropWhile_cons_of_neg (by rw [hc]; exact Bool.false_ne_true)]
  have hend : ∀ front : List Char, ∃ rest, trimStart (front ++ [c]) = rest ++ [c] := by
    intro front
    induction front with
    | nil =>
      refine ⟨[], ?_⟩
      rw [List.nil_append, trimStart,
        List.dropWhile_cons_of_neg (by rw [hc]; exact Bool.false_ne_true)]
    | cons d front ih =>
      rw [List.cons_append, trimStart, List.dropWhile_cons]
      split
      · exact ih
      · exact ⟨d :: front, rfl⟩
  obtain ⟨rest, hrest⟩ := hend cs.reverse
  refine ⟨rest.reverse, ?_⟩
  rw [trim, hstart, trimEnd, List.reverse_cons, hrest, List.reverse_append]
  rfl

/-- Trimming leaves something of a text that is not blank. -/
theorem isBlank_trimmed {s : String} (h : isBlank s = false) : isBlank (trimmed s) = false := by
  have hstart : trimStart s.toList ≠ [] := by
    rw [trimStart, Ne, List.dropWhile_eq_nil_iff]
    intro hall
    rw [isBlank, List.all_eq_false] at h
    obtain ⟨c, hc, hblank⟩ := h
    exact hblank (hall c hc)
  obtain ⟨c, rest, hcons⟩ := List.exists_cons_of_ne_nil hstart
  have hc : Unicode.isBlank c = false := head?_trimStart (by rw [hcons]; rfl)
  -- what is left at the start stays where it is, whatever becomes of the end
  obtain ⟨rest', htrim⟩ := trim_cons hc rest
  have hsame : trim s.toList = trim (c :: rest) := by
    rw [trim, trim, hcons, trimStart,
      List.dropWhile_cons_of_neg (by rw [hc]; exact Bool.false_ne_true)]
  rw [isBlank, trimmed, String.toList_ofList, hsame, htrim, List.all_cons, hc, Bool.false_and]

/-! ## Padding -/

/-- What does not start with a blank has nothing to trim there. -/
theorem trimStart_eq_self {cs : List Char} (h : ∀ c ∈ cs.head?, Unicode.isBlank c = false) :
    trimStart cs = cs := by
  cases cs with
  | nil => rfl
  | cons c cs =>
    have hc : Unicode.isBlank c = false := h c rfl
    rw [trimStart, List.dropWhile_cons_of_neg (by rw [hc]; exact Bool.false_ne_true)]

/-- Blanks at the start are trimmed. -/
theorem trimStart_append {before : List Char} (h : ∀ c ∈ before, Unicode.isBlank c = true)
    (cs : List Char) : trimStart (before ++ cs) = trimStart cs :=
  List.dropWhile_append_of_pos h

/-- **Padding is trimmed** and the text in it is not. -/
theorem IsPadded.trimmed_eq {s padded : String} (h : IsPadded s padded) (hs : IsTrimmed s)
    (hne : s ≠ "") : trimmed padded = s := by
  obtain ⟨before, after, hbefore, hafter, rfl⟩ := h
  rw [isBlank, List.all_eq_true] at hbefore hafter
  have hafter' : ∀ c ∈ after.toList.reverse, Unicode.isBlank c = true := by
    intro c hc
    exact hafter c (List.mem_reverse.mp hc)
  -- the start of what is left is that of the text, so the blanks behind it stay for the end
  have hhead : (s.toList ++ after.toList).head? = s.toList.head? :=
    List.head?_append_of_ne_nil _ fun hnil => hne (String.toList_eq_nil_iff.mp hnil)
  have hstart : trimStart (s.toList ++ after.toList) = s.toList ++ after.toList := by
    refine trimStart_eq_self ?_
    rw [hhead]
    exact hs.1
  have hend : trimStart s.toList.reverse = s.toList.reverse := by
    refine trimStart_eq_self ?_
    rw [List.head?_reverse]
    exact hs.2
  rw [trimmed, String.toList_append, String.toList_append, List.append_assoc, trim,
    trimStart_append hbefore, hstart, trimEnd, List.reverse_append, trimStart_append hafter', hend,
    List.reverse_reverse, String.ofList_toList]

/-- In its padding a text that is not blank is not blank either. -/
theorem IsPadded.isBlank_eq {s padded : String} (h : IsPadded s padded) (hs : isBlank s = false) :
    isBlank padded = false := by
  obtain ⟨before, after, -, -, rfl⟩ := h
  rw [isBlank_append, isBlank_append, hs, Bool.and_false, Bool.false_and]

/-- What is no blank stands in the text and not in its padding. -/
theorem IsPadded.mem_of_mem {s padded : String} (h : IsPadded s padded) {c : Char}
    (hc : Unicode.isBlank c = false) (hmem : c ∈ padded.toList) : c ∈ s.toList := by
  obtain ⟨before, after, hbefore, hafter, rfl⟩ := h
  rw [isBlank, List.all_eq_true] at hbefore hafter
  rw [String.toList_append, String.toList_append, List.mem_append, List.mem_append] at hmem
  rcases hmem with (hmem | hmem) | hmem
  · exact absurd (hbefore c hmem) (by rw [hc]; exact Bool.false_ne_true)
  · exact hmem
  · exact absurd (hafter c hmem) (by rw [hc]; exact Bool.false_ne_true)

end Stepwise.Text
