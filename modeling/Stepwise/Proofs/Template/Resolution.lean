import Stepwise.Proofs.Template.Blocks

/-! # What resolving comes to

Resolving a text cuts it at its blocks and puts the value of the named variable in the place of
each: `fill value blocks last` says so without scanning anything, so that braces in a value have
no meaning. `FilledFields value config resolved` carries it to configurations: every text in it,
at any depth, is filled, and all else is as it was.

The references of a text are the variables that its blocks name (`textReferences_eq`), and wherever
no look-up fails, a text and a configuration are resolved by filling (`resolve_eq`,
`resolveFields_filled`). -/

namespace Stepwise.Template

variable {store : Store} {value : String → Value}

/-- A text is cut at all its blocks, whatever stands in them. -/
abbrev CutsText (s : String) (blocks : List Block) (last : List Char) : Prop :=
  Cuts (fun _ => true) s.toList blocks last

/-- The variable that a block names. -/
def Block.name (block : Block) : String := String.ofList (Text.trim block.inside)

/-- The literal parts of a text with the values of the variables between them: nothing for null. -/
def fill (value : String → Value) : List Block → List Char → List Char
  | [], last => last
  | block :: rest, last =>
    block.before ++ (stringify (value block.name)).toList ++ fill value rest last

/-- **No look-up fails**: each of the variables has the given value. -/
def Answers (store : Store) (value : String → Value) (names : List String) : Prop :=
  ∀ name ∈ names, lookup store name = .ok (value name)

/-- The variables of two parts have their values if those of each part do. -/
theorem answers_append {names names' : List String} :
    Answers store value (names ++ names') ↔
      Answers store value names ∧ Answers store value names' :=
  List.forall_mem_append

/-! ## Texts -/

/-- **The references of a text** are the variables that its blocks name, in order. -/
theorem textReferences_eq {s : String} {blocks : List Block} {last : List Char}
    (h : CutsText s blocks last) : textReferences s = blocks.map Block.name := by
  rw [textReferences, insides, h.pieces_eq, insides_layout, List.map_map]
  rfl

/-- **A text has a reference** exactly if there is a block in it. -/
theorem hasReference_iff {s : String} {blocks : List Block} {last : List Char}
    (h : CutsText s blocks last) : hasReference (.text s) = true ↔ 0 < blocks.length := by
  rw [hasReference, insides, h.pieces_eq, insides_layout, List.isEmpty_map, Bool.not_eq_true',
    List.isEmpty_eq_false_iff, List.length_pos_iff]

/-- Characters are resolved to themselves. -/
theorem resolvePieces_literals (store : Store) (cs : List Char) :
    resolvePieces store (cs.map .literal) = .ok cs := by
  induction cs with
  | nil => rfl
  | cons c cs ih =>
    rw [List.map_cons, resolvePieces, ih]
    rfl

/-- **The pieces of a cut** are resolved to its literal parts and the values between them. -/
theorem resolvePieces_layout {blocks : List Block} {last : List Char}
    (h : Answers store value (blocks.map Block.name)) :
    resolvePieces store (layout blocks last) = .ok (fill value blocks last) := by
  induction blocks with
  | nil => exact resolvePieces_literals store last
  | cons block rest ih =>
    rw [List.map_cons] at h
    have hblock : resolvePiece store (.block block.inside) =
        .ok (stringify (value block.name)).toList := by
      have hlookup : lookup store block.name = .ok (value block.name) := h _ List.mem_cons_self
      rw [resolvePiece, ← Block.name, hlookup]
      rfl
    have hrest : resolvePieces store (layout rest last) = .ok (fill value rest last) :=
      ih fun name hname => h name (List.mem_cons_of_mem _ hname)
    rw [layout, resolvePieces_append, resolvePieces_literals, resolvePieces, hblock, hrest, fill,
      List.append_assoc]
    rfl

/-- **A text is resolved** to its literal parts and the values between them. -/
theorem resolve_eq {s : String} {blocks : List Block} {last : List Char}
    (h : CutsText s blocks last) (hanswers : Answers store value (textReferences s)) :
    resolve store s = .ok (String.ofList (fill value blocks last)) := by
  rw [textReferences_eq h] at hanswers
  rw [resolve, pieces, h.pieces_eq, resolvePieces_layout hanswers]
  rfl

/-- A text without a block is resolved to itself. -/
theorem resolve_eq_self {s : String} (h : hasReference (.text s) = false) :
    resolve store s = .ok s := by
  obtain ⟨blocks, last, hcut, -⟩ := exists_cuts (fun _ => true) s.toList
  have hnone : blocks = [] := by
    have hiff := hasReference_iff hcut
    rw [h, List.length_pos_iff] at hiff
    by_cases hblocks : blocks = []
    · exact hblocks
    · exact absurd (hiff.mpr hblocks) Bool.false_ne_true
  subst hnone
  -- there is no name whose look-up could fail
  have hanswers : Answers store (fun _ => .null) (textReferences s) := by
    rw [textReferences_eq hcut]
    exact List.forall_mem_nil _
  rw [resolve_eq hcut hanswers, fill, hcut.eq_of_nil, String.ofList_toList]

/-! ## Configurations -/

mutual

/-- **A value with every text in it filled**, all else being as it was. -/
inductive Filled (value : String → Value) : Value → Value → Prop
  /-- Null. -/
  | null : Filled value .null .null
  /-- A truth value. -/
  | bool (b : Bool) : Filled value (.bool b) (.bool b)
  /-- An integer. -/
  | int (n : Int) : Filled value (.int n) (.int n)
  /-- A binary64 number. -/
  | float (x : Binary64) : Filled value (.float x) (.float x)
  /-- A text that is cut at its blocks, and filled. -/
  | text {s : String} {blocks : List Block} {last : List Char} (cut : CutsText s blocks last) :
      Filled value (.text s) (.text (String.ofList (fill value blocks last)))
  /-- A list, item by item. -/
  | list {items filled : List Value} (h : FilledItems value items filled) :
      Filled value (.list items) (.list filled)
  /-- An object, field by field. -/
  | object {fields filled : List (String × Value)} (h : FilledFields value fields filled) :
      Filled value (.object fields) (.object filled)

/-- A list with every text in it filled: as many items, in the same order. -/
inductive FilledItems (value : String → Value) : List Value → List Value → Prop
  /-- No items. -/
  | nil : FilledItems value [] []
  /-- An item and those behind it. -/
  | cons {item filled : Value} {items rest : List Value} (head : Filled value item filled)
      (tail : FilledItems value items rest) : FilledItems value (item :: items) (filled :: rest)

/-- Fields with every text in them filled: the same names, in the same order. -/
inductive FilledFields (value : String → Value) :
    List (String × Value) → List (String × Value) → Prop
  /-- No fields. -/
  | nil : FilledFields value [] []
  /-- A field and those behind it. -/
  | cons {name : String} {item filled : Value} {fields rest : List (String × Value)}
      (head : Filled value item filled) (tail : FilledFields value fields rest) :
      FilledFields value ((name, item) :: fields) ((name, filled) :: rest)

end

mutual

/-- A value is resolved by filling every text in it. -/
theorem resolveValue_filled (item : Value) (h : Answers store value (references item)) :
    ∃ resolved, resolveValue store item = .ok resolved ∧ Filled value item resolved := by
  cases item with
  | null => exact ⟨_, rfl, .null⟩
  | bool b => exact ⟨_, rfl, .bool b⟩
  | int n => exact ⟨_, rfl, .int n⟩
  | float x => exact ⟨_, rfl, .float x⟩
  | text s =>
    obtain ⟨blocks, last, hcut, -⟩ := exists_cuts (fun _ => true) s.toList
    have hresolve := resolve_eq hcut h
    refine ⟨_, ?_, .text hcut⟩
    rw [resolveValue, hresolve]
    rfl
  | list items =>
    obtain ⟨resolved, hresolved, hfilled⟩ := resolveItems_filled items h
    refine ⟨_, ?_, .list hfilled⟩
    rw [resolveValue, hresolved]
    rfl
  | object fields =>
    obtain ⟨resolved, hresolved, hfilled⟩ := resolveFields_filled fields h
    refine ⟨_, ?_, .object hfilled⟩
    rw [resolveValue, hresolved]
    rfl

/-- A list is resolved by filling every text in it. -/
theorem resolveItems_filled (items : List Value)
    (h : Answers store value (itemReferences items)) :
    ∃ resolved, resolveItems store items = .ok resolved ∧ FilledItems value items resolved := by
  cases items with
  | nil => exact ⟨_, rfl, .nil⟩
  | cons item rest =>
    obtain ⟨hhead, htail⟩ := answers_append.mp h
    obtain ⟨head, hhead, hfilled⟩ := resolveValue_filled item hhead
    obtain ⟨tail, htail, hrest⟩ := resolveItems_filled rest htail
    refine ⟨head :: tail, ?_, .cons hfilled hrest⟩
    rw [resolveItems, hhead, htail]
    rfl

/-- Fields are resolved by filling every text in them. -/
theorem resolveFields_filled (fields : List (String × Value))
    (h : Answers store value (fieldReferences fields)) :
    ∃ resolved, resolveFields store fields = .ok resolved ∧
      FilledFields value fields resolved := by
  cases fields with
  | nil => exact ⟨_, rfl, .nil⟩
  | cons field rest =>
    obtain ⟨name, item⟩ := field
    obtain ⟨hhead, htail⟩ := answers_append.mp h
    obtain ⟨head, hhead, hfilled⟩ := resolveValue_filled item hhead
    obtain ⟨tail, htail, hrest⟩ := resolveFields_filled rest htail
    refine ⟨(name, head) :: tail, ?_, .cons hfilled hrest⟩
    rw [resolveFields, hhead, htail]
    rfl

end

/-- **Resolving is filling the blocks.** Every text is cut at its blocks in one way; its references
are the variables that they name, and it has a reference if there are any. Where no look-up fails,
the text is resolved by putting the values in the place of the blocks, and a configuration by doing
so for every text in it. -/
theorem resolves_by_blocks (store : Store) (value : String → Value) :
    (∀ s : String, ∃ blocks last,
      (∀ blocks' last', CutsText s blocks' last' ↔ blocks' = blocks ∧ last' = last) ∧
      references (.text s) = blocks.map Block.name ∧
      (hasReference (.text s) = true ↔ 0 < blocks.length) ∧
      (Answers store value (references (.text s)) →
        resolve store s = .ok (String.ofList (fill value blocks last)))) ∧
    ∀ config : Fields, Answers store value (fieldReferences config) →
      ∃ resolved, resolveFields store config = .ok resolved ∧
        FilledFields value config resolved := by
  constructor
  · intro s
    obtain ⟨blocks, last, hcut, -⟩ := exists_cuts (fun _ => true) s.toList
    refine ⟨blocks, last, ?_, textReferences_eq hcut, hasReference_iff hcut, resolve_eq hcut⟩
    intro blocks' last'
    constructor
    · intro hcut'
      exact hcut'.unique hcut
    · rintro ⟨rfl, rfl⟩
      exact hcut
  · intro config hanswers
    exact resolveFields_filled config hanswers

/-- A greeting with a block of a bound variable, one of a variable that is not bound, and no
block. -/
def greeting : String := "Hi \x7b \x7b\x7b name \x7d\x7d\x7b\x7bnobody\x7d\x7d, \x7b\x7b\x7d\x7d"

/-- The variables of the greeting; the text of `name` looks like a block. -/
def guests : Store := ⟨[("name", .text "\x7b\x7bx\x7d\x7d"), ("x", .int 1)]⟩

/-- The values of the variables that the greeting names. -/
def guest (name : String) : Value := if name = "name" then .text "\x7b\x7bx\x7d\x7d" else .null

/-- The greeting twice, once inside a list next to a number. -/
def greetings : Fields :=
  [("subject", .text greeting), ("lines", .list [.int 1, .text greeting])]

/-- The text of `name` is put in and not looked at again, at any depth. -/
theorem resolves_by_blocks_greeting :
    (∃ blocks last, CutsText greeting blocks last ∧
      blocks.map Block.name = ["name", "nobody"] ∧
      String.ofList (fill guest blocks last) = "Hi \x7b \x7b\x7bx\x7d\x7d, \x7b\x7b\x7d\x7d") ∧
    ∃ resolved, resolveFields guests greetings = .ok resolved ∧
      FilledFields guest greetings resolved := by
  have hlookup : ∀ names : List String, names.all (["name", "nobody"].contains ·) = true →
      Answers guests guest names := by
    intro names hnames name hname
    have hmem : name ∈ ["name", "nobody"] :=
      List.contains_iff_mem.mp (List.all_eq_true.mp hnames name hname)
    rw [List.mem_cons, List.mem_singleton] at hmem
    rcases hmem with rfl | rfl
    · rfl
    · rfl
  obtain ⟨htext, hfields⟩ := resolves_by_blocks guests guest
  obtain ⟨blocks, last, hcuts, hreferences, -, hresolve⟩ := htext greeting
  have hnames : references (.text greeting) = ["name", "nobody"] := by decide +kernel
  have hvalue : (resolve guests greeting).toOption =
      some "Hi \x7b \x7b\x7bx\x7d\x7d, \x7b\x7b\x7d\x7d" := by
    decide +kernel
  rw [hresolve (hlookup _ (by decide +kernel))] at hvalue
  exact ⟨⟨blocks, last, (hcuts blocks last).mpr ⟨rfl, rfl⟩, hreferences.symm.trans hnames,
    Option.some.inj hvalue⟩, hfields greetings (hlookup _ (by decide +kernel))⟩

end Stepwise.Template
