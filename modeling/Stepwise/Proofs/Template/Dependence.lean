import Stepwise.Proofs.Template.Totality

/-! # What a configuration depends on

The references of a configuration are all that resolving it depends on. Two stores in which each
reference stands for the same text (`shown?`) resolve the configuration alike, or both fail to
(`resolveFields_congr`). This goes along the recursion over values: the collector of references and
the resolution visit the same texts.

A configuration without references is resolved to itself in every store (`resolveFields_eq_self`).
Conversely, over no variables at all every block is replaced by nothing, and the text becomes
shorter by it (`Cuts.length_fill`), so only a configuration without references is left as it is
(`fieldReferences_eq_nil`). -/

namespace Stepwise.Template

variable {store store' : Store}

/-! ## The texts that names stand for -/

/-- The text that a name stands for in a template, unless its look-up fails. -/
def shown? (store : Store) (name : String) : Option String :=
  (lookup store name).toOption.map stringify

/-- **Two stores show names alike**: each of them stands for the same text in both, or can be looked
up in neither. Whatever else tells the values apart does not matter. -/
def ShowAlike (store store' : Store) (names : List String) : Prop :=
  ∀ name ∈ names, shown? store name = shown? store' name

/-- Names of two parts are shown alike if those of each part are. -/
theorem showAlike_append {names names' : List String} :
    ShowAlike store store' (names ++ names') ↔
      ShowAlike store store' names ∧ ShowAlike store store' names' :=
  List.forall_mem_append

/-- Names that are looked up alike are shown alike. -/
theorem showAlike_of_lookup {names : List String}
    (h : ∀ name ∈ names, lookup store name = lookup store' name) :
    ShowAlike store store' names := by
  intro name hname
  rw [shown?, h name hname, shown?]

/-! ## Resolving alike -/

/-- The text of a block is the one that its name stands for. -/
theorem toOption_resolvePiece_block (store : Store) (inside : List Char) :
    (resolvePiece store (.block inside)).toOption =
      (shown? store (String.ofList (Text.trim inside))).map String.toList := by
  rw [resolvePiece, shown?]
  cases lookup store (String.ofList (Text.trim inside)) with
  | error fault => rfl
  | ok value => rfl

/-- Pieces whose blocks name what is shown alike are resolved alike. -/
theorem resolvePieces_congr {pieces : List Piece}
    (h : ∀ inside ∈ pieces.filterMap Piece.inside?,
      shown? store (String.ofList (Text.trim inside)) =
        shown? store' (String.ofList (Text.trim inside))) :
    (resolvePieces store pieces).toOption = (resolvePieces store' pieces).toOption := by
  induction pieces with
  | nil => rfl
  | cons piece rest ih =>
    have hpiece : (resolvePiece store piece).toOption = (resolvePiece store' piece).toOption ∧
        (resolvePieces store rest).toOption = (resolvePieces store' rest).toOption := by
      cases piece with
      | literal c => exact ⟨rfl, ih h⟩
      | block inside =>
        -- the inside of the block is the first that is collected
        have hinsides : (Piece.block inside :: rest).filterMap Piece.inside? =
            inside :: rest.filterMap Piece.inside? := rfl
        rw [hinsides, List.forall_mem_cons] at h
        rw [toOption_resolvePiece_block, toOption_resolvePiece_block, h.1]
        exact ⟨rfl, ih h.2⟩
    simp only [resolvePieces, toOption_bind, hpiece.1, hpiece.2]

/-- **A text** is resolved alike where its references are shown alike. -/
theorem resolve_congr {s : String} (h : ShowAlike store store' (textReferences s)) :
    (resolve store s).toOption = (resolve store' s).toOption := by
  have hpieces : (resolvePieces store (pieces s.toList)).toOption =
      (resolvePieces store' (pieces s.toList)).toOption := by
    refine resolvePieces_congr fun inside hinside => h _ ?_
    exact List.mem_map_of_mem hinside
  rw [resolve, toOption_bind, hpieces, resolve, toOption_bind]

mutual

/-- A value is resolved alike where its references are shown alike. -/
theorem resolveValue_congr (item : Value) (h : ShowAlike store store' (references item)) :
    (resolveValue store item).toOption = (resolveValue store' item).toOption := by
  cases item with
  | null => rfl
  | bool => rfl
  | int => rfl
  | float => rfl
  | text s =>
    rw [resolveValue, toOption_bind, resolve_congr h, resolveValue, toOption_bind]
  | list items =>
    rw [resolveValue, toOption_bind, resolveItems_congr items h, resolveValue, toOption_bind]
  | object fields =>
    rw [resolveValue, toOption_bind, resolveFields_congr fields h, resolveValue, toOption_bind]

/-- A list is resolved alike where its references are shown alike. -/
theorem resolveItems_congr (items : List Value)
    (h : ShowAlike store store' (itemReferences items)) :
    (resolveItems store items).toOption = (resolveItems store' items).toOption := by
  cases items with
  | nil => rfl
  | cons item rest =>
    obtain ⟨hitem, hrest⟩ := showAlike_append.mp h
    simp only [resolveItems, toOption_bind, resolveValue_congr item hitem,
      resolveItems_congr rest hrest]

/-- **Fields** are resolved alike where their references are shown alike. -/
theorem resolveFields_congr (fields : List (String × Value))
    (h : ShowAlike store store' (fieldReferences fields)) :
    (resolveFields store fields).toOption = (resolveFields store' fields).toOption := by
  cases fields with
  | nil => rfl
  | cons field rest =>
    obtain ⟨name, item⟩ := field
    obtain ⟨hitem, hrest⟩ := showAlike_append.mp h
    simp only [resolveFields, toOption_bind, resolveValue_congr item hitem,
      resolveFields_congr rest hrest]

end

/-! ## Resolving without references -/

mutual

/-- A value without references is resolved to itself. -/
theorem resolveValue_eq_self (item : Value) (h : references item = []) :
    resolveValue store item = .ok item := by
  cases item with
  | null => rfl
  | bool => rfl
  | int => rfl
  | float => rfl
  | text s =>
    have hnone : hasReference (.text s) = false := by
      have hinsides : insides (fun _ => true) s = [] := List.map_eq_nil_iff.mp h
      rw [hasReference, hinsides]
      rfl
    rw [resolveValue, resolve_eq_self hnone]
    rfl
  | list items =>
    rw [resolveValue, resolveItems_eq_self items h]
    rfl
  | object fields =>
    rw [resolveValue, resolveFields_eq_self fields h]
    rfl

/-- A list without references is resolved to itself. -/
theorem resolveItems_eq_self (items : List Value) (h : itemReferences items = []) :
    resolveItems store items = .ok items := by
  cases items with
  | nil => rfl
  | cons item rest =>
    obtain ⟨hitem, hrest⟩ := List.append_eq_nil_iff.mp h
    rw [resolveItems, resolveValue_eq_self item hitem, resolveItems_eq_self rest hrest]
    rfl

/-- **Fields without references** are resolved to themselves. -/
theorem resolveFields_eq_self (fields : List (String × Value)) (h : fieldReferences fields = []) :
    resolveFields store fields = .ok fields := by
  cases fields with
  | nil => rfl
  | cons field rest =>
    obtain ⟨name, item⟩ := field
    obtain ⟨hitem, hrest⟩ := List.append_eq_nil_iff.mp h
    rw [resolveFields, resolveValue_eq_self item hitem, resolveFields_eq_self rest hrest]
    rfl

end

/-! ## Resolving over no variables -/

/-- Without variables every name stands for nothing. -/
theorem lookup_empty (name : String) : lookup {} name = .ok .null := by
  rw [lookup_of_unbound rfl]
  split
  · show Path.follow (Path.parts name) (.object []) = .ok .null
    cases hparts : Path.parts name with
    | nil => exact absurd hparts (Text.split_ne_nil _ _)
    | cons part rest => exact Path.follow_null rest
  · rfl

/-- **Every block that is replaced by nothing makes a text shorter.** -/
theorem Cuts.length_fill {accepts : List Char → Bool} {cs last : List Char} {blocks : List Block}
    (h : Cuts accepts cs blocks last) :
    (fill (fun _ => .null) blocks last).length + blocks.length ≤ cs.length := by
  induction h with
  | tail => exact Nat.le_refl _
  | @block before inside rest last blocks hinside hfirst hcut ih =>
    simp only [fill, stringify_null, String.toList_empty, List.append_nil, List.length_append,
      List.length_cons, written, List.length_nil]
    omega

/-- Over no variables, only a text without blocks is left as it is. -/
theorem textReferences_eq_nil {s : String} (h : resolve {} s = .ok s) : textReferences s = [] := by
  obtain ⟨blocks, last, hcut, -⟩ := exists_cuts (fun _ => true) s.toList
  have hresolve : resolve {} s = .ok (String.ofList (fill (fun _ => .null) blocks last)) :=
    resolve_eq hcut fun name _ => lookup_empty name
  have hfill : fill (fun _ => .null) blocks last = s.toList := by
    have hsame := congrArg String.toList (Except.ok.inj (hresolve.symm.trans h))
    rwa [String.toList_ofList] at hsame
  -- a block would have made the text shorter than it is
  have hlength := hcut.length_fill
  rw [hfill] at hlength
  have hnone : blocks = [] := List.length_eq_zero_iff.mp (by omega)
  rw [textReferences_eq hcut, hnone]
  rfl

mutual

/-- Over no variables, only a value without references is left as it is. -/
theorem references_eq_nil (item : Value) (h : resolveValue {} item = .ok item) :
    references item = [] := by
  cases item with
  | null => rfl
  | bool => rfl
  | int => rfl
  | float => rfl
  | text s =>
    obtain ⟨resolved, hresolved, heq⟩ := bind_eq_ok_iff.mp h
    rw [Value.text.inj (Except.ok.inj heq)] at hresolved
    exact textReferences_eq_nil hresolved
  | list items =>
    obtain ⟨resolved, hresolved, heq⟩ := bind_eq_ok_iff.mp h
    rw [Value.list.inj (Except.ok.inj heq)] at hresolved
    exact itemReferences_eq_nil items hresolved
  | object fields =>
    obtain ⟨resolved, hresolved, heq⟩ := bind_eq_ok_iff.mp h
    rw [Value.object.inj (Except.ok.inj heq)] at hresolved
    exact fieldReferences_eq_nil fields hresolved

/-- Over no variables, only a list without references is left as it is. -/
theorem itemReferences_eq_nil (items : List Value) (h : resolveItems {} items = .ok items) :
    itemReferences items = [] := by
  cases items with
  | nil => rfl
  | cons item rest =>
    obtain ⟨head, hhead, h⟩ := bind_eq_ok_iff.mp h
    obtain ⟨tail, htail, heq⟩ := bind_eq_ok_iff.mp h
    obtain ⟨hitem, hrest⟩ := List.cons.inj (Except.ok.inj heq)
    rw [hitem] at hhead
    rw [hrest] at htail
    exact List.append_eq_nil_iff.mpr
      ⟨references_eq_nil item hhead, itemReferences_eq_nil rest htail⟩

/-- **Over no variables**, only fields without references are left as they are. -/
theorem fieldReferences_eq_nil (fields : List (String × Value))
    (h : resolveFields {} fields = .ok fields) : fieldReferences fields = [] := by
  cases fields with
  | nil => rfl
  | cons field rest =>
    obtain ⟨name, item⟩ := field
    obtain ⟨head, hhead, h⟩ := bind_eq_ok_iff.mp h
    obtain ⟨tail, htail, heq⟩ := bind_eq_ok_iff.mp h
    obtain ⟨hfield, hrest⟩ := List.cons.inj (Except.ok.inj heq)
    rw [(Prod.mk.inj hfield).2] at hhead
    rw [hrest] at htail
    exact List.append_eq_nil_iff.mpr
      ⟨references_eq_nil item hhead, fieldReferences_eq_nil rest htail⟩

end

/-! ## The references are complete -/

/-- **The references of a configuration are all that it depends on.** Stores that show them alike
resolve it to the same configuration, or both fail to. There are none exactly if the configuration
is left as it is over no variables, and then it is over all. -/
theorem resolves_by_references (config : Fields) :
    (∀ store store' : Store, ShowAlike store store' (fieldReferences config) →
      (resolveFields store config).toOption = (resolveFields store' config).toOption) ∧
    (fieldReferences config = [] ↔ resolveFields {} config = .ok config) ∧
    (fieldReferences config = [] →
      ∀ store : Store, resolveFields store config = .ok config) := by
  refine ⟨?_, ⟨?_, ?_⟩, ?_⟩
  · intro store store' halike
    exact resolveFields_congr config halike
  · exact resolveFields_eq_self config
  · exact fieldReferences_eq_nil config
  · intro hnone store
    exact resolveFields_eq_self config hnone

/-- Other variables than those of `guests`, but for the one that the greeting names. The text of
`name` looks like a reference to `x`, which is another one here. -/
def strangers : Store := ⟨[("x", .bool true), ("name", .text "\x7b\x7bx\x7d\x7d")]⟩

/-- Texts with braces, of which none are blocks. -/
def braces : Fields :=
  [("a", .text "\x7b\x7b\x7d\x7d"), ("b", .list [.text "\x7bx\x7d\x7d", .int 1])]

/-- The greetings are resolved alike for strangers, and are not left as they are over no variables;
texts without blocks are left as they are. -/
theorem resolves_by_references_strangers :
    (resolveFields guests greetings).toOption = (resolveFields strangers greetings).toOption ∧
      resolveFields {} greetings ≠ .ok greetings ∧ resolveFields guests braces = .ok braces := by
  have hnames : fieldReferences greetings = ["name", "nobody", "name", "nobody"] := by
    decide +kernel
  have halike : ShowAlike guests strangers (fieldReferences greetings) := by
    refine showAlike_of_lookup fun name hname => ?_
    simp only [hnames, List.mem_cons, List.not_mem_nil, or_false] at hname
    rcases hname with rfl | rfl | rfl | rfl <;> rfl
  obtain ⟨hsame, hiff, -⟩ := resolves_by_references greetings
  refine ⟨hsame guests strangers halike, ?_, ?_⟩
  · rw [Ne, ← hiff, hnames]
    exact List.cons_ne_nil _ _
  · exact (resolves_by_references braces).2.2 (by decide +kernel) guests

end Stepwise.Template
