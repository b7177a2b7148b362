import Stepwise.Proofs.Path.Addresses
import Stepwise.Proofs.Template.Resolution

/-! # When a template can be resolved

A name *denotes* the variable that has it, or what it leads to as a path, or null if there is
neither (`Denotes`). It is *misread* if no variable has it and as a path it stumbles: it comes to a
list with a number that cannot be read (`IsMisread`).

The main statement is `gives_unless_misread`. Looking up a name fails exactly if the name is
misread. A text or a configuration cannot be resolved if one of its references is, and is resolved
if all are legible (`IsLegible`): not misread, and denoting what can be written as a text. A name
that denotes nothing leaves nothing in the text. -/

namespace Stepwise

namespace Template

variable {α : Type} {store : Store}

/-! ## Names -/

/-- A name with a point or an opening bracket may be a path. -/
def mayBePath (name : String) : Bool := name.toList.contains '.' || name.toList.contains '['

/-- **What a name denotes** in a store. -/
inductive Denotes (store : Store) (name : String) : Value → Prop
  /-- The value of the variable that has the name. -/
  | bound {value : Value} (found : store.get? name = some value) : Denotes store name value
  /-- What the name leads to as a path, if no variable has it. -/
  | path {value : Value} (unbound : store.get? name = none) (shape : mayBePath name = true)
      (leads : Path.Leads (Path.parts name) store.snapshot value) : Denotes store name value
  /-- Null, if there is neither. -/
  | nothing (unbound : store.get? name = none)
      (nowhere : mayBePath name = true →
        ∀ other, ¬ Path.Leads (Path.parts name) store.snapshot other) : Denotes store name .null

/-- **A name is misread** in a store: no variable has it, and as a path it stumbles. -/
def IsMisread (store : Store) (name : String) : Prop :=
  store.get? name = none ∧ mayBePath name = true ∧
    Path.Stumbles (Path.parts name) store.snapshot

/-- A name that no variable has is looked up as a path, if it may be one. -/
theorem lookup_of_unbound {name : String} (h : store.get? name = none) :
    lookup store name =
      if mayBePath name then Path.get store.snapshot name else .ok .null := by
  rw [lookup, h]
  rfl

/-- **Looking a name up** gives what it denotes, unless it is misread. -/
theorem lookup_givesUnless (store : Store) (name : String) :
    GivesUnless (IsMisread store name) (Denotes store name) (lookup store name) := by
  cases hget : store.get? name with
  | some value =>
    have hlookup : lookup store name = .ok value := by
      rw [lookup, hget]
    constructor
    · rintro ⟨hunbound, -⟩
      rw [hget] at hunbound
      cases hunbound
    · intro _
      exact ⟨value, hlookup, .bound hget⟩
  | none =>
    rw [lookup_of_unbound hget]
    by_cases hpath : mayBePath name = true
    · rw [if_pos hpath]
      obtain ⟨hfault, hvalue⟩ := Path.get_givesUnless store.snapshot name
      constructor
      · rintro ⟨-, -, hstumbles⟩
        exact hfault hstumbles
      · intro hfree
        obtain ⟨value, hget', hfinds⟩ := hvalue fun hstumbles => hfree ⟨hget, hpath, hstumbles⟩
        refine ⟨value, hget', ?_⟩
        rcases hfinds with hleads | ⟨rfl, hnone⟩
        · exact .path hget hpath hleads
        · exact .nothing hget fun _ => hnone
    · rw [if_neg hpath]
      constructor
      · rintro ⟨-, hpath', -⟩
        exact absurd hpath' hpath
      · intro _
        exact ⟨.null, rfl, .nothing hget fun hpath' => absurd hpath' hpath⟩

/-- A name has a value exactly if it is not misread. -/
theorem exists_lookup_iff {name : String} :
    (∃ value, lookup store name = .ok value) ↔ ¬ IsMisread store name := by
  obtain ⟨hfault, hvalue⟩ := lookup_givesUnless store name
  constructor
  · rintro ⟨value, hlookup⟩ hmisread
    obtain ⟨fault, herror⟩ := hfault hmisread
    rw [hlookup] at herror
    cases herror
  · intro hfree
    obtain ⟨value, hlookup, -⟩ := hvalue hfree
    exact ⟨value, hlookup⟩

/-! ## What resolving looks up -/

/-- **Some values answer all names** exactly if none of the names is misread; each name then has
what it denotes. -/
theorem exists_answers {names : List String} (h : ∀ name ∈ names, ¬ IsMisread store name) :
    ∃ value, Answers store value names ∧ ∀ name ∈ names, Denotes store name (value name) := by
  -- a misread name has no value, but is not asked for either
  have hchoice : ∀ name, ∃ value,
      ¬ IsMisread store name → lookup store name = .ok value ∧ Denotes store name value := by
    intro name
    by_cases hmisread : IsMisread store name
    · exact ⟨.null, fun hfree => absurd hmisread hfree⟩
    · obtain ⟨value, hvalue⟩ := (lookup_givesUnless store name).2 hmisread
      exact ⟨value, fun _ => hvalue⟩
  obtain ⟨value, hvalue⟩ := Classical.axiomOfChoice hchoice
  refine ⟨value, ?_, ?_⟩
  · intro name hname
    exact (hvalue name (h name hname)).1
  · intro name hname
    exact (hvalue name (h name hname)).2

/-- Pieces that are resolved had every block looked up. -/
theorem not_isMisread_of_resolvePieces {pieces : List Piece} {resolved : List Char}
    (h : resolvePieces store pieces = .ok resolved) :
    ∀ inside ∈ pieces.filterMap Piece.inside?,
      ¬ IsMisread store (String.ofList (Text.trim inside)) := by
  induction pieces generalizing resolved with
  | nil =>
    intro inside hinside
    cases hinside
  | cons piece rest ih =>
    rw [resolvePieces] at h
    obtain ⟨here, hhere, h⟩ := bind_eq_ok_iff.mp h
    obtain ⟨behind, hbehind, -⟩ := bind_eq_ok_iff.mp h
    cases piece with
    | literal c => exact ih hbehind
    | block inside =>
      rw [resolvePiece] at hhere
      obtain ⟨value, hlookup, -⟩ := bind_eq_ok_iff.mp hhere
      have hinsides : (Piece.block inside :: rest).filterMap Piece.inside? =
          inside :: rest.filterMap Piece.inside? := rfl
      rw [hinsides, List.forall_mem_cons]
      exact ⟨exists_lookup_iff.mp ⟨value, hlookup⟩, ih hbehind⟩

/-- A text that is resolved has no misread reference. -/
theorem not_isMisread_of_resolve {s resolved : String} (h : resolve store s = .ok resolved) :
    ∀ name ∈ textReferences s, ¬ IsMisread store name := by
  rw [resolve] at h
  obtain ⟨cs, hpieces, -⟩ := bind_eq_ok_iff.mp h
  intro name hname
  obtain ⟨inside, hinside, rfl⟩ := List.mem_map.mp hname
  exact not_isMisread_of_resolvePieces hpieces inside hinside

mutual

/-- A value that is resolved has no misread reference. -/
theorem not_isMisread_of_resolveValue (item : Value) {resolved : Value}
    (h : resolveValue store item = .ok resolved) :
    ∀ name ∈ references item, ¬ IsMisread store name := by
  cases item with
  | text s =>
    rw [resolveValue] at h
    obtain ⟨text, htext, -⟩ := bind_eq_ok_iff.mp h
    exact not_isMisread_of_resolve htext
  | list items =>
    rw [resolveValue] at h
    obtain ⟨list, hlist, -⟩ := bind_eq_ok_iff.mp h
    exact not_isMisread_of_resolveItems items hlist
  | object fields =>
    rw [resolveValue] at h
    obtain ⟨object, hobject, -⟩ := bind_eq_ok_iff.mp h
    exact not_isMisread_of_resolveFields fields hobject
  | null => exact List.forall_mem_nil _
  | bool => exact List.forall_mem_nil _
  | int => exact List.forall_mem_nil _
  | float => exact List.forall_mem_nil _

/-- A list that is resolved has no misread reference. -/
theorem not_isMisread_of_resolveItems (items : List Value) {resolved : List Value}
    (h : resolveItems store items = .ok resolved) :
    ∀ name ∈ itemReferences items, ¬ IsMisread store name := by
  cases items with
  | nil => exact List.forall_mem_nil _
  | cons item rest =>
    rw [resolveItems] at h
    obtain ⟨head, hhead, h⟩ := bind_eq_ok_iff.mp h
    obtain ⟨tail, htail, -⟩ := bind_eq_ok_iff.mp h
    exact List.forall_mem_append.mpr ⟨not_isMisread_of_resolveValue item hhead,
      not_isMisread_of_resolveItems rest htail⟩

/-- Fields that are resolved have no misread reference. -/
theorem not_isMisread_of_resolveFields (fields : List (String × Value))
    {resolved : List (String × Value)} (h : resolveFields store fields = .ok resolved) :
    ∀ name ∈ fieldReferences fields, ¬ IsMisread store name := by
  cases fields with
  | nil => exact List.forall_mem_nil _
  | cons field rest =>
    obtain ⟨name, item⟩ := field
    rw [resolveFields] at h
    obtain ⟨head, hhead, h⟩ := bind_eq_ok_iff.mp h
    obtain ⟨tail, htail, -⟩ := bind_eq_ok_iff.mp h
    exact List.forall_mem_append.mpr ⟨not_isMisread_of_resolveValue item hhead,
      not_isMisread_of_resolveFields rest htail⟩

end

/-! ## Resolving -/

/-- **A value with its references put in**: every text in it is filled with what its references
denote. -/
def Resolved (store : Store) (item resolved : Value) : Prop :=
  ∃ value, (∀ name ∈ references item, Denotes store name (value name)) ∧
    Filled value item resolved

/-- **Resolving a value** fills it with what its references denote, unless one is misread. -/
theorem resolveValue_givesUnless (store : Store) (item : Value) :
    GivesUnless (∃ name ∈ references item, IsMisread store name) (Resolved store item)
      (resolveValue store item) := by
  constructor
  · rintro ⟨name, hname, hmisread⟩
    cases hresolve : resolveValue store item with
    | error fault => exact ⟨fault, rfl⟩
    | ok resolved =>
      exact absurd hmisread (not_isMisread_of_resolveValue item hresolve name hname)
  · intro hfree
    obtain ⟨value, hanswers, hdenotes⟩ :=
      exists_answers fun name hname hmisread => hfree ⟨name, hname, hmisread⟩
    obtain ⟨resolved, hresolved, hfilled⟩ := resolveValue_filled item hanswers
    exact ⟨resolved, hresolved, value, hdenotes, hfilled⟩

/-- **A name is legible** in a store: it is not misread, and what it denotes can be written. -/
structure IsLegible (store : Store) (name : String) : Prop where
  /-- The name is not misread. -/
  read : ¬ IsMisread store name
  /-- What it denotes can be written. -/
  shown {value : Value} : Denotes store name value → value.isShowable = true

/-- **A value with its references written in**: every text in it is filled with what its references
denote, all of which can be written. -/
def ResolvedLegibly (store : Store) (item resolved : Value) : Prop :=
  ∃ value, (∀ name ∈ references item,
    Denotes store name (value name) ∧ (value name).isShowable = true) ∧ Filled value item resolved

/-- What legible references denote can be written. -/
theorem Resolved.legibly {item resolved : Value} (h : Resolved store item resolved)
    (hlegible : ∀ name ∈ references item, IsLegible store name) :
    ResolvedLegibly store item resolved := by
  obtain ⟨value, hdenotes, hfilled⟩ := h
  refine ⟨value, fun name hname => ?_, hfilled⟩
  exact ⟨hdenotes name hname, (hlegible name hname).shown (hdenotes name hname)⟩

/-- **A computation is settled by its references**: it fails if one of them is misread, and gives a
value with them written in if all are legible. -/
def GivesByReferences (store : Store) (item : Value) (wrap : α → Value)
    (computed : Except Fault α) : Prop :=
  ((∃ name ∈ references item, IsMisread store name) → ∃ fault, computed = .error fault) ∧
    ((∀ name ∈ references item, IsLegible store name) →
      ∃ resolved, computed = .ok resolved ∧ ResolvedLegibly store item (wrap resolved))

/-- What gives a value unless a reference is misread is settled by its references. -/
theorem givesByReferences {item : Value} {wrap : α → Value} {computed : Except Fault α}
    (h : GivesUnless (∃ name ∈ references item, IsMisread store name)
      (fun resolved => Resolved store item (wrap resolved)) computed) :
    GivesByReferences store item wrap computed := by
  refine ⟨h.1, fun hlegible => ?_⟩
  have hfree : ¬ ∃ name ∈ references item, IsMisread store name :=
    fun ⟨name, hname, hmisread⟩ => (hlegible name hname).read hmisread
  obtain ⟨resolved, hresolved, hfilled⟩ := h.2 hfree
  exact ⟨resolved, hresolved, hfilled.legibly hlegible⟩

/-- **Nothing but a misread name is a fault.** A path gives what is found behind it unless it
stumbles; a name gives what it denotes unless it is misread; a text and a configuration fail if one
of their references is misread, and are filled with what these denote if all are legible. -/
theorem gives_unless_misread (store : Store) :
    (∀ (data : Value) (path : String),
      GivesUnless (Path.Stumbles (Path.parts path) data) (Path.Finds (Path.parts path) data)
        (Path.get data path)) ∧
    (∀ name : String,
      GivesUnless (IsMisread store name) (Denotes store name) (lookup store name)) ∧
    (∀ s : String, GivesByReferences store (.text s) .text (resolve store s)) ∧
    ∀ config : Fields, GivesByReferences store (.object config) .object
      (resolveFields store config) := by
  refine ⟨Path.get_givesUnless, lookup_givesUnless store, ?_, ?_⟩
  · intro s
    have htext := resolveValue_givesUnless store (.text s)
    rw [resolveValue] at htext
    exact givesByReferences htext.of_wrap
  · intro config
    have hobject := resolveValue_givesUnless store (.object config)
    rw [resolveValue] at hobject
    exact givesByReferences hobject.of_wrap

/-- A list under a name. -/
def shelf : Store := ⟨[("items", .list [.int 1])]⟩

/-- **A superscript shows a number that cannot be read**: the name of an item that is not there is a
fault, and so is every text that refers to it. -/
theorem misreads_superscript :
    (∀ part ∈ Path.parts "items.²", (Path.digitsOf part).length ≤ Path.maxDigits) ∧
      Path.get shelf.snapshot "items.²" = .error (.notInteger "²") ∧
      lookup shelf "items.²" = .error (.notInteger "²") ∧
      resolve shelf "\x7b\x7bitems.²\x7d\x7d" = .error (.notInteger "²") ∧
      resolveFields shelf [("text", .text "\x7b\x7bitems.²\x7d\x7d")] =
        .error (.notInteger "²") := by
  have hparts : Path.parts "items.²" = ["items".toList, ['²']] := by decide +kernel
  have hget : Path.get shelf.snapshot "items.²" = .error (.notInteger "²") := by
    rw [Path.get, hparts]
    rfl
  have hlookup : lookup shelf "items.²" = .error (.notInteger "²") := by
    rw [lookup_of_unbound rfl, if_pos (by decide +kernel), hget]
  have hpieces : pieces "\x7b\x7bitems.²\x7d\x7d".toList = [.block "items.²".toList] := by
    decide +kernel
  have hresolve : resolve shelf "\x7b\x7bitems.²\x7d\x7d" = .error (.notInteger "²") := by
    have htrim : String.ofList (Text.trim "items.²".toList) = "items.²" := by decide +kernel
    rw [resolve, hpieces, resolvePieces, resolvePiece, htrim, hlookup]
    rfl
  refine ⟨?_, hget, hlookup, hresolve, ?_⟩
  · rw [hparts]
    decide +kernel
  · rw [resolveFields, resolveValue, hresolve]
    rfl

end Template

end Stepwise
