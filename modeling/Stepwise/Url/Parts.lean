import Stepwise.Fault
import Stepwise.Url.Address

/-! # The scheme and the host of an address

`Url.parts` finds what an address starts with: the scheme before the first colon and, behind two
slashes, the host up to the next slash, question mark or number sign. Tabs and line breaks are
ignored wherever they stand. A host with an unbalanced bracket is a fault, and so is one with a
character that looks like a delimiter, such as a full-width slash: written in its plain form it
would move the end of the host.

There are two editions of these rules. The later one passes over control characters and spaces in
front of an address, and takes nothing but network addresses between the brackets of a host. -/

namespace Stepwise.Url

/-- The editions of the rules by which an address is taken apart. -/
inductive Edition where
  /-- An address starts with its first character, and anything may stand in brackets. -/
  | early
  /-- Control characters and spaces in front are passed over, and brackets hold network
  addresses. -/
  | late
  deriving DecidableEq, Repr

/-- The start of an address. -/
structure Parts where
  /-- The scheme in lower case; empty if there is none. -/
  scheme : List Char
  /-- The host with what belongs to it; empty if there is none. -/
  host : List Char
  deriving DecidableEq, Repr

/-- The characters that a scheme may hold. -/
def isSchemeChar (c : Char) : Bool := c.isAlphanum || c = '+' || c = '-' || c = '.'

/-- The scheme of an address and what follows its colon. A scheme starts with a letter. -/
def splitScheme (cs : List Char) : List Char × List Char :=
  let (scheme, rest) := Text.spanUntil (· == ':') cs
  match scheme, rest with
  | first :: _, _ :: after =>
    if first.isAlpha && scheme.all isSchemeChar then (scheme.map Char.toLower, after) else ([], cs)
  | _, _ => ([], cs)

/-- The characters that end a host. -/
def endsHost (c : Char) : Bool := c = '/' || c = '?' || c = '#'

/-- The code points whose plain form holds one of the delimiters of a host. -/
def deceptiveChars : List Nat := [
  0x2047, 0x2048, 0x2049, 0x2100, 0x2101, 0x2105, 0x2106, 0x2a74, 0xfe13, 0xfe16, 0xfe55, 0xfe56,
  0xfe5f, 0xfe6b, 0xff03, 0xff0f, 0xff1a, 0xff1f, 0xff20]

/-- What stands in the first brackets of a host. -/
def inBrackets (host : List Char) : List Char :=
  ((host.dropWhile (· != '[')).drop 1).takeWhile (· != ']')

/-- What stands in brackets must be a network address. -/
def checkAddress (inside : List Char) : Except Fault Unit :=
  if inside.head? = some 'v' then
    if isVersioned inside then .ok () else .error .misversionedHost
  else if isDotted inside then .error .dottedHost
  else if isGrouped inside then .ok ()
  else .error (.unaddressedHost (String.ofList inside))

/-- The brackets of a host must be balanced; in the later edition, there is a network address
between them. -/
def checkBrackets (edition : Edition) (host : List Char) : Except Fault Unit :=
  if host.contains '[' != host.contains ']' then .error .unbalancedHost
  else if edition = .late && host.contains '[' then checkAddress (inBrackets host)
  else .ok ()

/-- No character of a host may look like a delimiter. -/
def checkLook (host : List Char) : Except Fault Unit :=
  if host.any fun c => deceptiveChars.contains c.toNat then
    .error (.deceptiveHost (String.ofList host))
  else .ok ()

/-- The host that follows two slashes. -/
def hostOf (edition : Edition) : List Char → Except Fault (List Char)
  | '/' :: '/' :: rest => do
    let host := rest.takeWhile (!endsHost ·)
    checkBrackets edition host
    checkLook host
    return host
  | _ => .ok []

/-- An address from its start on, which in the later edition is behind control characters and
spaces. -/
def fromStart : Edition → List Char → List Char
  | .early, cs => cs
  | .late, cs => cs.dropWhile (·.toNat ≤ 0x20)

/-- The scheme and the host of an address. -/
def parts (edition : Edition) (s : String) : Except Fault Parts := do
  let cs := (fromStart edition s.toList).filter fun c => c != '\t' && c != '\r' && c != '\n'
  let (scheme, rest) := splitScheme cs
  return ⟨scheme, ← hostOf edition rest⟩

/-- Whether an address is one of a web server. -/
def isWeb (edition : Edition) (s : String) : Except Fault Bool := do
  let parts ← Url.parts edition s
  return (parts.scheme = "http".toList || parts.scheme = "https".toList) && !parts.host.isEmpty

/-! ## What the editions have in common -/

/-- No edition passes over a character that is neither a control character nor a space. -/
theorem fromStart_eq {cs : List Char} (hfirst : ∀ c ∈ cs.head?, 0x20 < c.toNat)
    (edition : Edition) : fromStart edition cs = cs := by
  cases edition with
  | early => rfl
  | late =>
    cases cs with
    | nil => rfl
    | cons c rest =>
      have hkept : ¬ decide (c.toNat ≤ 0x20) = true :=
        mt of_decide_eq_true (Nat.not_le.mpr (hfirst c rfl))
      rw [fromStart]
      exact List.dropWhile_cons_of_neg hkept

/-- Without brackets there is nothing to check between them. -/
theorem checkBrackets_eq {host : List Char} (hplain : '[' ∉ host) (edition : Edition) :
    checkBrackets edition host = checkBrackets .early host := by
  have hcontains : host.contains '[' = false := by
    rw [← Bool.not_eq_true, List.contains_iff_mem]
    exact hplain
  simp only [checkBrackets, hcontains, Bool.and_false, Bool.false_eq_true, if_false]

/-- What follows the scheme is a part of the address. -/
theorem subset_splitScheme (cs : List Char) : (splitScheme cs).2 ⊆ cs := by
  have happend := Text.spanUntil_append (· == ':') cs
  unfold splitScheme
  split
  next scheme rest hspan =>
    rw [hspan] at happend
    split
    next first others colon after =>
      split
      · intro c hc
        rw [← happend]
        exact List.mem_append_right _ (List.mem_cons_of_mem _ hc)
      · exact List.Subset.refl cs
    next => exact List.Subset.refl cs

/-- Both editions find the same host if there is no bracket. -/
theorem hostOf_eq {cs : List Char} (hplain : '[' ∉ cs) (edition : Edition) :
    hostOf edition cs = hostOf .early cs := by
  unfold hostOf
  split
  next rest =>
    have hhost : '[' ∉ rest.takeWhile (!endsHost ·) := fun hmem =>
      hplain (List.mem_cons_of_mem _ (List.mem_cons_of_mem _ (List.takeWhile_subset _ hmem)))
    dsimp only
    rw [checkBrackets_eq hhost]
  next => rfl

/-- **The editions agree on the addresses without brackets** that do not start with a control
character or a space. -/
theorem parts_eq {s : String} (hfirst : ∀ c ∈ s.toList.head?, 0x20 < c.toNat)
    (hplain : '[' ∉ s.toList) (edition : Edition) : parts edition s = parts .early s := by
  have hrest : '[' ∉ (splitScheme
      (s.toList.filter fun c => c != '\t' && c != '\r' && c != '\n')).2 := fun hmem =>
    hplain (List.mem_filter.mp (subset_splitScheme _ hmem)).1
  unfold parts
  rw [fromStart_eq hfirst edition, fromStart_eq hfirst .early]
  dsimp only
  rw [hostOf_eq hrest]

-- a name between brackets is a host in the early edition only
example : isWeb .early "http://[abc]/" = .ok true ∧
    isWeb .late "http://[abc]/" = .error (.unaddressedHost "abc") := ⟨rfl, rfl⟩

end Stepwise.Url
