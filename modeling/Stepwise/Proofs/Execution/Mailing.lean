import Mathlib.Computability.Language
import Stepwise.Proofs.Execution.Handover

/-! # Mails

A step of type `email` accepts the mails that it can hand over and no others. The address has to
follow a grammar (`Text.FollowsGrammar`): no blanks, a single `@` with something before it, and a
point somewhere behind it, but neither first nor last there.

The pattern of an address (`Text.mailPattern`) has three runs of characters. The last two may both
have points in them, so that an address can be taken apart in several ways, and the end of the
pattern may stand in front of a line break. On a text without blanks at its ends the pattern and the
grammar agree nevertheless (`Text.mem_mailPattern_iff`).

The fields are checked in order, and a refusal names the first one that does not fit
(`Steps.Offends`). What was accepted is handed over: the address without the blanks at its ends, the
subject and the message as they are. The main statement is `Steps.mail_accepts`. -/

namespace Stepwise

variable {σ : Type}

/-! ## The grammar of mail addresses -/

namespace Text

/-- **The grammar of mail addresses**. -/
structure FollowsGrammar (s : String) : Prop where
  /-- There are no blanks. -/
  noBlank : ∀ c ∈ s.toList, Unicode.isBlank c = false
  /-- There is a single `@`. -/
  oneMark : s.toList.count '@' = 1
  /-- Something stands before it, and behind it a point that is neither first nor last there. -/
  parts : ∃ user domain, s.toList = user ++ '@' :: domain ∧ user ≠ [] ∧
    ∃ index, 0 < index ∧ index + 1 < domain.length ∧ domain[index]? = some '.'

/-- A run of characters that are neither blank nor an `@`; there is at least one. -/
def addressRun : Language Char :=
  {cs | cs ≠ [] ∧ ∀ c ∈ cs, Unicode.isBlank c = false ∧ c ≠ '@'}

/-- A run, an `@`, a run, a point and another run. -/
def mailBody : Language Char := addressRun * {['@']} * addressRun * {['.']} * addressRun

/-- **The pattern of mail addresses**: there may be a line break behind the address, as the end of a
text is also found in front of one. -/
def mailPattern : Language Char := mailBody * (1 + {['\n']})

/-- What has the form of a mail address follows the grammar. -/
theorem IsMailAddress.followsGrammar {s : String} (h : IsMailAddress s) : FollowsGrammar s := by
  obtain ⟨user, host, domain, hsplit, huser, hhost, hdomain, hchars⟩ := h
  have hnone : ∀ part, part ⊆ user ++ host ++ domain → List.count '@' part = 0 := by
    intro part hsub
    rw [List.count_eq_zero]
    exact fun hmem => (hchars '@' (hsub hmem)).2 rfl
  -- the point that the grammar asks for is the one between host and domain
  refine ⟨fun c hc => ?_, ?_, user, host ++ '.' :: domain, hsplit, huser, host.length,
    List.length_pos_iff.mpr hhost, ?_, ?_⟩
  · rw [hsplit] at hc
    simp only [List.mem_append, List.mem_cons] at hc
    rcases hc with hc | rfl | hc | rfl | hc
    · exact (hchars c (by simp [hc])).1
    · decide
    · exact (hchars c (by simp [hc])).1
    · decide
    · exact (hchars c (by simp [hc])).1
  · rw [hsplit, List.count_append, List.count_cons_self, List.count_append,
      List.count_cons_of_ne (by decide), hnone user (by simp), hnone host (by simp),
      hnone domain (by simp)]
  · have hrest : 0 < domain.length := List.length_pos_iff.mpr hdomain
    rw [List.length_append, List.length_cons]
    omega
  · rw [List.getElem?_append_right (Nat.le_refl _), Nat.sub_self, List.getElem?_cons_zero]

/-- A text is cut in front of the first character that it is cut at. -/
theorem spanUntil_append_cons {stop : Char → Bool} {before : List Char}
    (hbefore : ∀ c ∈ before, stop c = false) {mark : Char} (hmark : stop mark = true)
    (after : List Char) : spanUntil stop (before ++ mark :: after) = (before, mark :: after) := by
  have hfree : ∀ c ∈ before, (!stop c) = true := by
    intro c hc
    rw [hbefore c hc]
    rfl
  rw [spanUntil, List.takeWhile_append_of_pos hfree, List.dropWhile_append_of_pos hfree,
    List.takeWhile_cons, List.dropWhile_cons, hmark]
  exact congrArg (·, mark :: after) (List.append_nil before)

/-- A character that is neither first nor last stands between the two. -/
theorem mem_inner_of_getElem? {cs : List Char} {c : Char} {index : Nat} (hfirst : 0 < index)
    (hlast : index + 1 < cs.length) (hc : cs[index]? = some c) : c ∈ (cs.drop 1).dropLast := by
  rw [List.mem_iff_getElem?]
  refine ⟨index - 1, ?_⟩
  have hindex : 1 + (index - 1) = index := by omega
  rw [List.getElem?_dropLast, List.length_drop, if_pos (by omega), List.getElem?_drop, hindex]
  exact hc

/-- What follows the grammar passes for a mail address. -/
theorem FollowsGrammar.isMailAddress {s : String} (h : FollowsGrammar s) :
    Steps.isMailAddress s.toList = true := by
  obtain ⟨hblank, hone, user, domain, hsplit, huser, index, hfirst, hlast, hpoint⟩ := h
  -- the single `@` is the one between the two parts
  rw [hsplit, List.count_append, List.count_cons_self] at hone
  have huserMark : '@' ∉ user := List.count_eq_zero.mp (by omega)
  have hdomainMark : '@' ∉ domain := List.count_eq_zero.mp (by omega)
  have hspan : spanUntil (· == '@') s.toList = (user, '@' :: domain) := by
    rw [hsplit]
    refine spanUntil_append_cons (fun c hc => ?_) (by decide) domain
    rw [beq_eq_false_iff_ne]
    exact fun heq => huserMark (heq ▸ hc)
  -- so all other characters may stand beside it
  have hchars : ∀ part : List Char, (∀ c ∈ part, c ∈ s.toList) → '@' ∉ part →
      part.all Steps.isAddressChar = true := by
    intro part hsub hmark
    rw [List.all_eq_true]
    intro c hc
    rw [Steps.isAddressChar, hblank c (hsub c hc), Bool.not_false, Bool.true_and, bne_iff_ne]
    exact fun heq => hmark (heq ▸ hc)
  have huserChars : user.all Steps.isAddressChar = true :=
    hchars user (by simp +contextual [hsplit]) huserMark
  have hdomainChars : domain.all Steps.isAddressChar = true :=
    hchars domain (by simp +contextual [hsplit]) hdomainMark
  have hinner : (domain.drop 1).dropLast.contains '.' = true :=
    List.contains_iff_mem.mpr (mem_inner_of_getElem? hfirst hlast hpoint)
  rw [Steps.isMailAddress, hspan]
  dsimp only
  rw [huserChars, hdomainChars, hinner, Bool.and_true, Bool.and_true, Bool.and_true,
    Bool.not_eq_true', List.isEmpty_eq_false_iff]
  exact huser

/-- **What passes for a mail address** follows the grammar, and nothing else does. -/
theorem isMailAddress_iff_followsGrammar {s : String} :
    Steps.isMailAddress s.toList = true ↔ FollowsGrammar s :=
  ⟨fun h => (Steps.isMailAddress_form h).followsGrammar, FollowsGrammar.isMailAddress⟩

/-- What is put together from the parts of an address has its form. -/
theorem mem_mailBody_iff {s : String} : s.toList ∈ mailBody ↔ IsMailAddress s := by
  constructor
  · rintro ⟨_, ⟨_, ⟨_, ⟨user, ⟨huser, huserChars⟩, _, rfl, rfl⟩, host, ⟨hhost, hhostChars⟩, rfl⟩, _,
      rfl, rfl⟩, domain, ⟨hdomain, hdomainChars⟩, happend⟩
    -- the parts of the pattern are those of the form
    refine ⟨user, host, domain, ?_, huser, hhost, hdomain, fun c hc => ?_⟩
    · rw [← happend]
      simp
    · rcases List.mem_append.mp hc with hc | hc
      · exact (List.mem_append.mp hc).elim (huserChars c) (hhostChars c)
      · exact hdomainChars c hc
  · rintro ⟨user, host, domain, hsplit, huser, hhost, hdomain, hchars⟩
    refine ⟨_, ⟨_, ⟨_, ⟨user, ⟨huser, fun c hc => ?_⟩, _, rfl, rfl⟩, host, ⟨hhost, fun c hc => ?_⟩,
      rfl⟩, _, rfl, rfl⟩, domain, ⟨hdomain, fun c hc => ?_⟩, ?_⟩
    · exact hchars c (by simp [hc])
    · exact hchars c (by simp [hc])
    · exact hchars c (by simp [hc])
    · rw [hsplit]
      simp

/-- **The pattern and the grammar** agree on a text without blanks at its ends: there is no line
break left for the end of the pattern. -/
theorem mem_mailPattern_iff {s : String} (h : IsTrimmed s) :
    s.toList ∈ mailPattern ↔ FollowsGrammar s := by
  constructor
  · rintro ⟨body, hbody, ending, rfl | rfl, happend⟩
    · dsimp only at happend
      rw [List.append_nil] at happend
      subst happend
      exact (mem_mailBody_iff.mp hbody).followsGrammar
    · -- a line break at the end would be a blank there
      have hlast : s.toList.getLast? = some '\n' := by
        rw [← happend]
        exact List.getLast?_concat
      exact absurd (h.2 '\n' hlast) (by decide)
  · intro hgrammar
    have hform := Steps.isMailAddress_form hgrammar.isMailAddress
    exact ⟨s.toList, mem_mailBody_iff.mpr hform, [], .inl rfl, List.append_nil _⟩

end Text

/-! ## Fields that are texts -/

namespace Config

variable {config : Fields} {name : String}

/-- **What is wrong with a field that should be a text**, with what is said of it. -/
inductive TextOffence (config : Fields) (name : String) : String → Prop
  /-- It is null, or not bound at all. -/
  | missing (hnull : Value.field name config = .null) :
      TextOffence config name s!"'{name}' is required"
  /-- It is a text of blanks. -/
  | blank {s : String} (hfind : config.find? name = some (.text s))
      (hblank : Text.isBlank s = true) : TextOffence config name s!"'{name}' is required"
  /-- It is another value. -/
  | other {value : Value} (hfind : config.find? name = some value) (hnull : value ≠ .null)
      (htext : ∀ s, value ≠ .text s) : TextOffence config name "must be a string"

/-- **A text is found** where one is bound that is not blank. -/
theorem requireText_eq_ok_iff {s : String} :
    requireText config name = .ok s ↔
      config.find? name = some (.text s) ∧ Text.isBlank s = false :=
  ⟨fun h => ⟨find?_of_requireText h, isBlank_of_requireText h⟩,
    fun h => requireText_of_find? h.1 h.2⟩

/-- What is wrong with a field is said of it. -/
theorem TextOffence.requireText {detail : String} (h : TextOffence config name detail) :
    Config.requireText config name = .error (.configuration name detail) := by
  cases h with
  | missing hnull =>
    simp only [Config.requireText, require, hnull, isBlank]
    rfl
  | blank hfind hblank =>
    simp only [Config.requireText, require, field_of_find? hfind, isBlank, hblank]
    rfl
  | other hfind hnull htext =>
    rename_i value
    cases value with
    | null => exact absurd rfl hnull
    | text s => exact absurd rfl (htext s)
    | _ =>
      simp only [Config.requireText, require, field_of_find? hfind, isBlank]
      rfl

/-- **No text is found** where something is wrong with the field, and only there. -/
theorem requireText_eq_error_iff {fault : Fault} :
    Config.requireText config name = .error fault ↔
      ∃ detail, TextOffence config name detail ∧ fault = .configuration name detail := by
  constructor
  · intro h
    -- whatever the field holds, it is at fault, unless it is a text that is not blank
    have hoffence : ∃ detail, TextOffence config name detail := by
      cases hfind : config.find? name with
      | none =>
        refine ⟨_, .missing ?_⟩
        rw [Value.field, hfind]
        rfl
      | some value =>
        cases value with
        | null => exact ⟨_, .missing (field_of_find? hfind)⟩
        | text s =>
          cases hblank : Text.isBlank s with
          | true => exact ⟨_, .blank hfind hblank⟩
          | false => cases h.symm.trans (requireText_of_find? hfind hblank)
        | _ =>
          refine ⟨_, .other hfind (fun hnull => ?_) fun s htext => ?_⟩
          · cases hnull
          · cases htext
    obtain ⟨detail, hoffence⟩ := hoffence
    exact ⟨detail, hoffence, Except.error.inj (h.symm.trans hoffence.requireText)⟩
  · rintro ⟨detail, hoffence, rfl⟩
    exact hoffence.requireText

end Config

/-! ## The step -/

namespace Steps

variable {config : Fields} {name : String}

/-- **The configuration of a mail**: three texts that are not blank, and the address follows the
grammar once the blanks at its ends are gone. -/
structure IsMail (config : Fields) (email subject message : String) : Prop where
  /-- The address is a text. -/
  email_eq : config.find? "email" = some (.text email)
  /-- It is not blank. -/
  email_isBlank : Text.isBlank email = false
  /-- It follows the grammar. -/
  grammar : Text.FollowsGrammar (Text.trimmed email)
  /-- The subject is a text. -/
  subject_eq : config.find? "subject" = some (.text subject)
  /-- It is not blank. -/
  subject_isBlank : Text.isBlank subject = false
  /-- The message is a text. -/
  message_eq : config.find? "message" = some (.text message)
  /-- It is not blank. -/
  message_isBlank : Text.isBlank message = false

/-- The fields of a mail, in the order in which they are checked. -/
def mailFields : List String := ["email", "subject", "message"]

/-- **A field fits a mail.** -/
def Fits (config : Fields) (name : String) : Prop :=
  ∃ s, config.find? name = some (.text s) ∧ Text.isBlank s = false ∧
    (name = "email" → Text.FollowsGrammar (Text.trimmed s))

/-- **What is wrong with a field of a mail**, with what is said of it. -/
inductive Offends (config : Fields) (name : String) : String → Prop
  /-- It is no text, or a blank one. -/
  | text {detail : String} (h : Config.TextOffence config name detail) :
      Offends config name detail
  /-- It is an address that does not follow the grammar. -/
  | address {s : String} (hname : name = "email") (hfind : config.find? name = some (.text s))
      (hblank : Text.isBlank s = false) (hform : ¬ Text.FollowsGrammar (Text.trimmed s)) :
      Offends config name s!"'{s}' is not a valid email address"

/-! ### Checking -/

/-- The check of one field of a mail. -/
def checkMailField (config : Fields) (name : String) : Except Fault Unit := do
  let s ← Config.requireText config name
  if name == "email" && !isMailAddress (Text.trim s.toList) then
    throw (.configuration name s!"'{s}' is not a valid email address")

/-- **The fields are checked in order.** -/
theorem validate_mail (config : Fields) :
    (mail : Handler σ).validate config = mailFields.forM (checkMailField config) := by
  have hother : ∀ name, name ≠ "email" → checkMailField config name =
      Config.requireText config name >>= fun _ => pure () := by
    intro name hname
    rw [checkMailField, beq_eq_false_iff_ne.mpr hname]
    rfl
  change _ = (checkMailField config "email" >>= fun _ => checkMailField config "subject" >>=
    fun _ => checkMailField config "message" >>= fun _ => pure ())
  rw [hother "subject" (by decide), hother "message" (by decide), checkMailField]
  dsimp only [mail]
  -- both make the same checks, so they agree wherever one of them fails
  cases Config.requireText config "email" with
  | error fault => rfl
  | ok email =>
    cases hform : isMailAddress (Text.trim email.toList) with
    | false =>
      simp only [bind, Except.bind, hform]
      rfl
    | true =>
      simp only [bind, Except.bind, hform]
      cases Config.requireText config "subject" with
      | error fault => rfl
      | ok subject =>
        cases Config.requireText config "message" with
        | error fault => rfl
        | ok message => rfl

/-- The grammar as it is checked. -/
theorem isMailAddress_trim_iff {s : String} :
    isMailAddress (Text.trim s.toList) = true ↔ Text.FollowsGrammar (Text.trimmed s) := by
  rw [← Text.isMailAddress_iff_followsGrammar, Text.trimmed, String.toList_ofList]

/-- A field that fits passes its check. -/
theorem Fits.checkMailField (h : Fits config name) : checkMailField config name = .ok () := by
  obtain ⟨s, hfind, hblank, hform⟩ := h
  -- the form is asked of one field only, and that one has it
  have haddress : (name == "email" && !isMailAddress (Text.trim s.toList)) = false := by
    by_cases hname : name = "email"
    · rw [isMailAddress_trim_iff.mpr (hform hname), Bool.not_true, Bool.and_false]
    · rw [beq_eq_false_iff_ne.mpr hname, Bool.false_and]
  rw [Steps.checkMailField, Config.requireText_of_find? hfind hblank]
  simp only [bind, Except.bind, haddress]
  rfl

/-- A field that offends is refused by name. -/
theorem Offends.checkMailField {detail : String} (h : Offends config name detail) :
    checkMailField config name = .error (.configuration name detail) := by
  cases h with
  | text h =>
    rw [Steps.checkMailField, h.requireText]
    rfl
  | address hname hfind hblank hform =>
    subst hname
    rw [← isMailAddress_trim_iff, Bool.not_eq_true] at hform
    rw [Steps.checkMailField, Config.requireText_of_find? hfind hblank]
    simp only [bind, Except.bind, hform]
    rfl

/-- A field fits or offends. -/
theorem fits_or_offends (config : Fields) (name : String) :
    Fits config name ∨ ∃ detail, Offends config name detail := by
  cases hrequire : Config.requireText config name with
  | error fault =>
    obtain ⟨detail, hoffence, -⟩ := Config.requireText_eq_error_iff.mp hrequire
    exact .inr ⟨detail, .text hoffence⟩
  | ok s =>
    obtain ⟨hfind, hblank⟩ := Config.requireText_eq_ok_iff.mp hrequire
    by_cases hform : name = "email" → Text.FollowsGrammar (Text.trimmed s)
    · exact .inl ⟨s, hfind, hblank, hform⟩
    · rw [Classical.not_imp] at hform
      exact .inr ⟨_, .address hform.1 hfind hblank hform.2⟩

/-- **A field fits** exactly if it passes its check. -/
theorem checkMailField_eq_ok_iff : checkMailField config name = .ok () ↔ Fits config name := by
  constructor
  · intro h
    rcases fits_or_offends config name with hfits | ⟨detail, hoffends⟩
    · exact hfits
    · cases h.symm.trans hoffends.checkMailField
  · exact Fits.checkMailField

/-- **A field offends** exactly if it is refused by name. -/
theorem checkMailField_eq_error_iff {fault : Fault} :
    checkMailField config name = .error fault ↔
      ∃ detail, Offends config name detail ∧ fault = .configuration name detail := by
  constructor
  · intro h
    rcases fits_or_offends config name with hfits | ⟨detail, hoffends⟩
    · cases h.symm.trans hfits.checkMailField
    · exact ⟨detail, hoffends, Except.error.inj (h.symm.trans hoffends.checkMailField)⟩
  · rintro ⟨detail, hoffends, rfl⟩
    exact hoffends.checkMailField

/-- The configuration of a mail is one in which all fields fit. -/
theorem exists_isMail_iff :
    (∃ email subject message, IsMail config email subject message) ↔
      ∀ name ∈ mailFields, Fits config name := by
  constructor
  · rintro ⟨email, subject, message, hmail⟩ name hname
    simp only [mailFields, List.mem_cons, List.not_mem_nil, or_false] at hname
    rcases hname with rfl | rfl | rfl
    · exact ⟨email, hmail.email_eq, hmail.email_isBlank, fun _ => hmail.grammar⟩
    · exact ⟨subject, hmail.subject_eq, hmail.subject_isBlank, nofun⟩
    · exact ⟨message, hmail.message_eq, hmail.message_isBlank, nofun⟩
  · intro hfits
    obtain ⟨email, hemail, hemailBlank, hgrammar⟩ := hfits "email" (by decide)
    obtain ⟨subject, hsubject, hsubjectBlank, -⟩ := hfits "subject" (by decide)
    obtain ⟨message, hmessage, hmessageBlank, -⟩ := hfits "message" (by decide)
    exact ⟨email, subject, message, hemail, hemailBlank, hgrammar rfl, hsubject, hsubjectBlank,
      hmessage, hmessageBlank⟩

/-! ### Handing over -/

/-- The request of a mail. -/
abbrev mailRequest (email subject message : String) : Request :=
  .composeEmail (Text.trimmed email) (.text subject) (.text message)

/-- What is made of the answer to it. -/
def mailResult (email subject message : String) : Except Fault Unit → Except Fault Value
  | .error fault => .error (fault.ofCall "Could not open email")
  | .ok _ => .ok (.object [("action", .text "email_opened"), ("email", .text (Text.trimmed email)),
      ("subject", .text subject), ("message", .text message)])

/-- **A mail is handed over**, where messaging is wired; where it is not, nothing is. -/
def HandsOverMail (email subject message : String) (context : Context σ) (store : Store)
    (world : σ) (action : Action σ Value) : Prop :=
  if context.platform.wired .messaging then
    action.ComesTo store world
      { result := mailResult email subject message
          (context.platform.answer (mailRequest email subject message) world).1
        store
        world := (context.platform.answer (mailRequest email subject message) world).2
        requests := [mailRequest email subject message] }
  else
    action.ComesTo store world
      { result := .error (.unsupported Collaborator.messaging.name (some "email")), store, world }

/-- **The texts of a mail are handed over.** -/
theorem IsMail.handsOver {email subject message : String} (h : IsMail config email subject message)
    (context : Context σ) (store : Store) (world : σ) :
    HandsOverMail email subject message context store world (mail.execute config context) := by
  have hsubject : Config.item config "subject" = .ok (.text subject) := by
    rw [Config.item, h.subject_eq]
  have hmessage : Config.item config "message" = .ok (.text message) := by
    rw [Config.item, h.message_eq]
  unfold HandsOverMail
  dsimp only [mail]
  split
  next hwired =>
    rw [Context.reach_of_wired hwired, Config.trimmed_of_find? h.email_eq, hsubject, hmessage]
    -- up to the call the step only looks at its configuration
    refine (Action.Reads.pure ()).comesTo_bind ?_
    refine (Action.Reads.lift rfl).comesTo_bind ?_
    refine (Action.Reads.lift rfl).comesTo_bind ?_
    refine (Action.Reads.lift rfl).comesTo_bind ?_
    refine Action.comesTo_call_bind rfl ?_ ?_
    · intro fault hanswer
      exact congrArg (mailResult email subject message) hanswer
    · intro _ hanswer
      have hresult := congrArg (mailResult email subject message) hanswer
      rw [hresult]
      exact ⟨[], rfl⟩
  next hlacks =>
    rw [Bool.not_eq_true] at hlacks
    rw [Context.reach_of_not_wired hlacks]
    exact ⟨[], rfl⟩

/-! ### Mails -/

/-- **The step of a mail accepts exactly its grammar.** -/
theorem mail_accepts (config : Fields) :
    ((mail : Handler σ).validate config = .ok () ↔
        ∃ email subject message, IsMail config email subject message) ∧
      (∀ fault, (mail : Handler σ).validate config = .error fault ↔
        ∃ before name after detail, mailFields = before ++ name :: after ∧
          (∀ earlier ∈ before, Fits config earlier) ∧ Offends config name detail ∧
          fault = .configuration name detail) ∧
      (∀ s, Text.FollowsGrammar (Text.trimmed s) ↔ (Text.trimmed s).toList ∈ Text.mailPattern) ∧
      ∀ email subject message, IsMail config email subject message →
        ∀ (context : Context σ) store world,
          HandsOverMail email subject message context store world
            (mail.execute config context) := by
  refine ⟨?_, fun fault => ?_, fun s => ?_, fun email subject message hmail => hmail.handsOver⟩
  · rw [validate_mail, forM_eq_ok_iff, exists_isMail_iff]
    simp only [checkMailField_eq_ok_iff]
  · rw [validate_mail, forM_eq_error_iff]
    simp only [checkMailField_eq_ok_iff, checkMailField_eq_error_iff, exists_and_left]
  · exact (Text.mem_mailPattern_iff (Text.isTrimmed_trimmed s)).symm

/-- A letter, with blanks around the address and around the message. -/
def letter : Fields :=
  [("email", .text " a.b@c.d.e\n"), ("subject", .text "s"), ("message", .text " m ")]

/-- The letter is accepted: behind the `@` there are two points, and a line break is no part of the
address. It is handed over once, with the message as it is. -/
theorem mail_accepts_letter :
    let context : Context Simulation.World := ⟨({} : Simulation.Scenario).platform, {}, default⟩
    IsMail letter " a.b@c.d.e\n" "s" " m " ∧
      (mail : Handler Simulation.World).validate letter = .ok () ∧
      ((mail.execute letter context).run {} {}).requests =
        [.composeEmail "a.b@c.d.e" (.text "s") (.text " m ")] := by
  intro context
  have hgrammar : Text.FollowsGrammar (Text.trimmed " a.b@c.d.e\n") :=
    isMailAddress_trim_iff.mp (by decide +kernel)
  have hmail : IsMail letter " a.b@c.d.e\n" "s" " m " :=
    ⟨rfl, by decide, hgrammar, rfl, by decide, rfl, by decide⟩
  have htrimmed : Text.trimmed " a.b@c.d.e\n" = "a.b@c.d.e" := by decide +kernel
  obtain ⟨haccepts, -, -, hhands⟩ := mail_accepts letter
  obtain ⟨log, hrun⟩ := hhands _ _ _ hmail context {} {}
  refine ⟨hmail, haccepts.mpr ⟨_, _, _, hmail⟩, ?_⟩
  rw [hrun]
  simp only [mailRequest, htrimmed]

end Steps

end Stepwise
