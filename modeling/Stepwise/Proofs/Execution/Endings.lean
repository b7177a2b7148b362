import Stepwise.Proofs.Execution.Settling
import Stepwise.Proofs.Validation.Handlers

/-! # How accepted steps end

A step whose configuration its handler accepts ends in one of the ways of `Settled`: with a report
(`IsReport`), for want of a collaborator, with a failure outside, or with a late refusal of its
configuration. There are three of these (`LateRefusal`): a delay beyond the bound of the settings, a
result that is no number, and an app without an address. Conditions are left out: a comparison with
an integer beyond the binary64 numbers is a fault of another kind.

Each handler reads again what its check has read, so what the check found is there
(`Config.item_of_requireText`, `delayMs_of_unbounded`); the main statement is `accepted_settles`.

Texts are made of Unicode scalar values, which can always be encoded, and the integers that a step
writes are those within the limit of `Value.maxDigits`. Nothing is said of steps that are given
others. -/

namespace Stepwise

variable {σ : Type} {config : Fields} {name : String}

/-! ## Accepted fields -/

namespace Config

/-- A field that must be bound is, if it is not null. -/
theorem item_of_field {value : Value} (h : Value.field name config = value)
    (hvalue : value.isNull = false) : item config name = .ok value := by
  unfold Value.field at h
  unfold item
  cases hfind : Bindings.find? name config with
  | some found =>
    rw [hfind] at h
    rw [← h]
    rfl
  | none =>
    rw [hfind] at h
    rw [← h] at hvalue
    cases hvalue

/-- A field that was found to be there. -/
theorem item_of_require {detail : Option String} {value : Value}
    (h : require config name detail = .ok value) : item config name = .ok value := by
  unfold require at h
  dsimp only at h
  split at h
  · cases h
  next hblank =>
    obtain rfl : Value.field name config = value := Except.ok.inj h
    refine item_of_field rfl ?_
    cases hfield : Value.field name config with
    | null =>
      rw [hfield] at hblank
      exact absurd rfl hblank
    | _ => rfl

/-- A field that was found to be a text. -/
theorem item_of_requireText {s : String} (h : requireText config name = .ok s) :
    item config name = .ok (.text s) := by
  obtain ⟨value, hrequire, h⟩ := bind_eq_ok_iff.mp h
  cases value with
  | text t =>
    obtain rfl : t = s := Except.ok.inj h
    exact item_of_require hrequire
  | _ => cases h

/-- A field that was found to be a text is bound to it. -/
theorem find?_of_requireText {s : String} (h : requireText config name = .ok s) :
    config.find? name = some (.text s) := by
  have hitem := item_of_requireText h
  unfold item at hitem
  split at hitem
  next value hvalue => rw [hvalue, Except.ok.inj hitem]
  next => cases hitem

/-- A field that was found to be a text is not blank. -/
theorem isBlank_of_requireText {s : String} (h : requireText config name = .ok s) :
    Text.isBlank s = false := by
  obtain ⟨value, hrequire, htext⟩ := bind_eq_ok_iff.mp h
  unfold require at hrequire
  dsimp only at hrequire
  split at hrequire
  · cases hrequire
  next hblank =>
    rw [Bool.not_eq_true, Except.ok.inj hrequire] at hblank
    cases value with
    | text t =>
      obtain rfl : t = s := Except.ok.inj htext
      exact hblank
    | _ => cases htext

/-- The value that a field is bound to. -/
theorem field_of_find? {value : Value} (h : config.find? name = some value) :
    Value.field name config = value := by
  rw [Value.field, h]
  rfl

/-- A field that is a text and not blank is required in vain. -/
theorem requireText_of_find? {s : String} (hfind : config.find? name = some (.text s))
    (hblank : Text.isBlank s = false) : requireText config name = .ok s := by
  simp only [requireText, require, field_of_find? hfind, isBlank, hblank]
  rfl

/-- The text of a field that was found to be one. -/
theorem trimmed_of_requireText {s : String} (h : requireText config name = .ok s) :
    trimmed config name = .ok (Text.trimmed s) := by
  unfold trimmed
  rw [item_of_requireText h]
  rfl

/-- A field that is a text is read without its blanks. -/
theorem trimmed_of_find? {s : String} (hfind : config.find? name = some (.text s)) :
    trimmed config name = .ok (Text.trimmed s) := by
  rw [trimmed, item, hfind]
  rfl

/-- A field that was found to be bound. -/
theorem exists_item_of_binds (h : config.binds name = true) :
    ∃ value, item config name = .ok value := by
  obtain ⟨value, hfind⟩ := Option.isSome_iff_exists.mp h
  refine ⟨value, ?_⟩
  unfold item
  rw [hfind]

end Config

namespace Steps

/-- An action that was chosen is one of the table. -/
theorem mem_of_chooseAction {table : List (String × String)} {action : String}
    (h : chooseAction table config = .ok action) : action ∈ table.map Prod.snd := by
  obtain ⟨value, -, h⟩ := bind_eq_ok_iff.mp h
  dsimp only at h
  split at h
  next found hlookup =>
    obtain rfl : found = action := Except.ok.inj h
    rw [List.lookup_eq_some_iff] at hlookup
    obtain ⟨before, after, heq, -⟩ := hlookup
    rw [heq]
    simp
  next => cases h

/-- A delay that was accepted without a bound is the one with a bound, unless it is beyond that. -/
theorem delayMs_of_unbounded {delay : Binary64} (h : delayMs config .null = .ok delay)
    (bound : Value) : delayMs config bound =
      if bound.isNull then .ok delay
      else exceeds delay bound >>= fun tooLong =>
        if tooLong then throw (.configuration "delay" s!"must not exceed {bound.toText} ms")
        else .ok delay := by
  unfold delayMs at h ⊢
  dsimp only at h ⊢
  obtain ⟨hset, h⟩ := of_refuseIf_eq_ok nofun h
  obtain ⟨read, hread, h⟩ := bind_eq_ok_iff.mp h
  obtain ⟨hsign, h⟩ := of_refuseIf_eq_ok nofun h
  obtain rfl : read = delay := Except.ok.inj h
  -- up to the bound both read the same, so only the comparison with it is left
  rw [hset, hread, if_neg Bool.false_ne_true]
  dsimp only [bind, Except.bind]
  rw [hsign, if_neg Bool.false_ne_true]
  cases bound.isNull with
  | true => rfl
  | false => rfl

/-- An operation on two numbers that were accepted is refused by name, if it is refused. -/
theorem Operation.apply_refuses {op : Operation} {x y : Binary64} {fault : Fault}
    (hdivisor : ((op = .divide || op = .modulo) && y.isZero) = false)
    (h : op.apply x y = .error fault) :
    ∃ field detail, fault = .configuration field detail := by
  cases op with
  | add => cases h
  | subtract => cases h
  | multiply => cases h
  | divide =>
    have hzero : y.isZero = false := hdivisor
    rw [Operation.apply, if_neg (by rw [hzero]; exact Bool.false_ne_true)] at h
    cases h
  | modulo =>
    have hzero : y.isZero = false := hdivisor
    rw [Operation.apply, if_neg (by rw [hzero]; exact Bool.false_ne_true)] at h
    cases h
  | power =>
    rw [Operation.apply] at h
    cases hpower : powerOf x y with
    | error other =>
      rw [hpower] at h
      exact ⟨_, _, (Except.error.inj h).symm⟩
    | ok result =>
      rw [hpower] at h
      cases h

end Steps

/-! ## The map address -/

namespace Pattern

/-- A name without members, that does not start like a number, leads to the value that has it. -/
theorem lookUp_of_find? {values : Fields} {name : List Char} {value : Value}
    (hcut : Text.spanUntil (fun c => c == '.' || c == '[') name = (name, []))
    (hnumber : (takeNumber name).toOption = some (none, name)) (hname : name.isEmpty = false)
    (hfind : values.find? (String.ofList name) = some value) : lookUp values name = .ok value := by
  unfold lookUp
  rw [hcut]
  cases htake : takeNumber name with
  | error fault =>
    rw [htake] at hnumber
    cases hnumber
  | ok taken =>
    rw [htake] at hnumber
    obtain rfl : taken = (none, name) := Option.some.inj hnumber
    have hmembers : members [] = [] := by
      unfold members
      rfl
    simp only [htake, Except.mapError, bind, Except.bind, hname, hfind, hmembers]
    rfl

/-- A pattern whose placeholders are all filled. -/
theorem exists_fill {values : Fields} {pattern : String}
    (h : ∀ piece ∈ pieces pattern.toList, (∃ c, piece = .literal c) ∨
      ∃ name value, piece = .placeholder ⟨name, none, []⟩ ∧ lookUp values name = .ok value) :
    ∃ text, fill pattern values = .ok text := by
  have hpieces : ∃ texts, fillWithin values 2 pattern.toList = .ok texts := by
    unfold fillWithin
    refine Exists.elim (exists_mapM_eq_ok ?_) fun texts htexts =>
      ⟨texts.flatten, bind_eq_ok_iff.mpr ⟨texts, htexts, rfl⟩⟩
    intro piece hpiece
    rcases h piece hpiece with ⟨c, rfl⟩ | ⟨name, value, rfl, hlookUp⟩
    · exact ⟨[c], rfl⟩
    · refine ⟨value.toText.toList, ?_⟩
      simp only [hlookUp]
      rfl
  obtain ⟨texts, htexts⟩ := hpieces
  refine ⟨String.ofList texts, ?_⟩
  rw [fill, htexts]
  rfl

/-- The pattern of the default settings: two placeholders behind a fixed text. -/
theorem pieces_default :
    pieces "https://maps.google.com/?q=\x7blatitude\x7d,\x7blongitude\x7d".toList =
      "https://maps.google.com/?q=".toList.map .literal ++
        [.placeholder ⟨"latitude".toList, none, []⟩, .literal ',',
          .placeholder ⟨"longitude".toList, none, []⟩] := by
  decide +kernel

end Pattern

namespace Steps

/-- Every place has an address on the map of the default settings. -/
theorem exists_mapsAddress {settings : Settings}
    (h : settings.mapsUrl = ({} : Settings).mapsUrl) (latitude longitude : Value) :
    ∃ address, mapsAddress settings latitude longitude = .ok address := by
  unfold mapsAddress
  rw [h]
  refine Pattern.exists_fill ?_
  rw [Pattern.pieces_default]
  -- a piece belongs to the fixed text, or to the place behind it
  intro piece hpiece
  rcases List.mem_append.mp hpiece with hliteral | hplace
  · obtain ⟨c, -, rfl⟩ := List.mem_map.mp hliteral
    exact .inl ⟨c, rfl⟩
  · simp only [List.mem_cons, List.not_mem_nil, or_false] at hplace
    rcases hplace with rfl | rfl | rfl
    · exact .inr ⟨_, latitude, rfl,
        Pattern.lookUp_of_find? (by decide) (by decide +kernel) (by decide) rfl⟩
    · exact .inl ⟨',', rfl⟩
    · exact .inr ⟨_, longitude, rfl,
        Pattern.lookUp_of_find? (by decide) (by decide +kernel) (by decide) rfl⟩

/-! ## Late refusals and reports -/

/-- **A late refusal**: what the handler of a step may still find wrong with a configuration that it
accepted, under a bound for delays. -/
inductive LateRefusal (bound : Value) (handler : Handler σ) (config : Fields) : Prop
  /-- The delay is beyond the bound. -/
  | tooLong (htype : handler.stepType = "delay") {delay : Binary64}
      (hdelay : delayMs config .null = .ok delay) (hlong : exceeds delay bound = .ok true)
  /-- The operation gives no result, or one that is not finite. -/
  | noResult (htype : handler.stepType = "math-op") {operation : String} {op : Operation}
      {x y : Binary64} (hoperation : Config.requireText config "operation" = .ok operation)
      (hop : operations.lookup operation = some op) (hx : Config.number config "number1" = .ok x)
      (hy : Config.number config "number2" = .ok y)
      (hnone : ∀ result, op.apply x y = .ok result → result.isFinite = false)
  /-- Neither the configuration nor the directory has an address for the app. -/
  | noAddress {directory : AppDirectory} (hdirectory : handler.directory = some directory)
      (hurl : (Value.field "url" config).isTrue = false)
      (happ : (directory.resolve
        ((Value.field "appName" config).orElse (.text "")).toText).isTrue = false)

/-- What a step reports: an object that does not speak of success. -/
def IsReport (value : Value) : Prop :=
  ∃ fields, value = .object fields ∧ Bindings.binds "success" fields = false

/-! ## Handlers -/

open Stepwise.Action (Settles)

variable {context : Context σ} {late : Prop}

theorem settles_notification (hplain : context.platform.IsPlain)
    (h : (notification : Handler σ).validate config = .ok ()) :
    Settles context.platform late IsReport (notification.execute config context) := by
  obtain ⟨message, hmessage, -⟩ := bind_eq_ok_iff.mp h
  refine (Settles.reach context _ _).andThen fun _ => ?_
  refine (Settles.lift_ok (Config.item_of_requireText hmessage)).bind ?_
  rintro _ rfl
  refine (Settles.call hplain _ fun _ => rfl).andThen fun _ => ?_
  exact .pure ⟨_, rfl, rfl⟩

/-- A delay that was accepted is refused late only if it is beyond the bound. -/
theorem settled_delayMs {bound : Value}
    (hbound : bound = .null ∨ ∃ limit, bound.number? = some limit) {ms : Binary64}
    (hms : delayMs config .null = .ok ms) :
    Settled (LateRefusal bound (delay : Handler σ) config) (fun _ => True) false
      (delayMs config bound) := by
  rw [delayMs_of_unbounded hms]
  rcases hbound with rfl | ⟨limit, hlimit⟩
  · exact .done trivial
  · have hnumber : bound.isNull = false := by
      cases bound with
      | null => cases hlimit
      | _ => rfl
    have hcompares : ∃ tooLong, exceeds ms bound = .ok tooLong := by
      unfold exceeds
      rw [hlimit]
      exact ⟨_, rfl⟩
    obtain ⟨tooLong, hexceeds⟩ := hcompares
    rw [hnumber, if_neg Bool.false_ne_true, hexceeds]
    cases tooLong with
    | true => exact .late "delay" _ (.tooLong rfl hms hexceeds)
    | false => exact .done trivial

theorem settles_delay (hplain : context.platform.IsPlain)
    (hbound : context.settings.maxDelayMs = .null ∨
      ∃ limit, context.settings.maxDelayMs.number? = some limit)
    (h : (delay : Handler σ).validate config = .ok ()) :
    Settles context.platform (LateRefusal context.settings.maxDelayMs (delay : Handler σ) config)
      IsReport (delay.execute config context) := by
  obtain ⟨ms, hms, -⟩ := bind_eq_ok_iff.mp h
  refine (Settles.lift (settled_delayMs hbound hms)).andThen fun ms => ?_
  refine (Settles.sleep hplain _).andThen fun _ => ?_
  exact .pure ⟨_, rfl, rfl⟩

theorem settles_setVariable (h : (setVariable : Handler σ).validate config = .ok ()) :
    Settles context.platform late IsReport (setVariable.execute config context) := by
  obtain ⟨name, hname, h⟩ := bind_eq_ok_iff.mp h
  obtain ⟨hbinds, -⟩ := of_refuseIf_eq_ok nofun h
  rw [Bool.not_eq_eq_eq_not, Bool.not_false] at hbinds
  obtain ⟨value, hvalue⟩ := Config.exists_item_of_binds hbinds
  refine (Settles.lift_ok (Config.trimmed_of_requireText hname)).bind ?_
  rintro _ rfl
  refine (Settles.lift_ok hvalue).bind ?_
  rintro _ rfl
  refine (Settles.setVariable _ _).andThen fun _ => ?_
  refine (Settles.note _).andThen fun _ => ?_
  exact .pure ⟨_, rfl, rfl⟩

theorem settles_getVariable (h : (getVariable : Handler σ).validate config = .ok ()) :
    Settles context.platform late IsReport (getVariable.execute config context) := by
  obtain ⟨name, hname, -⟩ := bind_eq_ok_iff.mp h
  refine (Settles.lift_ok (Config.trimmed_of_requireText hname)).bind ?_
  rintro _ rfl
  refine Settles.getStore.andThen fun store => ?_
  exact .pure ⟨_, rfl, rfl⟩

theorem settles_textOperation (h : (textOperation : Handler σ).validate config = .ok ()) :
    Settles context.platform late IsReport (textOperation.execute config context) := by
  obtain ⟨action, haction, -⟩ := bind_eq_ok_iff.mp h
  refine (Settles.lift_ok (Config.item_of_requireText haction)).bind ?_
  rintro _ rfl
  exact .pure ⟨_, rfl, rfl⟩

/-- An operation on two numbers that were accepted is refused late only if it has no result. -/
theorem settled_apply {op : Operation} {x y : Binary64}
    (hdivisor : ((op = .divide || op = .modulo) && y.isZero) = false)
    (hlate : (∀ result, op.apply x y ≠ .ok result) → late) :
    Settled late (fun result => op.apply x y = .ok result) false (op.apply x y) := by
  cases hresult : op.apply x y with
  | error fault =>
    obtain ⟨field, detail, rfl⟩ := Operation.apply_refuses hdivisor hresult
    refine .late field detail (hlate ?_)
    rw [hresult]
    exact nofun
  | ok result => exact .done rfl

theorem settles_arithmetic (bound : Value) (h : (arithmetic : Handler σ).validate config = .ok ()) :
    Settles context.platform (LateRefusal bound (arithmetic : Handler σ) config) IsReport
      (arithmetic.execute config context) := by
  obtain ⟨operation, hoperation, h⟩ := bind_eq_ok_iff.mp h
  cases hop : operations.lookup operation with
  | none =>
    rw [hop] at h
    cases h
  | some op =>
    rw [hop] at h
    obtain ⟨x, hx, h⟩ := bind_eq_ok_iff.mp h
    obtain ⟨y, hy, h⟩ := bind_eq_ok_iff.mp h
    obtain ⟨hdivisor, -⟩ := of_refuseIf_eq_ok nofun h
    have hnamed : operationOf (.text operation) = op := by
      simp only [operationOf, Value.text?, Option.bind_some, hop, Option.getD_some]
    refine (Settles.lift_ok (Config.item_of_requireText hoperation)).bind ?_
    rintro _ rfl
    -- both numbers are read again as the check has read them
    refine (Settles.lift_ok hx).bind ?_
    rintro x rfl
    refine (Settles.lift_ok hy).bind ?_
    rintro y rfl
    rw [hnamed]
    -- an operation without a result is one without a finite result
    have hlate : (∀ result, op.apply x y = .ok result → result.isFinite = false) →
        LateRefusal bound (arithmetic : Handler σ) config := .noResult rfl hoperation hop hx hy
    have happly := settled_apply hdivisor fun hnone =>
      hlate fun result hresult => absurd hresult (hnone result)
    refine (Settles.lift happly).bind ?_
    intro result hresult
    dsimp only
    refine .ite ?_ ?_
    · intro hinfinite
      refine .refuse_bind (hlate ?_) _ _
      intro other hother
      obtain rfl : result = other := Except.ok.inj (hresult.symm.trans hother)
      rw [Bool.not_eq_eq_eq_not, Bool.not_true] at hinfinite
      exact hinfinite
    · intro _
      exact .pure ⟨_, rfl, rfl⟩

theorem settles_shortMessage (hplain : context.platform.IsPlain)
    (h : (shortMessage : Handler σ).validate config = .ok ()) :
    Settles context.platform late IsReport (shortMessage.execute config context) := by
  obtain ⟨phone, hphone, h⟩ := bind_eq_ok_iff.mp h
  obtain ⟨message, hmessage, -⟩ := bind_eq_ok_iff.mp h
  refine (Settles.reach context _ _).andThen fun _ => ?_
  refine (Settles.lift_ok (Config.trimmed_of_requireText hphone)).bind ?_
  rintro _ rfl
  refine (Settles.lift_ok (Config.item_of_requireText hmessage)).bind ?_
  rintro _ rfl
  -- a text has a length
  refine (Settles.lift_ok rfl).bind ?_
  rintro _ rfl
  refine (Settles.note _).andThen fun _ => ?_
  refine (Settles.call hplain _ fun _ => rfl).andThen fun _ => ?_
  exact .pure ⟨_, rfl, rfl⟩

theorem settles_mail (hplain : context.platform.IsPlain)
    (h : (mail : Handler σ).validate config = .ok ()) :
    Settles context.platform late IsReport (mail.execute config context) := by
  obtain ⟨address, haddress, h⟩ := bind_eq_ok_iff.mp h
  obtain ⟨-, h⟩ := of_refuseIf_eq_ok nofun h
  obtain ⟨subject, hsubject, h⟩ := bind_eq_ok_iff.mp h
  obtain ⟨message, hmessage, -⟩ := bind_eq_ok_iff.mp h
  refine (Settles.reach context _ _).andThen fun _ => ?_
  refine (Settles.lift_ok (Config.trimmed_of_requireText haddress)).bind ?_
  rintro _ rfl
  refine (Settles.lift_ok (Config.item_of_requireText hsubject)).bind ?_
  rintro _ rfl
  refine (Settles.lift_ok (Config.item_of_requireText hmessage)).bind ?_
  rintro _ rfl
  refine (Settles.call hplain _ fun _ => rfl).andThen fun _ => ?_
  exact .pure ⟨_, rfl, rfl⟩

/-- The headers that a value gives: the fields of an object, and none otherwise. -/
def headersOf : Value → Fields
  | .object fields => fields
  | _ => []

/-- What can be headers is written as texts, header by header. -/
theorem headerTexts_of_isHeaders {value : Value} (h : isHeaders value = true) :
    headerTexts value = .ok ((headersOf value).map fun (name, item) => (name, item.toText)) := by
  cases value with
  | null => rfl
  | object fields =>
    cases fields with
    | nil => rfl
    | cons field rest => rfl
  | _ => cases h

/-- Opening an address. -/
theorem settles_openAddress (hplain : context.platform.IsPlain) (url : Value) :
    Settles context.platform late (fun _ => True) (openAddress context url) := by
  refine .call_bind hplain ?_ ?_
  · intro opened haccepted
    have hopened : (!opened) = false := haccepted
    rw [hopened]
    exact .pure trivial
  · intro opened hdeclined store world
    have hopened : (!opened) = true := hdeclined
    rw [hopened]
    exact ⟨_, _, rfl⟩

theorem settles_openUrl (hplain : context.platform.IsPlain)
    (h : (openUrl : Handler σ).validate config = .ok ()) :
    Settles context.platform late IsReport (openUrl.execute config context) := by
  obtain ⟨url, hurl, -⟩ := bind_eq_ok_iff.mp h
  refine (Settles.reach context _ _).andThen fun _ => ?_
  refine (Settles.lift_ok (Config.trimmed_of_requireText hurl)).bind ?_
  rintro _ rfl
  refine (settles_openAddress hplain _).andThen fun _ => ?_
  exact .pure ⟨_, rfl, rfl⟩

theorem settles_call (hplain : context.platform.IsPlain)
    (h : (call : Handler σ).validate config = .ok ()) :
    Settles context.platform late IsReport (call.execute config context) := by
  obtain ⟨phone, hphone, -⟩ := bind_eq_ok_iff.mp h
  refine (Settles.reach context _ _).andThen fun _ => ?_
  refine (Settles.lift_ok (Config.trimmed_of_requireText hphone)).bind ?_
  rintro _ rfl
  refine (settles_openAddress hplain _).andThen fun _ => ?_
  exact .pure ⟨_, rfl, rfl⟩

theorem settles_openApp (hplain : context.platform.IsPlain) (directory : AppDirectory)
    (bound : Value) :
    Settles context.platform (LateRefusal bound (openApp directory : Handler σ) config) IsReport
      ((openApp directory).execute config context) := by
  refine (Settles.reach context _ _).andThen fun _ => ?_
  dsimp only
  refine .ite ?_ ?_
  · intro hnone
    rw [Bool.not_eq_true', Value.isTrue_orElse, Bool.or_eq_false_iff] at hnone
    exact .refuse_bind (.noAddress rfl hnone.1 hnone.2) _ _
  · intro _
    refine (settles_openAddress hplain _).andThen fun _ => ?_
    exact .pure ⟨_, rfl, rfl⟩

/-- A webhook that was accepted has an address, a method that is one of those known if it has any,
and what can be headers. -/
theorem accepted_webhook {edition : Url.Edition}
    (h : (webhook edition : Handler σ).validate config = .ok ()) :
    (∃ written, Config.requireText config "url" = .ok written) ∧
      ((Value.field "method" config).isTrue = true →
        upperText (Value.field "method" config).toText ∈ httpMethods) ∧
      isHeaders (Value.field "headers" config) = true := by
  obtain ⟨written, hwritten, h⟩ := bind_eq_ok_iff.mp h
  obtain ⟨isWeb, -, h⟩ := bind_eq_ok_iff.mp h
  obtain ⟨-, h⟩ := of_refuseIf_eq_ok nofun h
  obtain ⟨hmethod, h⟩ := of_refuseIf_eq_ok nofun h
  obtain ⟨hheaders, -⟩ := of_refuseIf_eq_ok nofun h
  refine ⟨⟨written, hwritten⟩, ?_, ?_⟩
  · intro hgiven
    rw [hgiven, Bool.true_and, Bool.not_eq_false', List.contains_iff_mem] at hmethod
    exact hmethod
  · rwa [Bool.not_eq_eq_eq_not, Bool.not_false] at hheaders

theorem settles_webhook (hplain : context.platform.IsPlain) {edition : Url.Edition}
    (h : (webhook edition : Handler σ).validate config = .ok ()) :
    Settles context.platform late IsReport ((webhook edition).execute config context) := by
  obtain ⟨⟨url, hurl⟩, -, hheaders⟩ := accepted_webhook h
  refine (Settles.reach context _ _).andThen fun _ => ?_
  refine (Settles.lift_ok (Config.trimmed_of_requireText hurl)).bind ?_
  rintro _ rfl
  -- what the check accepted as headers can be written as texts
  refine (Settles.lift_ok (headerTexts_of_isHeaders hheaders)).bind ?_
  rintro _ rfl
  refine (Settles.note _).andThen fun _ => ?_
  refine .call_bind hplain ?_ ?_
  · intro response haccepted
    have hresponse : (!response.ok) = false := haccepted
    rw [hresponse]
    exact .pure ⟨_, rfl, rfl⟩
  · intro response hdeclined store world
    have hresponse : (!response.ok) = true := hdeclined
    rw [hresponse]
    exact ⟨_, _, rfl⟩

theorem settles_clipboard (hplain : context.platform.IsPlain)
    (h : (clipboard : Handler σ).validate config = .ok ()) :
    Settles context.platform late IsReport (clipboard.execute config context) := by
  obtain ⟨action, haction, h⟩ := bind_eq_ok_iff.mp h
  refine (Settles.reach context _ _).andThen fun _ => ?_
  -- the action is chosen again, as it was by the check
  refine (Settles.lift_ok haction).bind ?_
  rintro _ rfl
  refine .ite ?_ ?_
  · intro hcopy
    rw [if_pos hcopy] at h
    obtain ⟨text, htext, -⟩ := bind_eq_ok_iff.mp h
    refine (Settles.lift_ok (Config.item_of_requireText htext)).bind ?_
    rintro _ rfl
    refine (Settles.call hplain _ fun _ => rfl).andThen fun _ => ?_
    exact .pure ⟨_, rfl, rfl⟩
  · intro _
    refine (Settles.call hplain _ fun _ => rfl).andThen fun _ => ?_
    exact .pure ⟨_, rfl, rfl⟩

/-- Asking where the device is. -/
theorem settles_currentPosition (hplain : context.platform.IsPlain) :
    Settles context.platform late (fun _ => True) (currentPosition context) :=
  (Settles.reach context _ _).andThen fun _ => .call hplain _ fun _ => rfl

/-- Reporting where the device is. -/
theorem settles_reportPosition (hplain : context.platform.IsPlain) :
    Settles context.platform late IsReport (reportPosition context) := by
  refine (settles_currentPosition hplain).andThen fun position => ?_
  exact .pure ⟨_, rfl, rfl⟩

/-- Sharing where the device is. -/
theorem settles_sharePosition (hplain : context.platform.IsPlain)
    (hmaps : context.settings.mapsUrl = ({} : Settings).mapsUrl) :
    Settles context.platform late IsReport (sharePosition config context) := by
  refine (settles_currentPosition hplain).andThen fun position => ?_
  obtain ⟨address, haddress⟩ := exists_mapsAddress hmaps position.latitude position.longitude
  refine (Settles.lift_ok haddress).bind ?_
  rintro _ rfl
  refine .ite ?_ ?_
  · intro _
    refine (Settles.note _).andThen fun _ => ?_
    refine (Settles.reach context _ _).andThen fun _ => ?_
    refine (Settles.call hplain _ fun _ => rfl).andThen fun _ => ?_
    exact .pure ⟨_, rfl, rfl⟩
  · intro _
    exact .pure ⟨_, rfl, rfl⟩

/-- The place that a map is opened at, if it was accepted. -/
theorem settles_mapPlace (hplain : context.platform.IsPlain)
    (h : (Value.field "useCurrentLocation" config).isTrue = false →
      ∃ latitude longitude, Config.number config "latitude" = .ok latitude ∧
        Config.number config "longitude" = .ok longitude) :
    Settles context.platform late (fun _ => True) (mapPlace config context) := by
  refine .ite ?_ ?_
  · intro _
    refine (settles_currentPosition hplain).andThen fun position => ?_
    exact .pure trivial
  · intro hgiven
    rw [Bool.not_eq_true] at hgiven
    obtain ⟨latitude, longitude, hlatitude, hlongitude⟩ := h hgiven
    refine (Settles.lift_ok hlatitude).bind ?_
    rintro _ rfl
    refine (Settles.lift_ok hlongitude).bind ?_
    rintro _ rfl
    exact .pure trivial

/-- Opening a map at a place, if that was accepted. -/
theorem settles_openMap (hplain : context.platform.IsPlain)
    (hmaps : context.settings.mapsUrl = ({} : Settings).mapsUrl)
    (h : (Value.field "useCurrentLocation" config).isTrue = false →
      ∃ latitude longitude, Config.number config "latitude" = .ok latitude ∧
        Config.number config "longitude" = .ok longitude) :
    Settles context.platform late IsReport (openMap config context) := by
  refine (Settles.reach context _ _).andThen fun _ => ?_
  refine (settles_mapPlace hplain h).andThen fun (latitude, longitude) => ?_
  obtain ⟨place, hplace⟩ := exists_mapsAddress hmaps latitude longitude
  refine (Settles.lift_ok hplace).bind ?_
  rintro _ rfl
  refine (settles_openAddress hplain _).andThen fun _ => ?_
  exact .pure ⟨_, rfl, rfl⟩

theorem settles_location (hplain : context.platform.IsPlain)
    (hmaps : context.settings.mapsUrl = ({} : Settings).mapsUrl)
    (h : (location : Handler σ).validate config = .ok ()) :
    Settles context.platform late IsReport (location.execute config context) := by
  obtain ⟨action, haction, h⟩ := bind_eq_ok_iff.mp h
  have hknown := mem_of_chooseAction haction
  refine (Settles.lift_ok haction).bind ?_
  rintro action rfl
  refine .ite (fun _ => settles_reportPosition hplain) fun hcurrent => ?_
  refine .ite (fun _ => settles_sharePosition hplain hmaps) fun hshare => ?_
  -- the only action left is to open a map, and its place was checked
  refine settles_openMap hplain hmaps ?_
  intro hgiven
  have hopen : (action == "open-maps") = true := by
    simp only [locationActions, List.map_cons, List.map_nil, List.mem_cons, List.not_mem_nil,
      or_false] at hknown
    simp only [beq_iff_eq] at hcurrent hshare ⊢
    grind
  rw [hopen, hgiven, Bool.not_false, Bool.and_self, if_pos rfl] at h
  obtain ⟨latitude, hlatitude, h⟩ := bind_eq_ok_iff.mp h
  obtain ⟨longitude, hlongitude, -⟩ := bind_eq_ok_iff.mp h
  exact ⟨latitude, longitude, hlatitude, hlongitude⟩

theorem settles_loop (h : (loop : Handler σ).validate config = .ok ()) :
    Settles context.platform late IsReport (loop.execute config context) := by
  obtain ⟨loopType, htype, h⟩ := bind_eq_ok_iff.mp h
  refine (Settles.lift_ok (Config.item_of_require htype)).bind ?_
  rintro _ rfl
  refine .ite ?_ ?_
  · intro hcounted
    rw [if_pos hcounted] at h
    obtain ⟨count, hcount, -⟩ := bind_eq_ok_iff.mp h
    refine (Settles.lift_ok hcount).bind ?_
    rintro _ rfl
    exact .pure ⟨_, rfl, rfl⟩
  · intro _
    exact .pure ⟨_, rfl, rfl⟩

end Steps

/-! ## The built-in registries -/

/-- **A handler of a built-in registry settles** what it accepted, unless it compares. -/
theorem Registry.IsBuiltIn.settles {registry : Registry σ} (h : registry.IsBuiltIn)
    {stepType : String} {handler : Handler σ} (hget : registry.get? stepType = some handler)
    (hother : handler.stepType ≠ "condition") {context : Context σ}
    (hplain : context.platform.IsPlain)
    (hmaps : context.settings.mapsUrl = ({} : Settings).mapsUrl)
    (hbound : context.settings.maxDelayMs = .null ∨
      ∃ limit, context.settings.maxDelayMs.number? = some limit)
    (haccepted : handler.validate config = .ok ()) :
    Action.Settles context.platform
      (Steps.LateRefusal context.settings.maxDelayMs handler config) Steps.IsReport
      (handler.execute config context) :=
  h.elim (motive := fun handler => handler.stepType ≠ "condition" →
      handler.validate config = .ok () → Action.Settles context.platform
        (Steps.LateRefusal context.settings.maxDelayMs handler config) Steps.IsReport
        (handler.execute config context))
    (fun _ => Steps.settles_notification hplain) (fun _ => Steps.settles_delay hplain hbound)
    (fun _ => Steps.settles_setVariable) (fun _ => Steps.settles_getVariable)
    (fun _ => Steps.settles_textOperation) (fun _ => Steps.settles_arithmetic _)
    (fun _ => Steps.settles_shortMessage hplain) (fun _ => Steps.settles_call hplain)
    (fun _ => Steps.settles_mail hplain) (fun _ _ => Steps.settles_webhook hplain)
    (fun _ => Steps.settles_openUrl hplain) (fun _ => Steps.settles_location hplain hmaps)
    (fun _ => Steps.settles_clipboard hplain)
    (fun directory _ _ => Steps.settles_openApp hplain directory _)
    (fun hother => absurd rfl hother) (fun _ => Steps.settles_loop) hget hother haccepted

namespace Steps

/-- **How a step ends that was accepted**, on a plain platform and with the default settings but
for the bound of delays. It gives a report that does not speak of success, or fails with one of the
three step faults of the library; it fails outside exactly if the platform refused one of its
requests; and it refuses its configuration only for a delay beyond the bound, a result that is no
finite number, or an app without an address. -/
theorem accepted_settles {registry : Registry σ} (hregistry : registry.IsBuiltIn)
    {stepType : String} {handler : Handler σ} (hget : registry.get? stepType = some handler)
    (hother : handler.stepType ≠ "condition") (haccepted : handler.validate config = .ok ())
    {platform : Platform σ} (hplain : platform.IsPlain) {bound : Value}
    (hbound : bound = .null ∨ ∃ limit, bound.number? = some limit) (step : Step) (store : Store)
    (world : σ) :
    let outcome :=
      (handler.execute config ⟨platform, { maxDelayMs := bound }, step⟩).run store world
    ((∃ fields, outcome.result = .ok (.object fields) ∧ Bindings.binds "success" fields = false) ∨
      (∃ field detail, outcome.result = .error (.configuration field detail)) ∨
      (∃ collaborator needing, outcome.result = .error (.unsupported collaborator needing)) ∨
      ∃ reason, outcome.result = .error (.external reason)) ∧
    ((∃ reason, outcome.result = .error (.external reason)) ↔
      platform.refusesSome outcome.requests world = true) ∧
    ∀ field detail, outcome.result = .error (.configuration field detail) →
      LateRefusal bound handler config := by
  intro outcome
  have hsettles : Action.Settles platform (LateRefusal bound handler config) IsReport
      (handler.execute config ⟨platform, { maxDelayMs := bound }, step⟩) :=
    hregistry.settles hget hother hplain rfl hbound haccepted
  obtain ⟨-, hsettled⟩ := hsettles store world
  change Settled _ _ (platform.refusesSome outcome.requests world) outcome.result at hsettled
  -- each way of settling decides all three parts
  generalize platform.refusesSome outcome.requests world = refused at hsettled ⊢
  generalize outcome.result = result at hsettled ⊢
  cases hsettled with
  | done hreport =>
    obtain ⟨fields, rfl, hsuccess⟩ := hreport
    exact ⟨.inl ⟨fields, rfl, hsuccess⟩, ⟨nofun, nofun⟩, nofun⟩
  | failed reason =>
    exact ⟨.inr (.inr (.inr ⟨reason, rfl⟩)), ⟨fun _ => rfl, fun _ => ⟨reason, rfl⟩⟩, nofun⟩
  | unsupported collaborator needing =>
    exact ⟨.inr (.inr (.inl ⟨collaborator, needing, rfl⟩)), ⟨nofun, nofun⟩, nofun⟩
  | late field detail hlate =>
    exact ⟨.inr (.inl ⟨field, detail, rfl⟩), ⟨nofun, nofun⟩, fun _ _ _ => hlate⟩

end Steps

end Stepwise
