import Stepwise.Proofs.Execution.Handover
import Stepwise.Proofs.Url.Escapes

/-! # User text inside addresses

Two step types put a text of their configuration into an address that they open: a `call` step its
phone number, and a `location` step the label of a map. The text stands at the end of the address,
behind a mark, and does not get out of there: it is carried by a part in which nothing but
characters that stand for themselves and escapes occur (`Url.Carries`). What the steps open is said
by `Action.opens`; the main statement is `Steps.user_text_contained`. -/

namespace Stepwise

variable {σ α β : Type}

/-! ## What an action opens -/

/-- The address that a request is to open, if it is to open one. -/
def Request.opened? : Request → Option Value
  | .openUrl url => some url
  | _ => none

namespace Action

variable {store : Store} {world : σ}

/-- **The addresses that an action opens**, in order. -/
def opens (action : Action σ α) (store : Store) (world : σ) : List Value :=
  (action.run store world).requests.filterMap Request.opened?

/-- Behind an action that gives a value, the next one opens addresses too. -/
theorem opens_bind_ok {first : Action σ α} {next : α → Action σ β} {value : α}
    (h : (first.run store world).result = .ok value) :
    (first >>= next).opens store world = first.opens store world ++
      (next value).opens (first.run store world).store (first.run store world).world := by
  rw [opens, run_bind_ok h]
  exact List.filterMap_append

/-- An action that fails opens no more than it has opened. -/
theorem opens_bind_error {first : Action σ α} {next : α → Action σ β} {fault : Fault}
    (h : (first.run store world).result = .error fault) :
    (first >>= next).opens store world = first.opens store world := by
  rw [opens, run_bind_error h]
  rfl

/-- An action that asks for nothing to be opened opens nothing. -/
theorem Asks.opens_eq_nil {action : Action σ α} (h : action.Asks (·.opened? = none))
    (store : Store) (world : σ) : action.opens store world = [] :=
  List.filterMap_eq_nil_iff.mpr (h store world)

/-- What opens nothing may follow. -/
theorem opens_bind_of_asks {first : Action σ α} {next : α → Action σ β}
    (h : ∀ value, (next value).Asks (·.opened? = none)) :
    (first >>= next).opens store world = first.opens store world := by
  cases hresult : (first.run store world).result with
  | error fault => exact opens_bind_error hresult
  | ok value => rw [opens_bind_ok hresult, (h value).opens_eq_nil, List.append_nil]

end Action

namespace Steps

open Stepwise.Action (Asks)

variable {config : Fields} {context : Context σ} {store : Store} {world : σ}

/-- Opening an address opens it once, whether or not anything can. -/
theorem opens_openAddress (context : Context σ) (url : Value) (store : Store) (world : σ) :
    (openAddress context url).opens store world = [url] := by
  unfold openAddress
  rw [Action.opens_bind_of_asks fun opened => ?_]
  · rfl
  · exact .ite (fun _ => (Asks.note _).bind fun _ => .fail _) fun _ => .pure ()

/-! ## Phone numbers -/

/-- **A call** opens one address, in which the number stands behind the scheme. -/
theorem opens_call {phone : String} (hphone : config.find? "phoneNumber" = some (.text phone)) :
    (call.execute config context).opens store world =
      if context.platform.wired .navigation then
        [.text ("tel:" ++ Url.encode ['+'] (Text.trimmed phone))]
      else [] := by
  dsimp only [call]
  split
  next hwired =>
    rw [Context.reach_of_wired hwired, Config.trimmed_of_find? hphone]
    exact (Action.opens_bind_of_asks fun _ => .pure _).trans (opens_openAddress _ _ store world)
  next hlacks =>
    rw [Bool.not_eq_true] at hlacks
    rw [Context.reach_of_not_wired hlacks]
    rfl

/-! ## Labels -/

/-- The label of a map; a word of its own stands for one that counts as false. -/
def mapLabel (config : Fields) : String :=
  if (Value.field "label" config).isTrue then (Value.field "label" config).toText else "Location"

/-- The address of the place that a map is opened at, before the label is put behind it. -/
def placeAddress (config : Fields) (context : Context σ) (store : Store) (world : σ) :
    Except Fault String := do
  let (latitude, longitude) ← ((mapPlace config context).run store world).result
  mapsAddress context.settings latitude longitude

/-- Looking for the place of a map opens nothing. -/
theorem mapPlace_asks (config : Fields) (context : Context σ) :
    (mapPlace config context).Asks (·.opened? = none) := by
  have hposition : (currentPosition context).Asks (·.opened? = none) :=
    currentPosition_asks context rfl
  refine .ite (fun _ => ?_) fun _ => ?_
  · exact hposition.bind fun position => .pure _
  · exact .lift_bind fun latitude _ => .lift_bind fun longitude _ => .pure _

/-- **Opening a map** opens one address, in which the label stands behind the place; none if there
is no place or no address of it. -/
theorem opens_openMap (config : Fields) (context : Context σ) (store : Store) (world : σ) :
    (openMap config context).opens store world =
      if context.platform.wired .navigation then
        (placeAddress config context store world).toOption.toList.map fun place =>
          .text (place ++ "&label=" ++ Url.encode ['/'] (mapLabel config))
      else [] := by
  have hlabel : ((Value.field "label" config).orElse (.text "Location")).toText =
      mapLabel config := by
    unfold Value.orElse mapLabel
    split <;> rfl
  rw [← hlabel]
  unfold openMap
  split
  next hwired =>
    have hnone := (mapPlace_asks config context).opens_eq_nil store world
    rw [Context.reach_of_wired hwired]
    cases hplace : ((mapPlace config context).run store world).result with
    | error fault =>
      rw [placeAddress, hplace]
      exact (Action.opens_bind_error hplace).trans hnone
    | ok found =>
      obtain ⟨latitude, longitude⟩ := found
      have haddress : placeAddress config context store world =
          mapsAddress context.settings latitude longitude := by
        rw [placeAddress, hplace]
        rfl
      rw [haddress]
      refine (Action.opens_bind_ok hplace).trans ?_
      rw [hnone, List.nil_append]
      dsimp only
      cases mapsAddress context.settings latitude longitude with
      | error fault => rfl
      | ok place =>
        rw [Action.lift_ok_bind]
        exact (Action.opens_bind_of_asks fun _ => .pure _).trans (opens_openAddress _ _ _ _)
  next hlacks =>
    rw [Bool.not_eq_true] at hlacks
    rw [Context.reach_of_not_wired hlacks]
    rfl

/-! ## Both -/

/-- **User text does not get out of an address.** A `call` step that was accepted opens an address
of a scheme and a part that carries the phone number, without the blanks at its ends. A `location`
step that opens a map opens an address of the place, a mark, and a part that carries the label; no
other mark can stand in that part. -/
theorem user_text_contained :
    (∀ config, (call : Handler σ).validate config = .ok () →
      ∃ phone part, config.find? "phoneNumber" = some (.text phone) ∧
        Url.Carries '+' part (Text.trimmed phone) ∧
        ∀ (context : Context σ) store world,
          (call.execute config context).opens store world =
            if context.platform.wired .navigation then [.text ("tel:" ++ part)] else []) ∧
      ∀ config, chooseAction locationActions config = .ok "open-maps" →
        ∃ part, Url.Carries '/' part (mapLabel config) ∧ '&' ∉ part.toList ∧
          ∀ (context : Context σ) store world,
            (location.execute config context).opens store world =
              if context.platform.wired .navigation then
                (placeAddress config context store world).toOption.toList.map fun place =>
                  .text (place ++ "&label=" ++ part)
              else [] := by
  constructor
  · intro config hvalid
    obtain ⟨phone, hphone, -⟩ := bind_eq_ok_iff.mp hvalid
    have hfind := Config.find?_of_requireText hphone
    exact ⟨phone, _, hfind, Url.carries_encode (by decide) _,
      fun context store world => opens_call hfind⟩
  · intro config haction
    have hcarries := Url.carries_encode (show '/' ≠ '%' by decide) (mapLabel config)
    refine ⟨_, hcarries, Url.not_mem_of_mem_encodedParts hcarries.form (by decide) (by decide),
      fun context store world => ?_⟩
    rw [execute_location haction]
    exact opens_openMap config context store world

/-- A phone number with blanks around it and characters that mean something in an address. -/
def dialled : Fields := [("phoneNumber", .text " +1 #é&%\n")]

/-- A map at a given place, with a label that looks like a part of an address. -/
def labelled : Fields :=
  [("action", .text "Open_Maps"), ("latitude", .int 1), ("longitude", .text "2"),
    ("label", .list [.text "a/b&q=c"])]

/-- The number is dialled and the map is labelled as they are written. -/
theorem user_text_contained_awkward :
    let context : Context Simulation.World := ⟨({} : Simulation.Scenario).platform, {}, default⟩
    (∃ part, Url.Carries '+' part "+1 #é&%" ∧
        (call.execute dialled context).opens {} {} = [.text ("tel:" ++ part)]) ∧
      ∃ part, Url.Carries '/' part "['a/b&q=c']" ∧
        (location.execute labelled context).opens {} {} =
          [.text ("https://maps.google.com/?q=1.0,2.0" ++ "&label=" ++ part)] := by
  intro context
  obtain ⟨hcall, hmap⟩ := user_text_contained (σ := Simulation.World)
  have hvalid : (call : Handler Simulation.World).validate dialled = .ok () := by decide +kernel
  have haction : chooseAction locationActions labelled = .ok "open-maps" := by decide +kernel
  obtain ⟨phone, number, hphone, hnumber, hdials⟩ := hcall dialled hvalid
  obtain ⟨label, hlabel, -, hopens⟩ := hmap labelled haction
  obtain rfl : " +1 #é&%\n" = phone := Value.text.inj (Option.some.inj hphone)
  have htrimmed : Text.trimmed " +1 #é&%\n" = "+1 #é&%" := by decide +kernel
  have htext : mapLabel labelled = "['a/b&q=c']" := by decide +kernel
  have hplace : (placeAddress labelled context {} {}).toOption =
      some "https://maps.google.com/?q=1.0,2.0" := by decide +kernel
  rw [htrimmed] at hnumber
  rw [htext] at hlabel
  refine ⟨⟨number, hnumber, hdials context {} {}⟩, label, hlabel, ?_⟩
  rw [hopens context {} {}, hplace]
  rfl

end Steps

end Stepwise
