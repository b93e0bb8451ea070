import RenderEngine.Ports.TwinSection

/-!
# The twin layer of the map (`demo/twin_overlay.js`)

A button turns the layer on and off.  While it is on, a timer fetches the
newest state of all cells, which an answer puts on the map; whether the layer
is still on is asked before the fetch and not after it.  Turning it off removes
the layer and its source, but not the handlers of its events: `map.on` keeps
them, and the next answer registers them once more.

`window.mobydbTwin` calls the same functions, past the button.  The fetches in
flight are all alike, so that they are only counted.

## Main results

* `step_inSync`: the timer, the count and the handlers in every state.
* `twinOverlay_iff`: when the layer is only shown while it is on, when the
  button says so, and when a click opens its cell once.
* `fetches_of_click`: what a click on a cell asks the twin for.
-/

namespace RenderEngine.Ports.TwinOverlay

open RenderEngine.Ports.JavaScript
open RenderEngine.Ports.Serde
open RenderEngine.Ports.TwinSeverity
open RenderEngine.Ports.TwinSection
open RenderEngine.Verified.Doubles
open RenderEngine.Verified.StepRun

/-! ## What an answer shows -/

/-- An entry of `all_latest`. -/
structure TwinCell (F : Type) where
  h3Cell : JsString
  payload : Payload F

/-- The answer of `all_latest`. -/
structure AllLatest (F : Type) where
  cells : Option (List (TwinCell F))
  count : Option SafeInteger

/-- A feature of the source: its ring, and its properties. -/
structure Feature (F : Type) where
  ring : List (ℚ × ℚ)
  h3Cell : JsString
  status : Severity
  voltageKv : ℚ
  loadMw : ℚ
  temperatureCelsius : ℚ
  anomalyActive : JsValue F

/-- The rounding of doubles, and `cellToBoundary` where `h3-js` is loaded. -/
structure Host where
  rounding : NearestRounding
  cellToBoundary : Option (JsString → Throws (List (ℚ × ℚ)))

section Features

variable {F : Type}

/-- Longitudes before latitudes, and the first point once more. -/
def closedRing (boundary : List (ℚ × ℚ)) : List (ℚ × ℚ) :=
  let ring := boundary.map Prod.swap
  ring ++ ring.head?.toList

/-- `buildGeoJSON`: no features without `h3-js`. -/
def buildGeoJSON (host : Host) (cells : List (TwinCell F)) :
    Throws (List (Feature F)) :=
  match host.cellToBoundary with
  | none => return []
  | some cellToBoundary => cells.mapM fun c => do
      let boundary ← cellToBoundary c.h3Cell
      return {
        ring := closedRing boundary
        h3Cell := c.h3Cell
        status := classifyCell host.rounding c.payload
        voltageKv := c.payload.voltageKv
        loadMw := c.payload.loadMw
        temperatureCelsius := c.payload.temperatureCelsius
        anomalyActive := c.payload.anomalyActive }

/-- The features and the count that an answer has to show, if it has. -/
def shownBy (host : Host) (response : Throws (AllLatest F)) :
    Option (List (Feature F) × Option SafeInteger) := do
  let data ← response.toOption
  let cells ← data.cells
  let features ← (buildGeoJSON host cells).toOption
  return (features, data.count)

/-- The text beside the button. -/
def countText : Option SafeInteger → JsString
  | some count => ofText (intDecimal count.val) ++ js " cells"
  | none => []

end Features

/-! ## The layer -/

structure Overlay (F : Type) where
  /-- `dataset.active` of the button -/
  buttonActive : Bool
  overlayActive : Bool
  refreshTimer : Bool
  inFlight : Nat
  /-- the map takes sources once it has its style -/
  styleLoaded : Bool
  source : Option (List (Feature F))
  /-- the click handlers that were registered for the layer -/
  clickHandlers : Nat
  count : JsString
  /-- how often a shown layer was removed, which no code reads -/
  removals : Nat

inductive Event (F : Type) where
  /-- A click on the button. -/
  | toggle
  /-- `window.mobydbTwin` -/
  | startOverlay
  | stopOverlay
  | refresh
  /-- The timer fires. -/
  | tick
  | styleLoads
  | answer (response : Throws (AllLatest F))

namespace Overlay

variable {F : Type}

/-- The page as it is loaded. -/
def start : Overlay F where
  buttonActive := false
  overlayActive := false
  refreshTimer := false
  inFlight := 0
  styleLoaded := false
  source := none
  clickHandlers := 0
  count := []
  removals := 0

/-- `refreshOverlay` up to its `await`. -/
def refreshOverlay (o : Overlay F) : Overlay F :=
  if o.overlayActive then { o with inFlight := o.inFlight + 1 } else o

/-- `startOverlay`, which keeps a timer that runs. -/
def startOverlay (o : Overlay F) : Overlay F :=
  { refreshOverlay { o with overlayActive := true } with refreshTimer := true }

/-- `removeMapOverlay` -/
def removeMapOverlay (o : Overlay F) : Overlay F :=
  { o with
    source := none
    removals := if o.source.isSome then o.removals + 1 else o.removals }

def stopOverlay (o : Overlay F) : Overlay F :=
  { removeMapOverlay { o with overlayActive := false, refreshTimer := false }
    with count := [] }

/-- `applyMapOverlay`, which throws while the map has no style. -/
def applyMapOverlay (o : Overlay F) (features : List (Feature F)) :
    Option (Overlay F) :=
  if o.source.isSome then some { o with source := some features }
  else if o.styleLoaded then
    some { o with
      source := some features
      clickHandlers := o.clickHandlers + 1 }
  else none

/-- `refreshOverlay` from its `await` on; what throws is only logged. -/
def receive (host : Host) (o : Overlay F) (response : Throws (AllLatest F)) :
    Overlay F :=
  match shownBy host response with
  | some (features, count) =>
      match o.applyMapOverlay features with
      | some o => { o with count := countText count }
      | none => o
  | none => o

/-- The handler of the button. -/
def toggle (o : Overlay F) : Overlay F :=
  if o.buttonActive then stopOverlay { o with buttonActive := false }
  else startOverlay { o with buttonActive := true }

/-- A timer that was cleared does not fire, and only a fetch in flight is
answered. -/
def step (host : Host) (o : Overlay F) : Event F → Option (Overlay F)
  | .toggle => some o.toggle
  | .startOverlay => some o.startOverlay
  | .stopOverlay => some o.stopOverlay
  | .refresh => some o.refreshOverlay
  | .tick => if o.refreshTimer then some o.refreshOverlay else none
  | .styleLoads => some { o with styleLoaded := true }
  | .answer response =>
      if o.inFlight = 0 then none
      else some (receive host { o with inFlight := o.inFlight - 1 } response)

/-- The events of the bus that a click on a cell of the map dispatches: each
handler of the layer dispatches its own. -/
def dispatched (o : Overlay F) (cell : JsString) : List (JsValue F) :=
  match o.source with
  | some features =>
      if ∃ f ∈ features, f.h3Cell = cell then
        List.replicate o.clickHandlers (overlayDetail (.string cell))
      else []
  | none => []

/-! ## What every event keeps -/

/-- The timer runs while the layer is on; without a source there is no count;
and each time the layer was shown anew registered a handler. -/
structure InSync (o : Overlay F) : Prop where
  timer : o.refreshTimer = o.overlayActive
  count : o.source = none → o.count = []
  handlers : o.clickHandlers =
    if o.source.isSome then o.removals + 1 else o.removals

theorem start_inSync : (start : Overlay F).InSync := ⟨rfl, fun _ => rfl, rfl⟩

theorem InSync.refreshOverlay {o : Overlay F} (h : o.InSync) :
    o.refreshOverlay.InSync := by
  unfold Overlay.refreshOverlay
  split
  · exact ⟨h.timer, h.count, h.handlers⟩
  · exact h

theorem InSync.startOverlay {o : Overlay F} (h : o.InSync) :
    o.startOverlay.InSync := ⟨rfl, h.count, h.handlers⟩

theorem InSync.stopOverlay {o : Overlay F} (h : o.InSync) :
    o.stopOverlay.InSync := by
  refine ⟨rfl, fun _ => rfl, ?_⟩
  show o.clickHandlers =
    if o.source.isSome then o.removals + 1 else o.removals
  exact h.handlers

theorem applyMapOverlay_inSync {o o' : Overlay F} (h : o.InSync)
    {features : List (Feature F)}
    (ho' : o.applyMapOverlay features = some o') (count : JsString) :
    InSync { o' with count := count } := by
  unfold applyMapOverlay at ho'
  have hhandlers := h.handlers
  split at ho'
  · next hsource =>
      cases ho'
      rw [if_pos hsource] at hhandlers
      exact ⟨h.timer, (fun hnone => nomatch hnone), hhandlers⟩
  · next hsource =>
      split at ho'
      · cases ho'
        rw [if_neg hsource] at hhandlers
        exact ⟨h.timer, (fun hnone => nomatch hnone),
          congrArg (· + 1) hhandlers⟩
      · cases ho'

theorem InSync.receive {o : Overlay F} (host : Host) (h : o.InSync)
    (response : Throws (AllLatest F)) : (receive host o response).InSync := by
  unfold Overlay.receive
  split
  · split
    · next ho' => exact applyMapOverlay_inSync h ho' _
    · exact h
  · exact h

theorem InSync.toggle {o : Overlay F} (h : o.InSync) : o.toggle.InSync := by
  have hbutton : ∀ b, InSync { o with buttonActive := b } :=
    fun _ => ⟨h.timer, h.count, h.handlers⟩
  unfold Overlay.toggle
  split
  · exact (hbutton false).stopOverlay
  · exact (hbutton true).startOverlay

/-- The timer refreshes the layer. -/
theorem step_tick {host : Host} {o o' : Overlay F}
    (hstep : o.step host .tick = some o') : o' = o.refreshOverlay := by
  rw [step] at hstep
  split at hstep
  · exact (Option.some.inj hstep).symm
  · cases hstep

/-- An answer leaves one fetch less in flight. -/
theorem step_answer {host : Host} {o o' : Overlay F}
    {response : Throws (AllLatest F)}
    (hstep : o.step host (.answer response) = some o') :
    o' = receive host { o with inFlight := o.inFlight - 1 } response := by
  rw [step] at hstep
  split at hstep
  · cases hstep
  · exact (Option.some.inj hstep).symm

/-- **The timer, the count and the handlers, after any event.** -/
theorem step_inSync (host : Host) {o o' : Overlay F} {e : Event F}
    (h : o.InSync) (hstep : o.step host e = some o') : o'.InSync := by
  cases e with
  | toggle =>
      cases hstep
      exact h.toggle
  | startOverlay =>
      cases hstep
      exact h.startOverlay
  | stopOverlay =>
      cases hstep
      exact h.stopOverlay
  | refresh =>
      cases hstep
      exact h.refreshOverlay
  | tick =>
      rw [step_tick hstep]
      exact h.refreshOverlay
  | styleLoads =>
      cases hstep
      exact ⟨h.timer, h.count, h.handlers⟩
  | answer response =>
      rw [step_answer hstep]
      have hless : InSync { o with inFlight := o.inFlight - 1 } :=
        ⟨h.timer, h.count, h.handlers⟩
      exact hless.receive host response

/-! ## What an answer breaks -/

/-- An answer is put on the map: into the source that is there, or a new one. -/
def TakesSource (o : Overlay F) : Prop :=
  o.source.isSome = true ∨ o.styleLoaded = true

/-- An answer is what is shown then, or has nothing to show or cannot be shown
and changes nothing. -/
theorem receive_cases (host : Host) (o : Overlay F)
    (response : Throws (AllLatest F)) :
    (∃ features count, shownBy host response = some (features, count) ∧
      o.TakesSource ∧ (receive host o response).source = some features ∧
      (receive host o response).overlayActive = o.overlayActive) ∨
    ((∀ features count, shownBy host response = some (features, count) →
      ¬ o.TakesSource) ∧ receive host o response = o) := by
  rw [receive]
  cases hshown : shownBy host response with
  | none => exact .inr ⟨nofun, rfl⟩
  | some shown =>
      obtain ⟨features, count⟩ := shown
      dsimp only
      rw [applyMapOverlay]
      by_cases hsource : o.source.isSome = true
      · rw [if_pos hsource]
        exact .inl ⟨features, count, rfl, .inl hsource, rfl, rfl⟩
      · rw [if_neg hsource]
        by_cases hstyle : o.styleLoaded = true
        · rw [if_pos hstyle]
          exact .inl ⟨features, count, rfl, .inr hstyle, rfl, rfl⟩
        · rw [if_neg hstyle]
          exact .inr ⟨fun _ _ _ htakes => htakes.elim hsource hstyle, rfl⟩

/-- An answer removes nothing. -/
theorem removals_receive (host : Host) (o : Overlay F)
    (response : Throws (AllLatest F)) :
    (receive host o response).removals = o.removals := by
  unfold receive applyMapOverlay
  split
  · split_ifs <;> rfl
  · rfl

/-- The layer is only shown while it is on. -/
def ShownActive (o : Overlay F) : Prop :=
  o.source.isSome = true → o.overlayActive = true

/-- What is put on the map arrives while the layer is on. -/
def Awaited (host : Host) (o : Overlay F) : Event F → Prop
  | .answer response => (shownBy host response).isSome = true →
      o.TakesSource → o.overlayActive = true
  | _ => True

/-- The button says whether the layer is on. -/
def ButtonTells (o : Overlay F) : Prop := o.buttonActive = o.overlayActive

/-- `window.mobydbTwin` only turns on a layer that is on, and off one that is
off. -/
def ThroughButton (o : Overlay F) : Event F → Prop
  | .startOverlay => o.buttonActive = true
  | .stopOverlay => o.buttonActive = false
  | _ => True

/-- A click opens its cell once. -/
def OpensOnce (o : Overlay F) : Prop := ∀ cell, (o.dispatched cell).length ≤ 1

/-- What is put on the map has no cells, or the layer was never removed. -/
def FirstShown (host : Host) (o : Overlay F) : Event F → Prop
  | .answer response => ∀ features count,
      shownBy host response = some (features, count) → o.TakesSource →
        features = [] ∨ o.removals = 0
  | _ => True

theorem start_shownActive : (start : Overlay F).ShownActive :=
  fun h => nomatch h

theorem start_buttonTells : (start : Overlay F).ButtonTells := rfl

/-- The source and the handlers that a click meets. -/
theorem dispatched_congr {o o' : Overlay F} (hsource : o'.source = o.source)
    (hhandlers : o'.clickHandlers = o.clickHandlers) :
    o'.dispatched = o.dispatched := by
  funext cell
  rw [dispatched, dispatched, hsource, hhandlers]

theorem opensOnce_of_none {o : Overlay F} (h : o.source = none) :
    o.OpensOnce := by
  intro cell
  rw [dispatched, h]
  exact Nat.zero_le 1

/-- Where the layer is shown, a click on one of its cells opens it once more
than the layer was removed. -/
theorem opensOnce_iff_of_some {o : Overlay F} (h : o.InSync)
    {features : List (Feature F)} (hsource : o.source = some features) :
    o.OpensOnce ↔ features = [] ∨ o.removals = 0 := by
  have hhandlers : o.clickHandlers = o.removals + 1 := by
    rw [h.handlers, hsource]
    rfl
  have hlength : ∀ cell, (o.dispatched cell).length =
      if ∃ f ∈ features, f.h3Cell = cell then o.removals + 1 else 0 := by
    intro cell
    rw [dispatched, hsource, hhandlers]
    dsimp only
    split
    · exact List.length_replicate
    · rfl
  constructor
  · intro hopens
    cases features with
    | nil => exact .inl rfl
    | cons f features =>
        have hf := hopens f.h3Cell
        rw [hlength, if_pos ⟨f, List.mem_cons_self, rfl⟩] at hf
        exact .inr (by omega)
  · intro hcases cell
    rw [hlength]
    rcases hcases with rfl | hremovals
    · simp
    · split <;> omega

/-- What an event leaves of the layer, unless it is an answer. -/
def Leaves (o o' : Overlay F) : Prop :=
  o'.source = none ∨
    (o'.source = o.source ∧ o'.clickHandlers = o.clickHandlers ∧
      (o'.overlayActive = o.overlayActive ∨ o'.overlayActive = true))

theorem leaves_refreshOverlay (o : Overlay F) :
    o.Leaves o.refreshOverlay := by
  unfold refreshOverlay
  split <;> exact .inr ⟨rfl, rfl, .inl rfl⟩

theorem leaves_toggle (o : Overlay F) : o.Leaves o.toggle := by
  unfold toggle
  split
  · exact .inl rfl
  · exact .inr ⟨rfl, rfl, .inr rfl⟩

/-- Only an answer shows the layer. -/
theorem step_cases (host : Host) {o o' : Overlay F} {e : Event F}
    (hstep : o.step host e = some o') :
    (∃ response, e = .answer response ∧
      o' = receive host { o with inFlight := o.inFlight - 1 } response) ∨
    ((∀ response, e ≠ .answer response) ∧ o.Leaves o') := by
  cases e with
  | toggle =>
      cases hstep
      exact .inr ⟨nofun, o.leaves_toggle⟩
  | startOverlay =>
      cases hstep
      exact .inr ⟨nofun, .inr ⟨rfl, rfl, .inr rfl⟩⟩
  | stopOverlay =>
      cases hstep
      exact .inr ⟨nofun, .inl rfl⟩
  | refresh =>
      cases hstep
      exact .inr ⟨nofun, o.leaves_refreshOverlay⟩
  | tick =>
      rw [step_tick hstep]
      exact .inr ⟨nofun, o.leaves_refreshOverlay⟩
  | styleLoads =>
      cases hstep
      exact .inr ⟨nofun, .inr ⟨rfl, rfl, .inl rfl⟩⟩
  | answer response => exact .inl ⟨response, rfl, step_answer hstep⟩

/-- **When one event shows the layer while it is off.** -/
theorem step_shownActive_iff (host : Host) {o o' : Overlay F} {e : Event F}
    (h : o.ShownActive) (hstep : o.step host e = some o') :
    o'.ShownActive ↔ o.Awaited host e := by
  rcases step_cases host hstep with ⟨response, rfl, rfl⟩ | ⟨he, hleaves⟩
  · rcases receive_cases host { o with inFlight := o.inFlight - 1 } response
      with ⟨features, count, hshown, htakes, hsource, hactive⟩ | ⟨hnot, hsame⟩
    · rw [ShownActive, hsource, hactive, Awaited, hshown]
      exact ⟨fun hon _ _ => hon rfl, fun hon _ => hon rfl htakes⟩
    · rw [hsame]
      refine iff_of_true h fun hsome htakes => ?_
      obtain ⟨⟨features, count⟩, hshown⟩ := Option.isSome_iff_exists.mp hsome
      exact absurd htakes (hnot features count hshown)
  · have hawaited : o.Awaited host e := by
      cases e with
      | answer response => exact absurd rfl (he response)
      | _ => trivial
    refine iff_of_true ?_ hawaited
    rcases hleaves with hnone | ⟨hsource, -, hactive⟩
    · intro hsome
      rw [hnone] at hsome
      cases hsome
    · intro hsome
      rw [hsource] at hsome
      rcases hactive with hsame | hon
      · exact hsame.trans (h hsome)
      · exact hon

/-- **When one event makes a click open its cell twice.** -/
theorem step_opensOnce_iff (host : Host) {o o' : Overlay F} {e : Event F}
    (hsync : o.InSync) (h : o.OpensOnce) (hstep : o.step host e = some o') :
    o'.OpensOnce ↔ o.FirstShown host e := by
  have hsync' := step_inSync host hsync hstep
  rcases step_cases host hstep with ⟨response, rfl, rfl⟩ | ⟨he, hleaves⟩
  · rcases receive_cases host { o with inFlight := o.inFlight - 1 } response
      with ⟨features, count, hshown, htakes, hsource, -⟩ | ⟨hnot, hsame⟩
    · rw [opensOnce_iff_of_some hsync' hsource, removals_receive]
      constructor
      · intro hcases features' count' hshown' _
        rw [hshown] at hshown'
        cases hshown'
        exact hcases
      · exact fun hfirst => hfirst features count hshown htakes
    · rw [hsame]
      exact iff_of_true h fun features count hshown htakes =>
        absurd htakes (hnot features count hshown)
  · have hfirst : o.FirstShown host e := by
      cases e with
      | answer response => exact absurd rfl (he response)
      | _ => trivial
    refine iff_of_true ?_ hfirst
    rcases hleaves with hnone | ⟨hsource, hhandlers, -⟩
    · exact opensOnce_of_none hnone
    · rw [OpensOnce, dispatched_congr hsource hhandlers]
      exact h

/-- **When one event leaves the button wrong.** -/
theorem step_buttonTells_iff (host : Host) {o o' : Overlay F} {e : Event F}
    (h : o.ButtonTells) (hstep : o.step host e = some o') :
    o'.ButtonTells ↔ o.ThroughButton e := by
  have hrefresh : o.refreshOverlay.ButtonTells := by
    unfold refreshOverlay
    split <;> exact h
  cases e with
  | toggle =>
      cases hstep
      refine iff_of_true ?_ trivial
      unfold toggle
      split <;> rfl
  | startOverlay =>
      cases hstep
      exact Iff.rfl
  | stopOverlay =>
      cases hstep
      exact Iff.rfl
  | refresh =>
      cases hstep
      exact iff_of_true hrefresh trivial
  | tick =>
      rw [step_tick hstep]
      exact iff_of_true hrefresh trivial
  | styleLoads =>
      cases hstep
      exact iff_of_true h trivial
  | answer response =>
      rw [step_answer hstep]
      refine iff_of_true ?_ trivial
      unfold receive applyMapOverlay
      split
      · split_ifs <;> exact h
      · exact h

end Overlay

/-! ## What a run keeps -/

section Run

variable {F : Type} (host : Host)

/-- **The twin layer.**  In every run the timer runs exactly while the layer is
on, there is no count without a source, and a handler was registered each time
the layer was shown anew.  The layer is only shown while it is on exactly if
what is put on the map arrives while it is on; the button says so exactly if
`window.mobydbTwin` is used in step with it; and a click opens its cell once
exactly if no cells are put on the map after a layer was removed. -/
theorem twinOverlay_iff (events : List (Event F)) :
    Throughout (Overlay.step host) Overlay.InSync Overlay.start events ∧
      (Throughout (Overlay.step host) Overlay.ShownActive Overlay.start
          events ↔
        StepsMeet (Overlay.step host) (Overlay.Awaited host) Overlay.start
          events) ∧
      (Throughout (Overlay.step host) Overlay.ButtonTells Overlay.start
          events ↔
        StepsMeet (Overlay.step host) Overlay.ThroughButton Overlay.start
          events) ∧
      (Throughout (Overlay.step host) Overlay.OpensOnce Overlay.start events ↔
        StepsMeet (Overlay.step host) (Overlay.FirstShown host) Overlay.start
          events) := by
  refine ⟨?_, ?_, ?_, ?_⟩
  · intro pre _ o ho
    exact run_keeps (Overlay.step host)
      (fun _ _ _ h hstep => Overlay.step_inSync host h hstep) ho
      Overlay.start_inSync
  · exact throughout_iff_stepsMeet (Overlay.step host)
      (fun _ _ _ h hstep => Overlay.step_shownActive_iff host h hstep)
      Overlay.start_shownActive events
  · exact throughout_iff_stepsMeet (Overlay.step host)
      (fun _ _ _ h hstep => Overlay.step_buttonTells_iff host h hstep)
      Overlay.start_buttonTells events
  · refine throughout_iff_of_invariant (Overlay.step host)
      (J := fun o => o.InSync ∧ o.OpensOnce) (fun _ h => h.2) ?_
      ⟨Overlay.start_inSync, Overlay.opensOnce_of_none rfl⟩ events
    intro o e o' h hstep
    have hiff := Overlay.step_opensOnce_iff host h.1 h.2 hstep
    exact ⟨fun hfirst => ⟨Overlay.step_inSync host h.1 hstep,
      hiff.mpr hfirst⟩, hiff.mp⟩

/-- **What a click asks the twin for**: the state of its cell, once more than
the layer was removed. -/
theorem fetches_of_click {H : Type} (h3 : Option H3Js) {o : Overlay F}
    (h : o.InSync) {features : List (Feature F)}
    (hsource : o.source = some features) {cell opened : JsString}
    (hcell : ∃ f ∈ features, f.h3Cell = cell)
    (hopened : openedCell h3 (overlayDetail (.string cell) : JsValue F) =
      some opened) (p : Page F H) :
    ((o.dispatched cell).foldl (Page.onAuditOpen h3) p).fetches =
      p.fetches ++ List.replicate (o.removals + 1) opened := by
  have hhandlers : o.clickHandlers = o.removals + 1 := by
    rw [h.handlers, hsource]
    rfl
  have hdispatched : o.dispatched cell = List.replicate (o.removals + 1)
      (overlayDetail (.string cell)) := by
    rw [Overlay.dispatched, hsource, hhandlers]
    exact if_pos hcell
  rw [hdispatched]
  generalize o.removals + 1 = n
  induction n generalizing p with
  | zero => exact (List.append_nil _).symm
  | succ n ih =>
      have hfirst : (p.onAuditOpen h3
          (overlayDetail (.string cell))).fetches = p.fetches ++ [opened] := by
        rw [Page.onAuditOpen, hopened]
      rw [List.replicate_succ, List.foldl_cons, ih, hfirst, List.append_assoc]
      rfl

end Run

end RenderEngine.Ports.TwinOverlay
