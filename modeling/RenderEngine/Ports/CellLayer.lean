import RenderEngine.Ports.LabAcceptance
import RenderEngine.Verified.StepRun

/-!
# The cell layer of the map (`refreshCells`, `demo/app.js`)

Every move of the map and every change of the epoch calls `refreshCells`, which
aborts the fetch before it and starts its own; below the minimal zoom it clears
the layer and returns.  That return comes before the abort, so a fetch of an
earlier view stays in flight and its cells come back once they arrive.

An aborted fetch rejects with an `AbortError`, on which nothing is done: here it
is no longer in flight from the abort on.  The map has loaded its sources.

## Main results

* `step_tracks`: what one event keeps, and which ones bring back old cells.
* `upToDate_iff`: the runs in which the layer shows the most recent call
  whenever no fetch is in flight.
-/

namespace RenderEngine.Ports.CellLayer

open RenderEngine.Ports.JavaScript
open RenderEngine.Ports.JavaScriptJson
open RenderEngine.Ports.LabAcceptance
open RenderEngine.Verified.StepRun

/-! ## What a response shows -/

/-- `h3-js`, and 0.5 as a double. -/
structure Host (F B : Type) extends Engine F where
  half : JsNumber F
  cellToBoundary : JsString → Throws B

/-- A feature of the source `cells`. -/
structure CellFeature (F B : Type) where
  id : BitVec 32
  coordinates : B
  h3Cell : JsString
  epochId : JsValue F
  load : JsValue F
  operator : JsValue F

/-- `idFromH3`. -/
def idFromH3 (h3hex : JsString) : BitVec 32 :=
  h3hex.foldl (fun h u => h * 31 + BitVec.ofNat 32 u.val) 0

section Layer

variable {F B : Type} (host : Host F B)

/-- A cell as a feature.  The server writes `h3_cell` as a text. -/
def featureOf (c : JsValue F) : Throws (CellFeature F B) := do
  let h3Cell ← match ← c.get host.toEngine (js "h3_cell") with
    | .string h3hex => pure h3hex
    | _ => throw (host.notFunction (js "charCodeAt"))
  let boundary ← host.cellToBoundary h3Cell
  let payload ← match ← c.get host.toEngine (js "payload") with
    | .string text => jsonParse host.toEngine text
    | payload => pure payload
  let epochId ← c.get host.toEngine (js "epoch_id")
  let value ← payload.get host.toEngine (js "value")
  let operator ← payload.get host.toEngine (js "operator")
  return {
    id := idFromH3 h3Cell
    coordinates := boundary
    h3Cell := h3Cell
    epochId := epochId
    load := if value.nullish then .number host.half else value
    operator := operator.orElse (.string []) }

/-- `inner.cells` and their features. -/
def readCells (inner : JsValue F) :
    Throws (List (JsValue F) × List (CellFeature F B)) := do
  let cells ← match ← inner.get host.toEngine (js "cells") with
    | .array cells => pure cells
    | .undefined => throw (host.nullAccess (js "length"))
    | .null => throw (host.nullAccess (js "length"))
    | _ => throw (host.notFunction (js "map"))
  let features ← cells.mapM (featureOf host)
  return (cells, features)

/-- The cells and the features of a call by its response: none if `mcpCall`
failed or the response cannot be read. -/
def outcome (response : Throws (JsValue F)) :
    List (JsValue F) × List (CellFeature F B) :=
  match response >>= readCells host with
  | .ok shown => shown
  | .error _ => ([], [])

/-! ## The page -/

/-- `window.mobydbState`. -/
structure SharedState (F : Type) where
  cells : List (JsValue F)
  currentEpoch : Nat
  seenEpochs : List Nat

/-- A fetch in flight: its `AbortController`, and the epoch it asks for. -/
structure Fetch where
  controller : Nat
  epochId : Nat

structure Page (F B : Type) where
  currentEpoch : Nat
  lastFetchAbort : Option Nat
  /-- the controllers made so far -/
  controllers : Nat
  inFlight : List Fetch
  source : List (CellFeature F B)
  shared : SharedState F
  hint : Option JsString

/-- `CONFIG.cell_min_zoom`. -/
def cellMinZoom : Rat := 14

/-- `shouldQueryCells`. -/
def shouldQueryCells (zoom : Rat) : Bool := decide (cellMinZoom ≤ zoom)

/-- The hint below the minimal zoom. -/
def zoomHint : JsString :=
  js ("zoom in to 14+ to load signed substation cells · transmission lines "
    ++ "shown at all zooms")

/-- `s.includes(part)`. -/
def includes (s part : JsString) : Bool :=
  (List.range (s.length + 1)).any fun i =>
    decide ((s.drop i).take part.length = part)

/-- The hint after a failure. -/
def failureHint (e : JsError) : JsString :=
  if includes e.message (js "viewport exceeds max cells") then
    js "viewport too large — zoom in further to load signed cells"
  else js "server: " ++ slice e.message 0 80

namespace Page

/-- `__syncCellsToBus`. -/
def syncCellsToBus (p : Page F B) (cells : List (JsValue F)) : Page F B :=
  { p with
    shared := {
      cells := cells
      currentEpoch := p.currentEpoch
      seenEpochs :=
        if p.currentEpoch ∈ p.shared.seenEpochs then p.shared.seenEpochs
        else p.shared.seenEpochs ++ [p.currentEpoch] } }

/-- `setData`, then `__syncCellsToBus`. -/
def showCells (p : Page F B)
    (shown : List (JsValue F) × List (CellFeature F B)) : Page F B :=
  syncCellsToBus { p with source := shown.2 } shown.1

/-- `lastFetchAbort.abort()`, which does nothing to a settled fetch. -/
def abortLast (p : Page F B) : List Fetch :=
  match p.lastFetchAbort with
  | some controller => p.inFlight.filter fun f => f.controller ≠ controller
  | none => p.inFlight

/-- `refreshCells` up to its `await`. -/
def refreshCells (p : Page F B) (zoom : Rat) : Page F B :=
  if shouldQueryCells zoom then
    { p with
      hint := none
      inFlight := ⟨p.controllers, p.currentEpoch⟩ :: p.abortLast
      lastFetchAbort := some p.controllers
      controllers := p.controllers + 1 }
  else { p.showCells ([], []) with hint := some zoomHint }

/-- `refreshCells` from its `await` on. -/
def settle (p : Page F B) (controller : Nat) (response : Throws (JsValue F)) :
    Page F B :=
  let p := { p with
    inFlight := p.inFlight.filter fun f => f.controller ≠ controller }
  match response >>= readCells host with
  | .ok shown => p.showCells shown
  | .error e => { p.showCells ([], []) with hint := some (failureHint e) }

/-- The page as it is loaded. -/
def start : Page F B where
  currentEpoch := 9
  lastFetchAbort := none
  controllers := 0
  inFlight := []
  source := []
  shared := ⟨[], 9, [9]⟩
  hint := none

end Page

/-! ## Runs -/

inductive Event (F : Type) where
  /-- A call of `refreshCells` at a zoom of the map -/
  | refresh (zoom : Rat)
  /-- The slider moves. -/
  | input (epoch : Nat)
  /-- A fetch completes or fails. -/
  | settle (controller : Nat) (response : Throws (JsValue F))

/-- What the most recent call has to show. -/
inductive Latest (F B : Type) where
  | awaits (controller : Nat)
  | shows (shown : List (JsValue F) × List (CellFeature F B))

/-- The page, and its most recent call. -/
structure View (F B : Type) where
  page : Page F B
  latest : Latest F B

/-- A new call is the most recent one; its own response settles it. -/
def Latest.next (latest : Latest F B) (controllers : Nat) :
    Event F → Latest F B
  | .refresh zoom =>
      if shouldQueryCells zoom then .awaits controllers else .shows ([], [])
  | .input _ => latest
  | .settle controller response =>
      match latest with
      | .awaits own =>
          if own = controller then .shows (outcome host response) else latest
      | .shows _ => latest

/-- Only a fetch in flight settles. -/
def Page.step (p : Page F B) : Event F → Option (Page F B)
  | .refresh zoom => some (p.refreshCells zoom)
  | .input epoch => some { p with currentEpoch := epoch }
  | .settle controller response =>
      if ∃ f ∈ p.inFlight, f.controller = controller then
        some (p.settle host controller response)
      else none

def View.step (v : View F B) (e : Event F) : Option (View F B) :=
  (v.page.step host e).map
    fun page => ⟨page, v.latest.next host v.page.controllers e⟩

/-- Nothing was called, so nothing is to be shown. -/
def View.start : View F B := ⟨Page.start, .shows ([], [])⟩

/-- The source and the shared state hold the result of the call. -/
def Page.Holds (p : Page F B) : Latest F B → Prop
  | .awaits _ => False
  | .shows shown => p.source = shown.2 ∧ p.shared.cells = shown.1

/-- Once no fetch is in flight the page holds the most recent result. -/
def View.UpToDate (v : View F B) : Prop :=
  v.page.inFlight = [] → v.page.Holds v.latest

/-- A response that arrives while the most recent call awaits none, since its
zoom was too low, has no cells to show. -/
def View.NoneStale (v : View F B) : Event F → Prop
  | .settle _ response =>
      (∃ controller, v.latest = .awaits controller) ∨
        outcome host response = ([], [])
  | _ => True

/-! ## What one event keeps -/

/-- At most one fetch is in flight, and it can be aborted. -/
def Page.Lone (p : Page F B) : Prop :=
  p.inFlight = [] ∨
    ∃ f, p.inFlight = [f] ∧ p.lastFetchAbort = some f.controller

/-- The most recent call awaits the fetch in flight, or the page holds its
result; in the second case a fetch in flight is of an earlier call, and nothing
is shown. -/
structure View.Tracks (v : View F B) : Prop where
  lone : v.page.Lone
  awaits : ∀ controller, v.latest = .awaits controller →
    ∃ f, v.page.inFlight = [f] ∧ f.controller = controller
  shows : ∀ shown, v.latest = .shows shown →
    v.page.source = shown.2 ∧ v.page.shared.cells = shown.1 ∧
      (v.page.inFlight ≠ [] → shown = ([], []))

theorem View.Tracks.upToDate {v : View F B} (h : v.Tracks) : v.UpToDate := by
  intro hsettled
  cases hlatest : v.latest with
  | awaits controller =>
      obtain ⟨f, hf, -⟩ := h.awaits controller hlatest
      rw [hsettled] at hf
      cases hf
  | shows shown =>
      obtain ⟨hsource, hcells, -⟩ := h.shows shown hlatest
      exact ⟨hsource, hcells⟩

theorem start_tracks : (View.start : View F B).Tracks where
  lone := .inl rfl
  awaits := fun _ h => nomatch h
  shows := by
    rintro shown ⟨⟩
    exact ⟨rfl, rfl, fun _ => rfl⟩

theorem Page.Lone.abortLast {p : Page F B} (h : p.Lone) :
    p.abortLast = [] := by
  rcases h with hnone | ⟨f, hf, hlast⟩
  · rw [Page.abortLast, hnone]
    cases p.lastFetchAbort <;> rfl
  · simp [Page.abortLast, hf, hlast]

/-- A fetch that settles was the only one in flight. -/
theorem Page.Lone.settles {p : Page F B} (h : p.Lone) {controller : Nat}
    (hmem : ∃ f ∈ p.inFlight, f.controller = controller) :
    ∃ f, p.inFlight = [f] ∧ f.controller = controller := by
  obtain ⟨f, hf, hcontroller⟩ := hmem
  rcases h with hnone | ⟨g, hg, -⟩
  · rw [hnone] at hf
    cases hf
  · rw [hg, List.mem_singleton] at hf
    exact ⟨g, hg, hf ▸ hcontroller⟩

/-- After its response the page shows the outcome. -/
theorem settle_shows (p : Page F B) (controller : Nat)
    (response : Throws (JsValue F)) :
    (p.settle host controller response).source = (outcome host response).2 ∧
      (p.settle host controller response).shared.cells =
        (outcome host response).1 ∧
      (p.settle host controller response).inFlight =
        p.inFlight.filter fun f => f.controller ≠ controller := by
  unfold Page.settle outcome
  cases response >>= readCells host <;> exact ⟨rfl, rfl, rfl⟩

theorem refresh_tracks {v : View F B} (h : v.Tracks) (zoom : Rat) :
    View.Tracks ⟨v.page.refreshCells zoom,
      v.latest.next host v.page.controllers (.refresh zoom)⟩ := by
  cases hzoom : shouldQueryCells zoom with
  | true =>
      simp only [Page.refreshCells, Latest.next, hzoom, if_true,
        h.lone.abortLast]
      exact {
        lone := .inr ⟨_, rfl, rfl⟩
        awaits := by
          rintro controller ⟨⟩
          exact ⟨_, rfl, rfl⟩
        shows := fun _ hshows => nomatch hshows }
  | false =>
      simp only [Page.refreshCells, Latest.next, hzoom, Bool.false_eq_true,
        if_false]
      exact {
        -- the fetch in flight is not aborted
        lone := h.lone
        awaits := fun _ hawaits => nomatch hawaits
        shows := by
          rintro shown ⟨⟩
          exact ⟨rfl, rfl, fun _ => rfl⟩ }

theorem settle_tracks {v : View F B} (h : v.Tracks) {controller : Nat}
    (hmem : ∃ f ∈ v.page.inFlight, f.controller = controller)
    (response : Throws (JsValue F)) :
    let v' : View F B := ⟨v.page.settle host controller response,
      v.latest.next host v.page.controllers (.settle controller response)⟩
    (v.NoneStale host (.settle controller response) → v'.Tracks) ∧
      (v'.UpToDate → v.NoneStale host (.settle controller response)) := by
  obtain ⟨f, hf, hcontroller⟩ := h.lone.settles hmem
  obtain ⟨hsource, hcells, hflight⟩ :=
    settle_shows host v.page controller response
  have hsettled : (v.page.settle host controller response).inFlight = [] := by
    simp [hflight, hf, hcontroller]
  have htracks : ∀ shown, outcome host response = shown →
      View.Tracks ⟨v.page.settle host controller response, .shows shown⟩ := by
    rintro shown rfl
    exact {
      lone := .inl hsettled
      awaits := fun _ hawaits => nomatch hawaits
      shows := by
        rintro shown ⟨⟩
        exact ⟨hsource, hcells, fun hne => absurd hsettled hne⟩ }
  cases hlatest : v.latest with
  | awaits own =>
      obtain ⟨g, hg, hown⟩ := h.awaits own hlatest
      have hsame : own = controller := by
        rw [hf] at hg
        rw [← hown, ← hcontroller, (List.cons.inj hg).1]
      simp only [Latest.next, if_pos hsame]
      exact ⟨fun _ => htracks _ rfl, fun _ => .inl ⟨own, hlatest⟩⟩
  | shows shown =>
      obtain ⟨-, -, hempty⟩ := h.shows shown hlatest
      have hnone : shown = ([], []) := hempty (by simp [hf])
      subst hnone
      constructor
      · rintro (⟨own, hown⟩ | houtcome)
        · rw [hlatest] at hown
          cases hown
        · exact htracks _ houtcome
      · intro hdate
        obtain ⟨hnosource, hnocells⟩ := hdate hsettled
        right
        exact Prod.ext (hcells.symm.trans hnocells)
          (hsource.symm.trans hnosource)

/-- **What one event does to the layer.** -/
theorem step_tracks (v : View F B) (e : Event F) (v' : View F B)
    (h : v.Tracks) (hstep : v.step host e = some v') :
    (v.NoneStale host e → v'.Tracks) ∧ (v'.UpToDate → v.NoneStale host e) := by
  cases e with
  | refresh zoom =>
      cases hstep
      exact ⟨fun _ => refresh_tracks host h zoom, fun _ => trivial⟩
  | input epoch =>
      cases hstep
      exact ⟨fun _ => ⟨h.lone, h.awaits, h.shows⟩, fun _ => trivial⟩
  | settle controller response =>
      by_cases hmem : ∃ f ∈ v.page.inFlight, f.controller = controller
      · simp only [View.step, Page.step, if_pos hmem, Option.map_some,
          Option.some.injEq] at hstep
        subst hstep
        exact settle_tracks host h hmem response
      · simp only [View.step, Page.step, if_neg hmem, Option.map_none] at hstep
        cases hstep

/-- **The cell layer is up to date throughout a run exactly when no response
with cells arrives after a later call below the minimal zoom.** -/
theorem upToDate_iff (events : List (Event F)) :
    Throughout (View.step host) View.UpToDate View.start events ↔
      StepsMeet (View.step host) (View.NoneStale host) View.start events :=
  throughout_iff_of_invariant (View.step host) (fun _ h => h.upToDate)
    (step_tracks host) start_tracks events

end Layer

/-! ## A response after the map was zoomed out -/

/-- Every text is a cell. -/
def plainHost : Host Empty Unit where
  toEngine := plainEngine
  half := .one
  cellToBoundary := fun _ => .ok ()

/-- A response with one cell. -/
def oneCell : JsValue Empty :=
  .object [(js "cells", .array [.object [
    (js "h3_cell", .string (js "8b1e8050145bfff")),
    (js "epoch_id", .number .one),
    (js "payload", .object [(js "value", .number .one)])]])]

/-- The fetch of a close view is answered after the map was zoomed out. -/
def zoomOut : List (Event Empty) :=
  [.refresh 15, .refresh 10, .settle 0 (.ok oneCell)]

theorem not_upToDate_zoomOut :
    (∃ v, run (View.step plainHost) View.start zoomOut = some v ∧
      v.page.inFlight = [] ∧ v.latest = .shows ([], []) ∧
      v.page.source.length = 1 ∧ v.page.shared.cells.length = 1) ∧
    ¬ Throughout (View.step plainHost) View.UpToDate View.start zoomOut := by
  have hrun : ∃ v, run (View.step plainHost) View.start zoomOut = some v ∧
      v.page.inFlight = [] ∧ v.latest = .shows ([], []) ∧
      v.page.source.length = 1 ∧ v.page.shared.cells.length = 1 :=
    ⟨_, rfl, rfl, rfl, rfl, rfl⟩
  refine ⟨hrun, fun h => ?_⟩
  obtain ⟨v, hv, hflight, hlatest, hsource, -⟩ := hrun
  have hholds := h zoomOut (List.prefix_refl _) v hv hflight
  rw [hlatest] at hholds
  rw [hholds.1] at hsource
  cases hsource

end RenderEngine.Ports.CellLayer
