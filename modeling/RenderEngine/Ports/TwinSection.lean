import RenderEngine.Ports.AuditPanel
import RenderEngine.Ports.CellLayer
import RenderEngine.Ports.TwinSeverity

/-!
# The twin section of the audit panel (`demo/twin_overlay.js`, `demo/app.js`)

On `audit-open` the twin overlay puts a section below the bundle and fetches
the state of the cell's ancestor of resolution 8.  Unlike the lab overlay it
remembers the cell it last asked for, and drops the answers for other cells.

The event comes from `app.js` once a bundle is rendered, and from a click on
the layer of the twin overlay itself, which does not touch the panel.  What
`app.js` writes into the panel replaces the section.

## Main results

* `step_tracked`: the section is of the last cell that was opened.
* `twinSection_iff`: the runs in which it is the one of the bundle above it.
-/

namespace RenderEngine.Ports.TwinSection

open RenderEngine.Ports.CellLayer (includes)
open RenderEngine.Ports.JavaScript
open RenderEngine.Ports.Serde
open RenderEngine.Verified.StepRun

/-! ## The cell of an event -/

/-- What is called of `h3-js`. -/
structure H3Js where
  getResolution : JsString → Throws Nat
  cellToParent : JsString → Nat → Throws JsString

/-- The ancestor of resolution 8, or the cell itself where there is none. -/
def H3Js.rollup (lib : H3Js) (h3id : JsString) : Throws JsString := do
  let res ← lib.getResolution h3id
  if 8 < res then lib.cellToParent h3id 8 else return h3id

/-- `rollupRes8` of a text. -/
def rollupRes8 (h3 : Option H3Js) (h3id : JsString) : JsString :=
  if h3id = [] then h3id
  else match h3.map fun lib => lib.rollup h3id with
    | some (Except.ok cell) => cell
    | _ => h3id

section Cells

variable {F : Type} (h3 : Option H3Js)

/-- `rollupRes8`, which leaves alone what is no text. -/
def rollupValue : JsValue F → JsValue F
  | .string s => .string (rollupRes8 h3 s)
  | v => v

/-- `raw.h3_cell`, or what stands for it; only an object has one. -/
def candidate (raw : JsValue F) : JsValue F :=
  let cellState := raw.member (js "cell_state")
  (raw.member (js "h3_cell")).orElse
    ((cellState.andThen (cellState.member (js "h3_cell"))).orElse
      ((raw.member (js "id")).orElse .null))

/-- `extractCellId` of the detail of an event. -/
def extractCellId (detail : JsValue F) : JsValue F :=
  if detail.truthy then
    match detail.member (js "cell") with
    | .string s => .string (rollupRes8 h3 s)
    | raw =>
        if (candidate raw).truthy then rollupValue h3 (candidate raw)
        else match detail.member (js "h3_cell") with
          | .string s => .string (rollupRes8 h3 s)
          | _ => .null
  else .null

/-- The cell that `onAuditOpen` goes on with. -/
def openedCell (detail : JsValue F) : Option JsString :=
  match extractCellId h3 detail with
  | .string s => if s = [] then none else some s
  | _ => none

/-- `{ ...base, ...inner }`, of which only the members are read. -/
def spread (base : List (JsString × JsValue F)) : JsValue F → JsValue F
  | .object ms => .object (ms ++ base)
  | _ => .object base

/-- The detail of the event of `app.js`. -/
def bundleDetail (h3hex : JsString) (currentEpoch : SafeInteger)
    (inner : JsValue F) : JsValue F :=
  .object [(js "cell", spread
    [(js "h3_cell", .string h3hex), (js "epoch", .number (.int currentEpoch))]
    inner)]

/-- A bundle that says what its cell is. -/
theorem openedCell_bundleDetail {h3hex s : JsString} {inner : JsValue F}
    (currentEpoch : SafeInteger)
    (hcell : inner.member (js "h3_cell") = .string s)
    (hs : s ≠ []) (hrolled : rollupRes8 h3 s ≠ []) :
    openedCell h3 (bundleDetail h3hex currentEpoch inner) =
      some (rollupRes8 h3 s) := by
  obtain ⟨ms, rfl⟩ : ∃ ms, inner = .object ms := by
    apply JsValue.exists_object_of_member (k := js "h3_cell")
    rw [hcell]
    nofun
  have hraw : (bundleDetail h3hex currentEpoch (JsValue.object ms)).member
      (js "cell") = .object (ms ++ [(js "h3_cell", .string h3hex),
        (js "epoch", .number (.int currentEpoch))]) := rfl
  have hmember : (JsValue.object (ms ++ [(js "h3_cell", .string h3hex),
      (js "epoch", .number (.int currentEpoch))])).member (js "h3_cell") =
        .string s := by
    rw [JsValue.member] at hcell ⊢
    rw [List.find?_append]
    cases hfind : ms.find? fun m => m.1 = js "h3_cell" with
    | none =>
        rw [hfind] at hcell
        cases hcell
    | some m =>
        rw [hfind] at hcell
        exact hcell
  have htruthy : (JsValue.string s : JsValue F).truthy = true := by
    cases s with
    | nil => exact absurd rfl hs
    | cons u s => rfl
  have hcandidate : candidate (JsValue.object (ms ++
      [(js "h3_cell", .string h3hex),
        (js "epoch", .number (.int currentEpoch))])) = .string s := by
    rw [candidate, hmember, JsValue.orElse, if_pos htruthy]
  have hextract : extractCellId h3
      (bundleDetail h3hex currentEpoch (JsValue.object ms)) =
        .string (rollupRes8 h3 s) := by
    have hdetail : (bundleDetail h3hex currentEpoch
        (JsValue.object ms)).truthy = true := rfl
    rw [extractCellId, if_pos hdetail, hraw]
    dsimp only
    rw [hcandidate, if_pos htruthy]
    rfl
  rw [openedCell, hextract]
  exact if_neg hrolled

/-- The detail of the event of the twin layer. -/
def overlayDetail (cell : JsValue F) : JsValue F :=
  .object [(js "cell", cell), (js "source", .string (js "twin-overlay"))]

end Cells

/-! ## The answers -/

/-- A response of the twin API. -/
structure Response (F : Type) where
  status : Nat
  json : Throws (JsValue F)

section Answers

variable {F H : Type}

/-- `fetchTwinState` from its `await` on. -/
def fetchTwinState (response : Throws (Response F)) : Throws (JsValue F) := do
  let r ← response
  if 200 ≤ r.status ∧ r.status < 300 then r.json
  else throw ⟨js "twin/state HTTP " ++ ofText (intDecimal r.status)⟩

/-- The body of a section. -/
inductive Content (H : Type) where
  | loading
  | detail (html : H)
  | empty
  | noData
  | failed (error : JsError)

/-- What is shown of an error: a cell outside of the twin's set is none. -/
def Content.caught (e : JsError) : Content H :=
  if includes e.message (js "404") then .noData else .failed e

variable (renderTwinDetail : JsValue F → Throws H)

/-- `onAuditOpen` from its `await` on. -/
def Content.ofAnswer (answer : Throws (JsValue F)) : Content H :=
  match answer with
  | .ok record =>
      if (record.member (js "h3_cell")).truthy then
        match renderTwinDetail record with
        | .ok html => .detail html
        | .error e => .caught e
      else .empty
  | .error e => .caught e

theorem Content.ofAnswer_ne_loading (answer : Throws (JsValue F)) :
    Content.ofAnswer renderTwinDetail answer ≠ .loading := by
  have hcaught : ∀ e : JsError, (Content.caught e : Content H) ≠ .loading := by
    intro e
    unfold Content.caught
    split <;> nofun
  unfold Content.ofAnswer
  cases answer with
  | error e => exact hcaught e
  | ok record =>
      dsimp only
      split
      · split
        · nofun
        · exact hcaught _
      · nofun

end Answers

/-! ## The page -/

/-- What `app.js` puts into the panel; a bundle with the detail of its
event. -/
inductive Panel (F : Type) where
  | empty
  | loading (h3hex : JsString)
  | bundle (detail : JsValue F)
  | failed (h3hex : JsString) (message : JsString)

/-- The section, and the cell it is for. -/
structure Section (H : Type) where
  cell : JsString
  content : Content H

structure Page (F H : Type) where
  currentEpoch : SafeInteger
  panel : Panel F
  twinSection : Option (Section H)
  /-- the cells whose bundles are awaited -/
  provenances : List JsString
  /-- the cells whose states are awaited -/
  fetches : List JsString
  inflightCell : Option JsString

inductive Event (F : Type) where
  | click (h3hex : JsString)
  | input (epoch : SafeInteger)
  /-- `get_provenance` answers the `i`-th click that waits, or fails, or its
  bundle cannot be rendered. -/
  | provenance (i : Nat) (answer : Throws (JsValue F))
  /-- A click on a feature of the twin layer, with its `h3_cell`. -/
  | overlayClick (cell : JsValue F)
  | state (i : Nat) (response : Throws (Response F))

section Run

variable {F H : Type} (h3 : Option H3Js)
variable (renderTwinDetail : JsValue F → Throws H)

namespace Page

/-- The page as it is loaded. -/
def start : Page F H where
  currentEpoch := ⟨9, rfl⟩
  panel := .empty
  twinSection := none
  provenances := []
  fetches := []
  inflightCell := none

/-- `onAuditOpen` up to its `await`. -/
def onAuditOpen (p : Page F H) (detail : JsValue F) : Page F H :=
  match openedCell h3 detail with
  | some cell =>
      { p with
        twinSection := some ⟨cell, .loading⟩
        inflightCell := some cell
        fetches := p.fetches ++ [cell] }
  | none => p

/-- `onCellClick` up to its `await`. -/
def onCellClick (p : Page F H) (h3hex : JsString) : Page F H :=
  { p with
    panel := .loading h3hex
    twinSection := none
    provenances := p.provenances ++ [h3hex] }

/-- `onCellClick` from its `await` on. -/
def showBundle (p : Page F H) (h3hex : JsString)
    (answer : Throws (JsValue F)) : Page F H :=
  match answer with
  | .ok inner =>
      let detail := bundleDetail h3hex p.currentEpoch inner
      onAuditOpen h3 { p with panel := .bundle detail, twinSection := none }
        detail
  | .error e => { p with panel := .failed h3hex e.message, twinSection := none }

/-- `onAuditOpen` from its `await` on: the user may have moved on. -/
def showState (p : Page F H) (cell : JsString)
    (response : Throws (Response F)) : Page F H :=
  if p.inflightCell = some cell then
    { p with
      twinSection := some
        ⟨cell, .ofAnswer renderTwinDetail (fetchTwinState response)⟩ }
  else p

/-- Only what was asked for arrives, once. -/
def step (p : Page F H) : Event F → Option (Page F H)
  | .click h3hex => some (p.onCellClick h3hex)
  | .input epoch => some { p with currentEpoch := epoch }
  | .provenance i answer =>
      p.provenances[i]?.map fun h3hex =>
        showBundle h3 { p with provenances := p.provenances.eraseIdx i } h3hex
          answer
  | .overlayClick cell => some (p.onAuditOpen h3 (overlayDetail cell))
  | .state i response =>
      p.fetches[i]?.map fun cell =>
        showState renderTwinDetail { p with fetches := p.fetches.eraseIdx i }
          cell response

/-! ## What one event keeps -/

/-- The section is of the cell that was opened last, and waits for an answer
that is to come. -/
structure Tracked (p : Page F H) : Prop where
  section_cell : ∀ s, p.twinSection = some s → p.inflightCell = some s.cell
  awaited : ∀ s, p.twinSection = some s → s.content = .loading →
    s.cell ∈ p.fetches

/-- Below a bundle stands the section of its cell. -/
def Matches (p : Page F H) : Prop :=
  ∀ detail, p.panel = .bundle detail →
    ∃ s, p.twinSection = some s ∧ openedCell h3 detail = some s.cell

/-- A section stands below a bundle. -/
def Placed (p : Page F H) : Prop :=
  ∀ s, p.twinSection = some s → ∃ detail, p.panel = .bundle detail

/-- A bundle that arrives names its cell, and a cell that is opened from the
twin layer is the one whose bundle is shown, if one is. -/
def Fits (p : Page F H) : Event F → Prop
  | .provenance i answer =>
      ∀ h3hex inner, p.provenances[i]? = some h3hex → answer = .ok inner →
        openedCell h3 (bundleDetail h3hex p.currentEpoch inner) ≠ none
  | .overlayClick cell =>
      ∀ opened detail, openedCell h3 (overlayDetail cell) = some opened →
        p.panel = .bundle detail → openedCell h3 detail = some opened
  | _ => True

/-- What puts a section into the panel finds a bundle there. -/
def Hosted (p : Page F H) : Event F → Prop
  | .overlayClick cell =>
      openedCell h3 (overlayDetail cell) ≠ none →
        ∃ detail, p.panel = .bundle detail
  | .state i _ =>
      ∀ cell, p.fetches[i]? = some cell → p.inflightCell = some cell →
        ∃ detail, p.panel = .bundle detail
  | _ => True

theorem start_tracked : (start : Page F H).Tracked where
  section_cell := fun _ h => nomatch h
  awaited := fun _ h => nomatch h

theorem start_placed : (start : Page F H).Placed := fun _ h => nomatch h

/-- A page without a section. -/
theorem tracked_of_none {p : Page F H} (h : p.twinSection = none) :
    p.Tracked where
  section_cell := by
    intro s hs
    rw [h] at hs
    cases hs
  awaited := by
    intro s hs
    rw [h] at hs
    cases hs

theorem onAuditOpen_panel (p : Page F H) (detail : JsValue F) :
    (p.onAuditOpen h3 detail).panel = p.panel := by
  unfold Page.onAuditOpen
  split <;> rfl

theorem Tracked.onAuditOpen {p : Page F H} (h : p.Tracked)
    (detail : JsValue F) : (p.onAuditOpen h3 detail).Tracked := by
  unfold Page.onAuditOpen
  cases openedCell h3 detail with
  | none => exact h
  | some cell =>
      constructor
      · intro s hs
        cases hs
        rfl
      · intro s hs _
        cases hs
        exact List.mem_append_right _ (List.mem_singleton.mpr rfl)

theorem Tracked.showBundle {p : Page F H} (h3hex : JsString)
    (answer : Throws (JsValue F)) : (p.showBundle h3 h3hex answer).Tracked := by
  cases answer with
  | error e => exact tracked_of_none rfl
  | ok inner => exact (tracked_of_none rfl).onAuditOpen h3 _

/-- An answer for another cell is none that the section waits for. -/
theorem Tracked.showState {p : Page F H} (h : p.Tracked) {i : Nat}
    {cell : JsString} (hcell : p.fetches[i]? = some cell)
    (response : Throws (Response F)) :
    (showState renderTwinDetail { p with fetches := p.fetches.eraseIdx i } cell
      response).Tracked := by
  unfold Page.showState
  split
  · next hinflight =>
      constructor
      · intro s hs
        cases hs
        exact hinflight
      · intro s hs hloading
        cases hs
        exact absurd hloading (Content.ofAnswer_ne_loading _ _)
  · next hother =>
      refine ⟨h.section_cell, fun s hs hloading => ?_⟩
      have hne : s.cell ≠ cell := by
        intro heq
        exact hother (heq ▸ h.section_cell s hs)
      obtain ⟨j, hj⟩ := List.mem_iff_getElem?.mp (h.awaited s hs hloading)
      have hij : j ≠ i := by
        intro heq
        rw [heq, hcell] at hj
        exact hne (Option.some.inj hj).symm
      exact List.mem_eraseIdx_iff_getElem?.mpr ⟨j, hij, hj⟩

/-- **The section is of the last cell that was opened**, whatever arrives. -/
theorem step_tracked {p p' : Page F H} {e : Event F} (h : p.Tracked)
    (hstep : p.step h3 renderTwinDetail e = some p') : p'.Tracked := by
  cases e with
  | click h3hex =>
      cases hstep
      exact tracked_of_none rfl
  | input epoch =>
      cases hstep
      exact ⟨h.section_cell, h.awaited⟩
  | provenance i answer =>
      obtain ⟨h3hex, -, rfl⟩ := Option.map_eq_some_iff.mp hstep
      exact Tracked.showBundle h3 h3hex answer
  | overlayClick cell =>
      cases hstep
      exact h.onAuditOpen h3 _
  | state i response =>
      obtain ⟨cell, hcell, rfl⟩ := Option.map_eq_some_iff.mp hstep
      exact h.showState renderTwinDetail hcell response

/-! ## What one event breaks -/

/-- A section of another cell than the bundle's, put below it. -/
theorem matches_opened_iff {p : Page F H} {detail : JsValue F}
    {opened : JsString} (hopened : openedCell h3 detail = some opened) :
    (p.onAuditOpen h3 detail).Matches h3 ↔
      ∀ shown, p.panel = .bundle shown → openedCell h3 shown = some opened := by
  rw [Page.onAuditOpen, hopened]
  constructor
  · intro h shown hshown
    obtain ⟨s, hs, hcell⟩ := h shown hshown
    cases hs
    exact hcell
  · exact fun h shown hshown => ⟨_, rfl, h shown hshown⟩

theorem showBundle_matches_iff (p : Page F H) (h3hex : JsString)
    (answer : Throws (JsValue F)) :
    (p.showBundle h3 h3hex answer).Matches h3 ↔ ∀ inner, answer = .ok inner →
      openedCell h3 (bundleDetail h3hex p.currentEpoch inner) ≠ none := by
  cases answer with
  | error e =>
      exact iff_of_true (fun _ h => nomatch h) (fun _ h => nomatch h)
  | ok inner =>
      have hok : (∀ i, (Except.ok inner : Throws (JsValue F)) = .ok i →
          openedCell h3 (bundleDetail h3hex p.currentEpoch i) ≠ none) ↔
          openedCell h3 (bundleDetail h3hex p.currentEpoch inner) ≠ none := by
        simp
      rw [hok, Page.showBundle]
      cases hopened :
          openedCell h3 (bundleDetail h3hex p.currentEpoch inner) with
      | none =>
          -- the section of before went with the panel
          refine iff_of_false (fun h => ?_) (fun h => h rfl)
          rw [Page.onAuditOpen, hopened] at h
          obtain ⟨s, hs, -⟩ := h _ rfl
          cases hs
      | some opened =>
          refine iff_of_true ?_ (Option.some_ne_none opened)
          rw [matches_opened_iff h3 hopened]
          intro shown hshown
          cases hshown
          exact hopened

/-- **When one event leaves the section of the bundle below it.** -/
theorem step_matches_iff {p p' : Page F H} {e : Event F} (h : p.Tracked)
    (hmatches : p.Matches h3) (hstep : p.step h3 renderTwinDetail e = some p') :
    p'.Matches h3 ↔ p.Fits h3 e := by
  cases e with
  | click h3hex =>
      cases hstep
      exact iff_of_true (fun _ h => nomatch h) trivial
  | input epoch =>
      cases hstep
      exact iff_of_true hmatches trivial
  | provenance i answer =>
      obtain ⟨h3hex, hi, rfl⟩ := Option.map_eq_some_iff.mp hstep
      rw [showBundle_matches_iff]
      constructor
      · intro h h3hex' inner hi' hanswer
        rw [hi] at hi'
        cases hi'
        exact h inner hanswer
      · exact fun h inner hanswer => h h3hex inner hi hanswer
  | overlayClick cell =>
      cases hstep
      cases hopened : openedCell h3 (overlayDetail cell) with
      | none =>
          rw [Page.onAuditOpen, Fits, hopened]
          exact iff_of_true hmatches (fun _ _ h => nomatch h)
      | some opened =>
          rw [matches_opened_iff h3 hopened]
          constructor
          · intro h opened' detail hopened' hdetail
            rw [hopened] at hopened'
            cases hopened'
            exact h detail hdetail
          · exact fun h shown hshown => h opened shown hopened hshown
  | state i response =>
      obtain ⟨cell, -, rfl⟩ := Option.map_eq_some_iff.mp hstep
      refine iff_of_true ?_ trivial
      unfold Page.showState
      split
      · next hinflight =>
          intro detail hdetail
          obtain ⟨s, hs, hcell⟩ := hmatches detail hdetail
          have hsame : s.cell = cell :=
            Option.some.inj ((h.section_cell s hs).symm.trans hinflight)
          exact ⟨_, rfl, hsame ▸ hcell⟩
      · exact hmatches

/-- **When one event leaves every section below a bundle.** -/
theorem step_placed_iff {p p' : Page F H} {e : Event F} (hplaced : p.Placed)
    (hstep : p.step h3 renderTwinDetail e = some p') :
    p'.Placed ↔ p.Hosted h3 e := by
  cases e with
  | click h3hex =>
      cases hstep
      exact iff_of_true (fun _ h => nomatch h) trivial
  | input epoch =>
      cases hstep
      exact iff_of_true hplaced trivial
  | provenance i answer =>
      obtain ⟨h3hex, -, rfl⟩ := Option.map_eq_some_iff.mp hstep
      refine iff_of_true ?_ trivial
      cases answer with
      | error e => exact fun _ h => nomatch h
      | ok inner =>
          intro s _
          exact ⟨_, onAuditOpen_panel h3 _ _⟩
  | overlayClick cell =>
      cases hstep
      rw [Page.onAuditOpen, Hosted]
      cases openedCell h3 (overlayDetail cell) with
      | none => exact iff_of_true hplaced (fun h => absurd rfl h)
      | some opened =>
          exact ⟨fun h _ => h _ rfl,
            fun h _ _ => h (Option.some_ne_none opened)⟩
  | state i response =>
      obtain ⟨cell, hcell, rfl⟩ := Option.map_eq_some_iff.mp hstep
      have hhosted : p.Hosted h3 (.state i response) ↔
          (p.inflightCell = some cell →
            ∃ detail, p.panel = .bundle detail) := by
        rw [Hosted]
        simp [hcell]
      rw [hhosted, Page.showState]
      split
      · next hinflight =>
          exact ⟨fun h _ => h _ rfl, fun h _ _ => h hinflight⟩
      · next hother =>
          exact iff_of_true hplaced (fun h => absurd h hother)

end Page

/-! ## What a run keeps -/

/-- The sections below the bundles are those of their cells exactly if every
event fits. -/
theorem throughout_matches_iff (events : List (Event F)) :
    Throughout (Page.step h3 renderTwinDetail) (Page.Matches h3) Page.start
        events ↔
      StepsMeet (Page.step h3 renderTwinDetail) (Page.Fits h3) Page.start
        events := by
  refine throughout_iff_of_invariant (Page.step h3 renderTwinDetail)
    (J := fun p => p.Tracked ∧ p.Matches h3) (fun _ h => h.2) ?_
    ⟨Page.start_tracked, fun _ h => nomatch h⟩ events
  rintro p e p' ⟨h, hmatches⟩ hstep
  have hiff := Page.step_matches_iff h3 renderTwinDetail h hmatches hstep
  exact ⟨fun hfits => ⟨Page.step_tracked h3 renderTwinDetail h hstep,
    hiff.mpr hfits⟩, hiff.mp⟩

/-- **The twin section.**  In every run, whatever order the answers come in,
the section is of the last cell that was opened and loads only as long as an
answer is to come; below each bundle stands the section of its cell exactly if
the bundles name their cells and the cells opened from the twin layer are those
of the bundles shown; and every section stands below a bundle exactly if no
cell is opened, and no answer for the last one arrives, while none is shown. -/
theorem twinSection_iff (events : List (Event F)) :
    Throughout (Page.step h3 renderTwinDetail) Page.Tracked Page.start events ∧
      (Throughout (Page.step h3 renderTwinDetail) (Page.Matches h3) Page.start
          events ↔
        StepsMeet (Page.step h3 renderTwinDetail) (Page.Fits h3) Page.start
          events) ∧
      (Throughout (Page.step h3 renderTwinDetail) Page.Placed Page.start
          events ↔
        StepsMeet (Page.step h3 renderTwinDetail) (Page.Hosted h3) Page.start
          events) := by
  refine ⟨?_, throughout_matches_iff h3 renderTwinDetail events, ?_⟩
  · intro pre _ p hp
    exact run_keeps (Page.step h3 renderTwinDetail)
      (fun _ _ _ h hstep => Page.step_tracked h3 renderTwinDetail h hstep) hp
      Page.start_tracked
  · exact throughout_iff_stepsMeet (Page.step h3 renderTwinDetail)
      (fun _ _ _ h hstep => Page.step_placed_iff h3 renderTwinDetail h hstep)
      Page.start_placed events

/-- A bundle that arrives says what its cell is, and none is opened from the
twin layer. -/
def OfPanel : Event F → Prop
  | .provenance _ answer => ∀ inner, answer = .ok inner →
      ∃ s, inner.member (js "h3_cell") = .string s ∧ s ≠ [] ∧
        rollupRes8 h3 s ≠ []
  | .overlayClick _ => False
  | _ => True

/-- **Clicks on the cells of the page alone**: below each bundle stands the
section of its cell, in whatever order the answers come. -/
theorem panel_matches {events : List (Event F)}
    (h : ∀ e ∈ events, OfPanel h3 e) :
    Throughout (Page.step h3 renderTwinDetail) (Page.Matches h3) Page.start
      events := by
  rw [throughout_matches_iff]
  intro pre e hpre p p' _ _
  have he := h e (hpre.subset
    (List.mem_append_right _ (List.mem_singleton_self e)))
  cases e with
  | provenance i answer =>
      intro h3hex inner _ hanswer
      obtain ⟨s, hcell, hs, hrolled⟩ := he inner hanswer
      rw [openedCell_bundleDetail h3 p.currentEpoch hcell hs hrolled]
      exact Option.some_ne_none _
  | overlayClick cell => exact absurd he id
  | _ => trivial

end Run

end RenderEngine.Ports.TwinSection
