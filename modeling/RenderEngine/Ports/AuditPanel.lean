import RenderEngine.Ports.JavaScript
import RenderEngine.Verified.StepRun

/-!
# The audit panel (`demo/app.js`, `demo/lab_overlay.js`)

A click on a cell asks for its bundle, which `app.js` shows in the panel; the
lab overlay then asks for the predictions of the cell's ancestor, verifies the
newest one and appends a section to the panel.  Of these three answers only a
query for predictions is ever aborted.  Nothing checks whether an answer is
still the one that the panel waits for, as the twin overlay does.

An aborted query is dropped here at once: it rejects with an `AbortError`, on
which nothing is done.

## Main results

* `arrival_kept`, `arrival_breaks`, `arrival_lost`: what the arrival of an
  answer does to a panel that can still come to show a cell.
* `auditPanel_iff`: the runs after which the panel shows the last clicked cell.
-/

namespace RenderEngine.Ports.AuditPanel

open RenderEngine.Ports.JavaScript
open RenderEngine.Verified.StepRun

/-! ## The answers -/

/-- A lab record: `signed_at`, and the rest. -/
structure LabRecord (R : Type) where
  signedAt : Option JsString
  content : R

/-- What `query_predictions` returns. -/
structure Predictions (R T : Type) where
  records : List (LabRecord R)
  trustRoot : T

/-- `h3-js`, where it is loaded, and the collation of the browser. -/
structure Host where
  cellToParent : Option (JsString → Nat → Throws JsString)
  localeCompare : JsString → JsString → Int

/-- `LAB_RESOLUTION`. -/
def labResolution : Nat := 8

/-- The ancestor to query, or the cell itself where there is none. -/
def Host.labCell (host : Host) (cell : JsString) : JsString :=
  match host.cellToParent.map fun cellToParent =>
      cellToParent cell labResolution with
  | some (Except.ok candidate) => if candidate = [] then cell else candidate
  | _ => cell

/-- The records, the most recently signed ones first. -/
def Host.newestFirst {R : Type} (host : Host) (records : List (LabRecord R)) :
    List (LabRecord R) :=
  records.mergeSort fun a b =>
    decide (host.localeCompare (b.signedAt.getD []) (a.signedAt.getD []) ≤ 0)

theorem Host.newestFirst_eq_nil {R : Type} (host : Host)
    {records : List (LabRecord R)} :
    host.newestFirst records = [] ↔ records = [] := by
  rw [← List.length_eq_zero_iff, ← List.length_eq_zero_iff, newestFirst,
    List.length_mergeSort]

/-- `cacheKey`, with `any` as the epoch. -/
def cacheKey (h3Cell : JsString) : JsString := h3Cell ++ js ":any"

/-! ## The page -/

/-- What `app.js` puts into the panel. -/
inductive Panel (B : Type) where
  | empty
  | loading (cell : JsString)
  | bundle (cell : JsString) (bundle : B)
  | failed (cell : JsString) (message : JsString)

/-- The body of a lab section. -/
inductive LabContent (R T V : Type) where
  | loading
  | empty
  | failed (message : JsString)
  | verdict (record : LabRecord R) (response : Predictions R T) (verdict : V)

/-- The lab section of the panel, and the cell it is for. -/
structure LabSection (R T V : Type) where
  clickedCell : JsString
  labCell : JsString
  content : LabContent R T V

/-- A query for predictions in flight, and its `AbortController`. -/
structure Query where
  controller : Nat
  clickedCell : JsString
  labCell : JsString

/-- A verification that was not awaited to its end. -/
structure Verification (R T : Type) where
  clickedCell : JsString
  labCell : JsString
  record : LabRecord R
  response : Predictions R T

structure Page (B R T V : Type) where
  panel : Panel B
  labSection : Option (LabSection R T V)
  /-- the cells whose bundles were asked for -/
  provenances : List JsString
  queries : List Query
  verifications : List (Verification R T)
  inflight : Option Nat
  /-- the controllers made so far -/
  controllers : Nat
  cache : List (JsString × Predictions R T)

inductive Event (B R T V : Type) where
  | click (cell : JsString)
  /-- `get_provenance` answers the `i`-th click that waits, or fails, or its
  bundle cannot be rendered. -/
  | provenance (i : Nat) (answer : Throws B)
  | predictions (i : Nat) (answer : Throws (Predictions R T))
  | verified (i : Nat) (answer : Throws V)

def Event.IsClick {B R T V : Type} : Event B R T V → Prop
  | .click _ => True
  | _ => False

section Run

variable {B R T V : Type} (host : Host)

namespace Page

/-- The page as it is loaded. -/
def start : Page B R T V where
  panel := .empty
  labSection := none
  provenances := []
  queries := []
  verifications := []
  inflight := none
  controllers := 0
  cache := []

/-- `attach`, after `clearPrevious`. -/
def attach (p : Page B R T V) (clickedCell labCell : JsString)
    (content : LabContent R T V) : Page B R T V :=
  { p with labSection := some ⟨clickedCell, labCell, content⟩ }

/-- `onAuditOpen` from the response on. -/
def receive (p : Page B R T V) (clickedCell labCell : JsString)
    (response : Predictions R T) : Page B R T V :=
  match host.newestFirst response.records with
  | [] => p.attach clickedCell labCell .empty
  | record :: _ =>
      { p with
        verifications :=
          p.verifications ++ [⟨clickedCell, labCell, record, response⟩] }

/-- `inflight.abort()`, which does nothing to a query that was answered. -/
def abortInflight (p : Page B R T V) : List Query :=
  match p.inflight with
  | some controller => p.queries.filter fun q => q.controller ≠ controller
  | none => p.queries

/-- `onAuditOpen` up to its first `await`. -/
def onAuditOpen (p : Page B R T V) (cell : JsString) : Page B R T V :=
  let labCell := host.labCell cell
  let controller := p.controllers
  let p := { p with
    queries := p.abortInflight
    inflight := some controller
    controllers := controller + 1 }
  match p.cache.lookup (cacheKey labCell) with
  | some response => p.receive host cell labCell response
  | none =>
      { p.attach cell labCell .loading with
        queries := p.queries ++ [⟨controller, cell, labCell⟩] }

/-- `onCellClick` up to its `await`.  What is written into the panel replaces
the lab section as well. -/
def onCellClick (p : Page B R T V) (cell : JsString) : Page B R T V :=
  { p with
    panel := .loading cell
    labSection := none
    provenances := p.provenances ++ [cell] }

/-- `onCellClick` from its `await` on. -/
def showBundle (p : Page B R T V) (cell : JsString) (answer : Throws B) :
    Page B R T V :=
  match answer with
  | .ok bundle =>
      onAuditOpen host { p with
        panel := .bundle cell bundle
        labSection := none } cell
  | .error e => { p with panel := .failed cell e.message, labSection := none }

/-- `onAuditOpen` from the `await` of `queryPredictions` on. -/
def showPredictions (p : Page B R T V) (q : Query)
    (answer : Throws (Predictions R T)) : Page B R T V :=
  match answer with
  | .ok response =>
      receive host { p with
        cache := (cacheKey q.labCell, response) :: p.cache }
        q.clickedCell q.labCell response
  | .error e => p.attach q.clickedCell q.labCell
      (.failed (js "query_predictions failed: " ++ e.message))

/-- `onAuditOpen` from the `await` of `verifyLabRecord` on. -/
def showVerdict (p : Page B R T V) (v : Verification R T)
    (answer : Throws V) : Page B R T V :=
  p.attach v.clickedCell v.labCell <|
    match answer with
    | .ok verdict => .verdict v.record v.response verdict
    | .error e => .failed (js "verifier crashed: " ++ e.message)

/-- Only what was asked for arrives, once. -/
def step (p : Page B R T V) : Event B R T V → Option (Page B R T V)
  | .click cell => some (p.onCellClick cell)
  | .provenance i answer =>
      p.provenances[i]?.map fun cell =>
        showBundle host { p with provenances := p.provenances.eraseIdx i }
          cell answer
  | .predictions i answer =>
      p.queries[i]?.map fun q =>
        showPredictions host { p with queries := p.queries.eraseIdx i } q answer
  | .verified i answer =>
      p.verifications[i]?.map fun v =>
        showVerdict { p with verifications := p.verifications.eraseIdx i }
          v answer

/-! ## Showing a cell -/

/-- Everything has arrived. -/
def Settled (p : Page B R T V) : Prop :=
  p.provenances = [] ∧ p.queries = [] ∧ p.verifications = []

/-- The lab section is one of the cell. -/
def SectionOf (p : Page B R T V) (cell : JsString) : Prop :=
  ∃ s, p.labSection = some s ∧ s.clickedCell = cell

/-- The panel is the bundle of the cell and the lab section below it is of that
cell; or the bundle could not be had, and no other cell's section stands
there. -/
def Shows (p : Page B R T V) (cell : JsString) : Prop :=
  match p.panel with
  | .bundle shown _ => shown = cell ∧ p.SectionOf cell
  | .failed shown _ =>
      shown = cell ∧ (p.labSection = none ∨ p.SectionOf cell)
  | _ => False

/-- The bundle of the cell is awaited. -/
def AwaitsBundle (p : Page B R T V) (cell : JsString) : Prop :=
  ∃ c ∈ p.provenances, c = cell

/-- A prediction of the cell is awaited or verified. -/
def AwaitsLab (p : Page B R T V) (cell : JsString) : Prop :=
  (∃ q ∈ p.queries, q.clickedCell = cell) ∨
    ∃ v ∈ p.verifications, v.clickedCell = cell

/-- An answer for another cell than the clicked one only arrives while one for
that cell is awaited that will replace what it shows. -/
def Fresh (cell : JsString) (p : Page B R T V) : Event B R T V → Prop
  | .click _ => True
  | .provenance i _ =>
      ∀ c, p.provenances[i]? = some c → c = cell ∨ p.AwaitsBundle cell
  | .predictions i answer =>
      ∀ q, p.queries[i]? = some q →
        (∃ response, answer = .ok response ∧ response.records ≠ []) ∨
          q.clickedCell = cell ∨ p.AwaitsBundle cell ∨ p.AwaitsLab cell
  | .verified i _ =>
      ∀ v, p.verifications[i]? = some v →
        v.clickedCell = cell ∨ p.AwaitsBundle cell ∨ p.AwaitsLab cell

/-- The panel was written for the cell, after its bundle arrived or failed. -/
def PanelOf (p : Page B R T V) (cell : JsString) : Prop :=
  match p.panel with
  | .bundle shown _ => shown = cell
  | .failed shown _ => shown = cell
  | _ => False

/-- The panel shows the cell or will. -/
def Coming (p : Page B R T V) (cell : JsString) : Prop :=
  p.AwaitsBundle cell ∨ (p.PanelOf cell ∧ p.AwaitsLab cell) ∨ p.Shows cell

/-- The panel or the lab section is of another cell, and what would replace it
is not awaited. -/
def Lost (p : Page B R T V) (cell : JsString) : Prop :=
  ¬ p.AwaitsBundle cell ∧
    (¬ p.PanelOf cell ∨
      ¬ p.AwaitsLab cell ∧ ∃ s, p.labSection = some s ∧ s.clickedCell ≠ cell)

theorem Shows.panelOf {p : Page B R T V} {cell : JsString}
    (h : p.Shows cell) : p.PanelOf cell := by
  unfold Shows at h
  unfold PanelOf
  cases hpanel : p.panel <;> rw [hpanel] at h
  · exact h
  · exact h
  · exact h.1
  · exact h.1

theorem shows_of_section {p : Page B R T V} {cell : JsString}
    (hpanel : p.PanelOf cell) (hsection : p.SectionOf cell) :
    p.Shows cell := by
  unfold PanelOf at hpanel
  unfold Shows
  cases hp : p.panel <;> rw [hp] at hpanel
  · exact hpanel
  · exact hpanel
  · exact ⟨hpanel, hsection⟩
  · exact ⟨hpanel, .inr hsection⟩

theorem Coming.panelOf {p : Page B R T V} {cell : JsString}
    (h : p.Coming cell) (hbundle : ¬ p.AwaitsBundle cell) :
    p.PanelOf cell := by
  rcases h with h | h | h
  · exact absurd h hbundle
  · exact h.1
  · exact h.panelOf

/-- Another cell's lab section is not shown below the panel of the cell. -/
theorem not_shows_of_section {p : Page B R T V} {cell : JsString}
    {s : LabSection R T V} (hs : p.labSection = some s)
    (hcell : s.clickedCell ≠ cell) : ¬ p.Shows cell := by
  have hnot : ¬ p.SectionOf cell := by
    rintro ⟨s', hs', hcell'⟩
    rw [hs] at hs'
    cases hs'
    exact hcell hcell'
  intro h
  unfold Shows at h
  cases hp : p.panel <;> rw [hp] at h
  · exact h
  · exact h
  · exact hnot h.2
  · rcases h.2 with hnone | hsection
    · rw [hs] at hnone
      cases hnone
    · exact hnot hsection

theorem Lost.not_shows {p : Page B R T V} {cell : JsString}
    (h : p.Lost cell) : ¬ p.Shows cell := by
  rcases h.2 with hpanel | ⟨-, s, hs, hcell⟩
  · exact fun hshows => hpanel hshows.panelOf
  · exact not_shows_of_section hs hcell

theorem Coming.shows {p : Page B R T V} {cell : JsString}
    (h : p.Coming cell) (hsettled : p.Settled) : p.Shows cell := by
  obtain ⟨hbundles, hqueries, hverifications⟩ := hsettled
  rcases h with ⟨c, hc, -⟩ | ⟨-, ⟨q, hq, -⟩ | ⟨v, hv, -⟩⟩ | h
  · rw [hbundles] at hc
    cases hc
  · rw [hqueries] at hq
    cases hq
  · rw [hverifications] at hv
    cases hv
  · exact h

/-! ## The arrival of a bundle -/

/-- A bundle of a cell arrives, or its failure. -/
structure BundleArrival (p p' : Page B R T V) (cell : JsString) : Prop where
  awaited : p.AwaitsBundle cell
  others : ∀ c, c ≠ cell → (p'.AwaitsBundle c ↔ p.AwaitsBundle c)
  panel : ∀ c, p'.PanelOf c → c = cell
  coming : (p'.PanelOf cell ∧ p'.AwaitsLab cell) ∨ p'.Shows cell

section

variable {p p' : Page B R T V} {shown cell : JsString}

theorem BundleArrival.kept (h : BundleArrival p p' shown)
    (hfresh : shown = cell ∨ p.AwaitsBundle cell) : p'.Coming cell := by
  by_cases hcell : cell = shown
  · subst hcell
    exact .inr h.coming
  · have hawaits : p.AwaitsBundle cell :=
      hfresh.resolve_left (fun heq => hcell heq.symm)
    exact .inl ((h.others cell hcell).mpr hawaits)

theorem BundleArrival.lost (h : BundleArrival p p' shown)
    (hawaits : ¬ p.AwaitsBundle cell) : p'.Lost cell := by
  have hcell : cell ≠ shown := by
    rintro rfl
    exact hawaits h.awaited
  exact ⟨fun hlater => hawaits ((h.others cell hcell).mp hlater),
    .inl fun hpanel => hcell (h.panel cell hpanel)⟩

end

/-! ## The arrival of lab results -/

/-- Predictions of a cell arrive, or a verdict.  What arrives is attached to the
panel, or is verified first. -/
structure LabArrival (p p' : Page B R T V) (cell : JsString)
    (Attached : Prop) : Prop where
  awaited : p.AwaitsLab cell
  panel : p'.panel = p.panel
  provenances : p'.provenances = p.provenances
  others : ∀ c, c ≠ cell → (p'.AwaitsLab c ↔ p.AwaitsLab c)
  attached : Attached → p'.SectionOf cell
  verified : ¬ Attached → p'.labSection = p.labSection ∧ p'.AwaitsLab cell

section

variable {p p' : Page B R T V} {shown cell : JsString} {Attached : Prop}

theorem LabArrival.panelOf_iff (h : LabArrival p p' shown Attached)
    (cell : JsString) : p'.PanelOf cell ↔ p.PanelOf cell := by
  rw [PanelOf, PanelOf, h.panel]

theorem LabArrival.awaitsBundle_iff (h : LabArrival p p' shown Attached)
    (cell : JsString) : p'.AwaitsBundle cell ↔ p.AwaitsBundle cell := by
  rw [AwaitsBundle, AwaitsBundle, h.provenances]

theorem LabArrival.kept (h : LabArrival p p' shown Attached)
    (hcoming : p.Coming cell)
    (hfresh : ¬ Attached ∨ shown = cell ∨ p.AwaitsBundle cell ∨
      p.AwaitsLab cell) : p'.Coming cell := by
  by_cases hbundle : p.AwaitsBundle cell
  · exact .inl ((h.awaitsBundle_iff cell).mpr hbundle)
  have hpanel := (h.panelOf_iff cell).mpr (hcoming.panelOf hbundle)
  right
  by_cases hattached : Attached
  · have hsection := h.attached hattached
    by_cases hcell : cell = shown
    · subst hcell
      exact .inr (shows_of_section hpanel hsection)
    · have hlab : p.AwaitsLab cell := by
        rcases hfresh with hnot | heq | hawaits | hawaits
        · exact absurd hattached hnot
        · exact absurd heq.symm hcell
        · exact absurd hawaits hbundle
        · exact hawaits
      exact .inl ⟨hpanel, (h.others cell hcell).mpr hlab⟩
  · obtain ⟨hsame, hawaits⟩ := h.verified hattached
    by_cases hcell : cell = shown
    · subst hcell
      exact .inl ⟨hpanel, hawaits⟩
    rcases hcoming with hnot | ⟨-, hlab⟩ | hshows
    · exact absurd hnot hbundle
    · exact .inl ⟨hpanel, (h.others cell hcell).mpr hlab⟩
    · right
      rw [Shows, SectionOf, h.panel, hsame]
      exact hshows

theorem LabArrival.breaks (h : LabArrival p p' shown Attached)
    (hfresh : ¬ (¬ Attached ∨ shown = cell ∨ p.AwaitsBundle cell ∨
      p.AwaitsLab cell)) : p'.Lost cell := by
  simp only [not_or, not_not] at hfresh
  obtain ⟨hattached, hcell, hbundle, hlab⟩ := hfresh
  obtain ⟨s, hs, hshown⟩ := h.attached hattached
  refine ⟨fun hlater => hbundle ((h.awaitsBundle_iff cell).mp hlater), .inr ?_⟩
  refine ⟨fun hlater => hlab ((h.others cell (Ne.symm hcell)).mp hlater), s, hs,
    ?_⟩
  rw [hshown]
  exact hcell

theorem LabArrival.lost (h : LabArrival p p' shown Attached)
    (hlost : p.Lost cell) : p'.Lost cell := by
  obtain ⟨hbundle, hpanel | ⟨hlab, s, hs, hcell⟩⟩ := hlost
  · exact ⟨fun hlater => hbundle ((h.awaitsBundle_iff cell).mp hlater),
      .inl fun hlater => hpanel ((h.panelOf_iff cell).mp hlater)⟩
  have hother : shown ≠ cell := by
    rintro rfl
    exact hlab h.awaited
  by_cases hattached : Attached
  · exact h.breaks (by simp [hattached, hother, hbundle, hlab])
  · refine ⟨fun hlater => hbundle ((h.awaitsBundle_iff cell).mp hlater), .inr ?_⟩
    refine ⟨fun hlater => hlab ((h.others cell (Ne.symm hother)).mp hlater), s,
      ?_, hcell⟩
    rw [(h.verified hattached).1, hs]

end

/-! ## What the events are -/

private theorem exists_mem_eraseIdx {α : Type} {p : α → Prop} {l : List α}
    {i : Nat} {x : α} (hx : l[i]? = some x) (hp : ¬ p x) :
    (∃ y ∈ l.eraseIdx i, p y) ↔ ∃ y ∈ l, p y := by
  constructor
  · rintro ⟨y, hy, hpy⟩
    exact ⟨y, List.mem_of_mem_eraseIdx hy, hpy⟩
  · rintro ⟨y, hy, hpy⟩
    obtain ⟨j, hj⟩ := List.mem_iff_getElem?.mp hy
    refine ⟨y, List.mem_eraseIdx_iff_getElem?.mpr ⟨j, ?_, hj⟩, hpy⟩
    rintro rfl
    rw [hx] at hj
    cases hj
    exact hp hpy

/-- Once the response is there, the section is attached or a record verified. -/
theorem receive_spec (p : Page B R T V) (clickedCell labCell : JsString)
    (response : Predictions R T) :
    let p' := p.receive host clickedCell labCell response
    p'.panel = p.panel ∧ p'.provenances = p.provenances ∧
      p'.queries = p.queries ∧
      ((response.records = [] ∧ p'.verifications = p.verifications ∧
          p'.SectionOf clickedCell) ∨
        (response.records ≠ [] ∧ p'.labSection = p.labSection ∧
          ∃ v, v.clickedCell = clickedCell ∧
            p'.verifications = p.verifications ++ [v])) := by
  intro p'
  cases hnewest : host.newestFirst response.records with
  | nil =>
      have hp' : p' = p.attach clickedCell labCell .empty := by
        show p.receive host clickedCell labCell response = _
        rw [receive, hnewest]
      rw [hp']
      exact ⟨rfl, rfl, rfl, .inl ⟨(host.newestFirst_eq_nil).mp hnewest, rfl, _,
        rfl, rfl⟩⟩
  | cons record rest =>
      have hne : response.records ≠ [] := by
        intro hnil
        rw [(host.newestFirst_eq_nil).mpr hnil] at hnewest
        cases hnewest
      have hp' : p' = { p with
          verifications := p.verifications ++
            [⟨clickedCell, labCell, record, response⟩] } := by
        show p.receive host clickedCell labCell response = _
        rw [receive, hnewest]
      rw [hp']
      exact ⟨rfl, rfl, rfl, .inr ⟨hne, rfl, _, rfl, rfl⟩⟩

/-- The overlay starts on its cell without touching the panel. -/
theorem onAuditOpen_spec (p : Page B R T V) (cell : JsString) :
    let p' := p.onAuditOpen host cell
    p'.panel = p.panel ∧ p'.provenances = p.provenances ∧
      (p'.AwaitsLab cell ∨ p'.SectionOf cell) := by
  intro p'
  cases hcached : p.cache.lookup (cacheKey (host.labCell cell)) with
  | some response =>
      let q : Page B R T V := { p with
        queries := p.abortInflight
        inflight := some p.controllers
        controllers := p.controllers + 1 }
      have hp' : p' = q.receive host cell (host.labCell cell) response := by
        show p.onAuditOpen host cell = _
        simp only [onAuditOpen, hcached, q]
      obtain ⟨hpanel, hbundles, -, hrest⟩ :=
        receive_spec host q cell (host.labCell cell) response
      rw [hp']
      refine ⟨hpanel, hbundles, ?_⟩
      rcases hrest with ⟨-, -, hsection⟩ | ⟨-, -, v, hv, hlast⟩
      · exact .inr hsection
      · refine .inl (.inr ⟨v, ?_, hv⟩)
        rw [hlast]
        exact List.mem_append_right _ (List.mem_singleton_self v)
  | none =>
      have hp' : p' = { p.attach cell (host.labCell cell) .loading with
          queries :=
            p.abortInflight ++ [⟨p.controllers, cell, host.labCell cell⟩]
          inflight := some p.controllers
          controllers := p.controllers + 1 } := by
        show p.onAuditOpen host cell = _
        simp only [onAuditOpen, hcached, attach]
      rw [hp']
      exact ⟨rfl, rfl, .inr ⟨_, rfl, rfl⟩⟩

theorem provenance_arrival {p : Page B R T V} {i : Nat} {cell : JsString}
    (hcell : p.provenances[i]? = some cell) (answer : Throws B) :
    BundleArrival p (showBundle host
      { p with provenances := p.provenances.eraseIdx i } cell answer)
      cell := by
  have hothers : ∀ p' : Page B R T V,
      p'.provenances = p.provenances.eraseIdx i →
      ∀ c, c ≠ cell → (p'.AwaitsBundle c ↔ p.AwaitsBundle c) := by
    intro p' hp' c hc
    rw [AwaitsBundle, AwaitsBundle, hp']
    exact exists_mem_eraseIdx hcell (Ne.symm hc)
  have hawaited : p.AwaitsBundle cell :=
    ⟨cell, List.mem_of_getElem? hcell, rfl⟩
  cases answer with
  | ok bundle =>
      let q : Page B R T V := { p with
        provenances := p.provenances.eraseIdx i
        panel := .bundle cell bundle
        labSection := none }
      obtain ⟨hpanel, hbundles, hlab⟩ := onAuditOpen_spec host q cell
      have hof : ∀ c, (q.onAuditOpen host cell).PanelOf c ↔ cell = c := by
        intro c
        rw [PanelOf, hpanel]
      exact {
        awaited := hawaited
        others := hothers _ hbundles
        panel := fun c h => ((hof c).mp h).symm
        coming := hlab.imp (fun h => ⟨(hof cell).mpr rfl, h⟩)
          (shows_of_section ((hof cell).mpr rfl)) }
  | error e =>
      exact {
        awaited := hawaited
        others := hothers _ rfl
        panel := fun c h => Eq.symm h
        coming := .inr ⟨rfl, .inl rfl⟩ }

theorem predictions_arrival {p : Page B R T V} {i : Nat} {q : Query}
    (hq : p.queries[i]? = some q) (answer : Throws (Predictions R T)) :
    LabArrival p (showPredictions host
      { p with queries := p.queries.eraseIdx i } q answer) q.clickedCell
      (¬ ∃ response, answer = .ok response ∧ response.records ≠ []) := by
  have hawaited : p.AwaitsLab q.clickedCell :=
    .inl ⟨q, List.mem_of_getElem? hq, rfl⟩
  have hqueries : ∀ c, c ≠ q.clickedCell →
      ((∃ q' ∈ p.queries.eraseIdx i, q'.clickedCell = c) ↔
        ∃ q' ∈ p.queries, q'.clickedCell = c) :=
    fun c hc => exists_mem_eraseIdx hq (Ne.symm hc)
  cases answer with
  | ok response =>
      obtain ⟨hpanel, hbundles, hleft, hrest⟩ := receive_spec host { p with
        queries := p.queries.eraseIdx i
        cache := (cacheKey q.labCell, response) :: p.cache }
        q.clickedCell q.labCell response
      refine ⟨hawaited, hpanel, hbundles, ?_, ?_, ?_⟩
      · intro c hc
        rw [showPredictions, AwaitsLab, AwaitsLab, hleft, hqueries c hc]
        rcases hrest with ⟨-, hsame, -⟩ | ⟨-, -, v, hv, hlast⟩
        · rw [hsame]
        · rw [hlast]
          have hother : v.clickedCell ≠ c := hv ▸ Ne.symm hc
          simp [or_and_right, exists_or, hother]
      · intro hattached
        rcases hrest with ⟨-, -, hsection⟩ | ⟨hne, -⟩
        · exact hsection
        · exact absurd ⟨response, rfl, hne⟩ hattached
      · intro hverified
        obtain ⟨response', heq, hne⟩ := not_not.mp hverified
        cases heq
        rcases hrest with ⟨hnil, -⟩ | ⟨-, hsection, v, hv, hlast⟩
        · exact absurd hnil hne
        · refine ⟨hsection, .inr ⟨v, ?_, hv⟩⟩
          rw [showPredictions, hlast]
          exact List.mem_append_right _ (List.mem_singleton_self v)
  | error e =>
      refine ⟨hawaited, rfl, rfl, ?_, fun _ => ⟨_, rfl, rfl⟩, ?_⟩
      · exact fun c hc => or_congr (hqueries c hc) Iff.rfl
      · intro hverified
        obtain ⟨response, heq, -⟩ := not_not.mp hverified
        cases heq

theorem verified_arrival {p : Page B R T V} {i : Nat} {v : Verification R T}
    (hv : p.verifications[i]? = some v) (answer : Throws V) :
    LabArrival p (showVerdict
      { p with verifications := p.verifications.eraseIdx i } v answer)
      v.clickedCell True where
  awaited := .inr ⟨v, List.mem_of_getElem? hv, rfl⟩
  panel := rfl
  provenances := rfl
  others := fun _ hc => or_congr Iff.rfl (exists_mem_eraseIdx hv (Ne.symm hc))
  attached := fun _ => ⟨_, rfl, rfl⟩
  verified := fun h => absurd trivial h

/-- **What arrives is a bundle or a lab result**, and when it is fresh. -/
theorem step_arrival {p p' : Page B R T V} {e : Event B R T V}
    (he : ¬ e.IsClick) (hstep : p.step host e = some p') :
    (∃ shown, BundleArrival p p' shown ∧
      ∀ cell, p.Fresh cell e ↔ shown = cell ∨ p.AwaitsBundle cell) ∨
    ∃ shown Attached, LabArrival p p' shown Attached ∧
      ∀ cell, p.Fresh cell e ↔ ¬ Attached ∨ shown = cell ∨
        p.AwaitsBundle cell ∨ p.AwaitsLab cell := by
  cases e with
  | click cell => exact absurd trivial he
  | provenance i answer =>
      obtain ⟨shown, hshown, rfl⟩ := Option.map_eq_some_iff.mp hstep
      refine .inl ⟨shown, provenance_arrival host hshown answer, fun cell => ?_⟩
      simp [Fresh, hshown]
  | predictions i answer =>
      obtain ⟨q, hq, rfl⟩ := Option.map_eq_some_iff.mp hstep
      refine .inr ⟨_, _, predictions_arrival host hq answer, fun cell => ?_⟩
      rw [not_not]
      simp only [Fresh, hq, Option.some.injEq, forall_eq']
  | verified i answer =>
      obtain ⟨v, hv, rfl⟩ := Option.map_eq_some_iff.mp hstep
      refine .inr ⟨_, _, verified_arrival hv answer, fun cell => ?_⟩
      simp [Fresh, hv]

section

variable {p p' : Page B R T V} {e : Event B R T V} {cell : JsString}

theorem arrival_kept (he : ¬ e.IsClick) (h : p.Coming cell)
    (hstep : p.step host e = some p') (hfresh : p.Fresh cell e) :
    p'.Coming cell := by
  rcases step_arrival host he hstep with ⟨_, harrival, hiff⟩ |
    ⟨_, _, harrival, hiff⟩
  · exact harrival.kept ((hiff cell).mp hfresh)
  · exact harrival.kept h ((hiff cell).mp hfresh)

theorem arrival_breaks (he : ¬ e.IsClick) (hstep : p.step host e = some p')
    (hfresh : ¬ p.Fresh cell e) : p'.Lost cell := by
  rcases step_arrival host he hstep with ⟨_, harrival, hiff⟩ |
    ⟨_, _, harrival, hiff⟩
  · rw [hiff, not_or] at hfresh
    exact harrival.lost hfresh.2
  · rw [hiff] at hfresh
    exact harrival.breaks hfresh

theorem arrival_lost (he : ¬ e.IsClick) (h : p.Lost cell)
    (hstep : p.step host e = some p') : p'.Lost cell := by
  rcases step_arrival host he hstep with ⟨_, harrival, -⟩ |
    ⟨_, _, harrival, -⟩
  · exact harrival.lost h.1
  · exact harrival.lost h

end

/-! ## Runs up to the last arrival -/

/-- **Once everything has arrived the panel shows the last clicked cell exactly
when every answer since the click was fresh.** -/
theorem auditPanel_iff {before after : List (Event B R T V)}
    {cell : JsString} {clicked last : Page B R T V}
    (hclick : run (step host) start (before ++ [.click cell]) = some clicked)
    (hafter : ∀ e ∈ after, ¬ e.IsClick)
    (hrun : run (step host) clicked after = some last)
    (hsettled : last.Settled) :
    last.Shows cell ↔
      StepsMeet (step host) (fun p e => p.Fresh cell e) clicked after := by
  have hcoming : clicked.Coming cell := by
    rw [run_concat, Option.bind_eq_some_iff] at hclick
    obtain ⟨p, -, hp⟩ := hclick
    cases hp
    exact .inl ⟨cell, List.mem_append_right _ (List.mem_singleton_self cell),
      rfl⟩
  exact end_iff_stepsMeet (step host) (P := fun p => p.Shows cell)
    (fun _ _ _ he h hstep hfresh => arrival_kept host he h hstep hfresh)
    (fun _ _ _ he _ hstep hfresh => arrival_breaks host he hstep hfresh)
    (fun _ _ _ he h hstep => arrival_lost host he h hstep)
    hcoming hafter hrun (fun h => h.shows hsettled) Lost.not_shows

end Page

end Run

/-! ## Two clicks -/

def romeCell : JsString := js "8b1e8050145bfff"

def milanCell : JsString := js "8b1f9a48d1a3fff"

/-- Without `h3-js`. -/
def plainHost : Host where
  cellToParent := none
  localeCompare := fun _ _ => 0

private theorem newestFirst_singleton (record : LabRecord Unit) :
    plainHost.newestFirst [record] = [record] := List.mergeSort_singleton record

/-- A query that fails. -/
def noPredictions : Throws (Predictions Unit Unit) := .error ⟨js "HTTP 500"⟩

/-- A query that finds one record. -/
def onePrediction : Throws (Predictions Unit Unit) := .ok ⟨[⟨none, ()⟩], ()⟩

/-- The answers to the second click, with the verification of the record. -/
def answersInOrder : List (Event Unit Unit Unit Unit) :=
  [.provenance 0 (.ok ()), .predictions 0 onePrediction, .verified 0 (.ok ())]

/-- The page after them. -/
def verifiedPage : Page Unit Unit Unit Unit where
  panel := .bundle milanCell ()
  labSection := some ⟨milanCell, milanCell,
    .verdict ⟨none, ()⟩ ⟨[⟨none, ()⟩], ()⟩ ()⟩
  provenances := []
  queries := []
  verifications := []
  inflight := some 1
  controllers := 2
  cache := [(cacheKey milanCell, ⟨[⟨none, ()⟩], ()⟩)]

/-- The answers of two clicks in their order. -/
theorem auditPanel_in_order :
    ∃ clicked last : Page Unit Unit Unit Unit,
      run (Page.step plainHost) Page.start
        [.click romeCell, .provenance 0 (.ok ()), .click milanCell] =
          some clicked ∧
      run (Page.step plainHost) clicked answersInOrder = some last ∧
      last.Settled ∧
      (last.Shows milanCell ↔
        StepsMeet (Page.step plainHost) (fun p e => p.Fresh milanCell e) clicked
          answersInOrder) ∧
      last.Shows milanCell := by
  obtain ⟨clicked, hclicked⟩ : ∃ clicked : Page Unit Unit Unit Unit,
      run (Page.step plainHost) Page.start
        [.click romeCell, .provenance 0 (.ok ()), .click milanCell] =
          some clicked := ⟨_, rfl⟩
  have hboth : run (Page.step plainHost) Page.start
      ([.click romeCell, .provenance 0 (.ok ()), .click milanCell]
        ++ answersInOrder) = some verifiedPage := by
    simp [run, answersInOrder, onePrediction, Page.step, Page.start,
      Page.onCellClick, Page.showBundle, Page.onAuditOpen, Page.showPredictions,
      Page.receive, newestFirst_singleton]
    rfl
  have hrun : run (Page.step plainHost) clicked answersInOrder =
      some verifiedPage := by
    rwa [run_append, hclicked] at hboth
  refine ⟨clicked, verifiedPage, hclicked, hrun, ⟨rfl, rfl, rfl⟩, ?_, rfl, _,
    rfl, rfl⟩
  apply @Page.auditPanel_iff Unit Unit Unit Unit plainHost
    [.click romeCell, .provenance 0 (.ok ())] answersInOrder milanCell
  · exact hclicked
  · simp [Event.IsClick, answersInOrder]
  · exact hrun
  · exact ⟨rfl, rfl, rfl⟩

/-- The bundle of the first cell arrives last. -/
def lateBundle : List (Event Unit Unit Unit Unit) :=
  [.click romeCell, .click milanCell, .provenance 1 (.ok ()),
    .predictions 0 noPredictions, .provenance 0 (.ok ()),
    .predictions 0 noPredictions]

/-- The record of the first cell is verified last. -/
def lateVerdict : List (Event Unit Unit Unit Unit) :=
  [.click romeCell, .provenance 0 (.ok ()),
    .predictions 0 (.ok ⟨[⟨none, ()⟩], ()⟩), .click milanCell,
    .provenance 0 (.ok ()), .predictions 0 noPredictions, .verified 0 (.ok ())]

/-- In both runs `milanCell` was clicked last.  The panel shows the other cell,
or the other cell's lab section. -/
theorem not_shows_milanCell :
    (∃ last, run (Page.step plainHost) Page.start lateBundle = some last ∧
      last.Settled ∧ last.panel = .bundle romeCell () ∧
      ¬ last.Shows milanCell) ∧
    (∃ last, run (Page.step plainHost) Page.start lateVerdict = some last ∧
      last.Settled ∧ last.panel = .bundle milanCell () ∧
      last.SectionOf romeCell ∧ ¬ last.Shows milanCell) := by
  have hne : romeCell ≠ milanCell := by decide
  constructor
  · refine ⟨_, rfl, ⟨rfl, rfl, rfl⟩, rfl, ?_⟩
    rintro ⟨hrome, -⟩
    exact hne hrome
  · have hrun : run (Page.step plainHost) Page.start lateVerdict = some {
        panel := .bundle milanCell ()
        labSection := some ⟨romeCell, romeCell,
          .verdict ⟨none, ()⟩ ⟨[⟨none, ()⟩], ()⟩ ()⟩
        provenances := []
        queries := []
        verifications := []
        inflight := some 1
        controllers := 2
        cache := [(cacheKey romeCell, ⟨[⟨none, ()⟩], ()⟩)] } := by
      simp [run, lateVerdict, Page.step, Page.start, Page.onCellClick,
        Page.showBundle, Page.onAuditOpen, Page.showPredictions, Page.receive,
        newestFirst_singleton]
      rfl
    exact ⟨_, hrun, ⟨rfl, rfl, rfl⟩, rfl, ⟨_, rfl, rfl⟩,
      Page.not_shows_of_section rfl hne⟩

end RenderEngine.Ports.AuditPanel
