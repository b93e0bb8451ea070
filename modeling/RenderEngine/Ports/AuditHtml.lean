import RenderEngine.Ports.AuditTemplate
import RenderEngine.Verified.HtmlTokens

/-!
# The HTML of the audit panel

Of the texts of the payload the template escapes the name, the reference and the
type of a substation; the operator that no alias matches, the OpenStreetMap id
and the measurement are inserted as they are.

## Main results

* `escapedOnly_iff`: a panel has the texts of the payload in escaped form only
  if the three are plain.
* `renderAuditPanel_contained_iff`: the pairs of payloads that make panels of the
  same tags with such texts.
-/

namespace RenderEngine.Ports.AuditHtml

open RenderEngine.Ports.JavaScript
open RenderEngine.Ports.EscapeHtml
open RenderEngine.Ports.OperatorNames
open RenderEngine.Ports.AuditTemplate
open RenderEngine.Verified.HtmlTokens

section Panel

variable {F : Type} (doubles : Doubles F)

/-- The tags of an HTML string with the names of their attributes. -/
def tagsOf (html : JsString) : List Tag := tags (html.map Fin.val)

/-- The texts of the payload appear in escaped form only. -/
def EscapedOnly (b : Bundle F) (texts : PayloadTexts) : Prop :=
  renderAuditPanel doubles b texts =
    (auditPieces doubles b texts).flatMap AuditPiece.escapedHtml

/-- Two payloads make the same tags, and appear in escaped form only. -/
def Contained (b : Bundle F) (texts texts' : PayloadTexts) : Prop :=
  tagsOf (renderAuditPanel doubles b texts) =
      tagsOf (renderAuditPanel doubles b texts') ∧
    EscapedOnly doubles b texts ∧ EscapedOnly doubles b texts'

/-- The same rows are shown. -/
structure SameRows (texts texts' : PayloadTexts) : Prop where
  name : (field texts.name).isSome = (field texts'.name).isSome
  ref : (field texts.ref).isSome = (field texts'.ref).isSome
  substationType :
    (field texts.substationType).isSome = (field texts'.substationType).isSome
  osmId : (field texts.osmId).isSome = (field texts'.osmId).isSome

/-- **The texts of a payload appear in escaped form only if those that are not
escaped are plain.** -/
theorem escapedOnly_iff (b : Bundle F) (texts : PayloadTexts) :
    EscapedOnly doubles b texts ↔ PlainTexts texts := by
  have hlen : ∀ piece ∈ auditPieces doubles b texts,
      piece.html.length ≤ piece.escapedHtml.length := by
    intro piece _
    cases piece with
    | raw s => exact length_le_escapeHtml s
    | _ => exact Nat.le_refl _
  rw [← rawTexts_plain_iff doubles b, EscapedOnly, renderAuditPanel,
    flatMap_eq_iff hlen]
  constructor
  · intro h s hs
    obtain ⟨piece, hpiece, hraw⟩ := List.mem_filterMap.mp hs
    have heq := h piece hpiece
    cases piece with
    | raw t =>
        cases hraw
        exact (escapeHtml_eq_self_iff s).mp heq.symm
    | _ => cases hraw
  · intro h piece hpiece
    cases piece with
    | raw s =>
        have hs := h s (List.mem_filterMap.mpr ⟨_, hpiece, rfl⟩)
        exact ((escapeHtml_eq_self_iff s).mpr hs).symm
    | _ => rfl

/-! ## The frame of the template -/

/-- A piece of the template as markup or text. -/
def pieceOf : AuditPiece → Piece
  | .markup s => .markup ((js s).map Fin.val)
  | piece => .text (piece.html.map Fin.val)

def frames (pieces : List AuditPiece) : List (Option (List Nat)) :=
  pieces.map fun piece => (pieceOf piece).frame

theorem frames_append (pieces pieces' : List AuditPiece) :
    frames (pieces ++ pieces') = frames pieces ++ frames pieces' :=
  List.map_append

/-- The frame of a row does not depend on its texts. -/
def SameFrame {α : Type} (row : α → List AuditPiece) : Prop :=
  ∀ x y, frames (row x) = frames (row y)

theorem SameFrame.frames_rowOf {α : Type} {row : α → List AuditPiece}
    (h : SameFrame row) {x y : Option α} (hxy : x.isSome = y.isSome) :
    frames (rowOf row x) = frames (rowOf row y) := by
  cases x <;> cases y
  · rfl
  · cases hxy
  · cases hxy
  · exact h _ _

theorem sameFrame_escapedRow (label : String) :
    SameFrame (escapedRow label) := fun _ _ => rfl

theorem sameFrame_osmRow : SameFrame osmRow := fun _ _ => rfl

/-- The frame of a panel depends on the rows that are shown. -/
theorem frames_auditPieces (b : Bundle F) {texts texts' : PayloadTexts}
    (h : SameRows texts texts') :
    frames (auditPieces doubles b texts) =
      frames (auditPieces doubles b texts') := by
  have hassets : frames (assetRows doubles b.voltage texts) =
      frames (assetRows doubles b.voltage texts') := by
    simp only [assetRows, frames_append,
      (sameFrame_escapedRow "name").frames_rowOf h.name,
      (sameFrame_escapedRow "ref").frames_rowOf h.ref,
      (sameFrame_escapedRow "type").frames_rowOf h.substationType,
      sameFrame_osmRow.frames_rowOf h.osmId]
    rfl
  simp only [auditPieces, frames_append, hassets]
  rfl

/-- The characters of a literal, without decoding it. -/
theorem frame_markup (cs : List Char) :
    (pieceOf (.markup (String.ofList cs))).frame =
      some ((cs.flatMap utf16).map Fin.val) := by
  show some ((js (String.ofList cs)).map Fin.val) = _
  rw [js, String.toList_ofList]

theorem frame_own (s : PlainText) :
    (pieceOf (.own s)).frame = none := rfl

theorem frame_escaped (s : JsString) :
    (pieceOf (.escaped s)).frame = none := rfl

theorem frame_raw (s : JsString) :
    (pieceOf (.raw s)).frame = none := rfl

theorem balanced_headPieces (h3Cell : PlainText) :
    Balanced (frames (headPieces h3Cell)) := by
  simp only [frames, headPieces, List.map_cons, List.map_nil, frame_own]
  repeat rw [frame_markup]
  decide +kernel

theorem balanced_operatorRow (op : Operator) :
    Balanced (frames (operatorRow op)) := by
  simp only [frames, operatorRow, List.map_cons, List.map_nil, frame_own,
    frame_raw]
  repeat rw [frame_markup]
  decide +kernel

theorem balanced_voltageRow (kv : PlainText) :
    Balanced (frames (voltageRow kv)) := by
  simp only [frames, voltageRow, auditRow, List.cons_append, List.nil_append,
    List.map_cons, List.map_nil, frame_own]
  repeat rw [frame_markup]
  decide +kernel

theorem balanced_osmRow (osmId : JsString) :
    Balanced (frames (osmRow osmId)) := by
  simp only [frames, osmRow, auditRow, List.cons_append, List.nil_append,
    List.map_cons, List.map_nil, frame_raw]
  repeat rw [frame_markup]
  decide +kernel

theorem balanced_hashPieces (i h : PlainText) :
    Balanced (frames (hashPieces i h)) := by
  simp only [frames, hashPieces, List.map_cons, List.map_nil, frame_own]
  repeat rw [frame_markup]
  decide +kernel

theorem balanced_buttonPieces : Balanced (frames buttonPieces) := by
  simp only [frames, buttonPieces, List.map_cons, List.map_nil]
  repeat rw [frame_markup]
  decide +kernel

theorem balanced_escapedRow {label : String}
    (hlabel : label ∈ ["name", "ref", "type"]) (s : JsString) :
    Balanced (frames (escapedRow label s)) := by
  simp only [List.mem_cons, List.not_mem_nil, or_false] at hlabel
  rcases hlabel with rfl | rfl | rfl
  all_goals
    simp only [frames, escapedRow, auditRow, List.cons_append,
      List.nil_append, List.map_cons, List.map_nil, frame_escaped]
    repeat rw [frame_markup]
    decide +kernel

/-- The rows between the assets and the hashes of the proof. -/
theorem balanced_sections (epochId date load : PlainText)
    (measurement : JsString) (writer hash sig : PlainText)
    (leaf count depth root parent : PlainText) :
    Balanced (frames (measurementRows epochId date load measurement ++
      rulePieces ++ digestRows writer hash sig ++ rulePieces ++
      proofRows leaf count depth root parent ++ rulePieces ++
      previewPieces)) := by
  simp only [frames, measurementRows, rulePieces, digestRows, proofRows,
    previewPieces, indent, auditRow, List.cons_append, List.nil_append,
    List.map_cons, List.map_nil, frame_own, frame_raw]
  repeat rw [frame_markup]
  decide +kernel

theorem balanced_rowOf {α : Type} {row : α → List AuditPiece}
    (h : ∀ x, Balanced (frames (row x))) (x : Option α) :
    Balanced (frames (rowOf row x)) := by
  cases x with
  | none => exact balanced_nil
  | some x => exact h x

theorem balanced_assetRows (voltage : Option JsString)
    (texts : PayloadTexts) :
    Balanced (frames (assetRows doubles voltage texts)) := by
  have hrows : ∀ label ∈ ["name", "ref", "type"], ∀ x,
      Balanced (frames (rowOf (escapedRow label) x)) :=
    fun _ hlabel => balanced_rowOf (balanced_escapedRow hlabel)
  simp only [assetRows, frames_append]
  exact (((((balanced_operatorRow _).append
    (hrows "name" (by simp) _)).append
    (hrows "ref" (by simp) _)).append
    (balanced_rowOf balanced_voltageRow _)).append
    (hrows "type" (by simp) _)).append
    (balanced_rowOf balanced_osmRow _)

/-- Every text of the panel is between tags or in a quoted value. -/
theorem balanced_auditPieces (b : Bundle F) (texts : PayloadTexts) :
    Balanced (frames (auditPieces doubles b texts)) := by
  have hhashes : Balanced (frames (b.merkleProof.mapIdx fun i h =>
      hashPieces (natText i) (h.short 32)).flatten) := by
    rw [frames, List.map_flatten]
    apply balanced_flatten
    intro frame hframe
    obtain ⟨pieces, hpieces, rfl⟩ := List.mem_map.mp hframe
    obtain ⟨i, hi, rfl⟩ := List.mem_mapIdx.mp hpieces
    exact balanced_hashPieces _ _
  rw [auditPieces, frames_append, frames_append, frames_append, frames_append]
  exact ((((balanced_headPieces _).append
    (balanced_assetRows doubles b.voltage texts)).append
    (balanced_sections _ _ _ _ _ _ _ _ _ _ _ _)).append
    hhashes).append
    balanced_buttonPieces

theorem tagsOf_renderAuditPanel (b : Bundle F) (texts : PayloadTexts) :
    tagsOf (renderAuditPanel doubles b texts) =
      tags (((auditPieces doubles b texts).map pieceOf).flatMap
        Piece.chars) := by
  have hchars : ∀ piece : AuditPiece,
      (pieceOf piece).chars = piece.html.map Fin.val := by
    intro piece
    cases piece <;> rfl
  rw [tagsOf, renderAuditPanel, List.map_flatMap, List.flatMap_map]
  simp only [hchars]

theorem inert_of_harmless {s : JsString} (h : Harmless s) :
    Inert (s.map Fin.val) := by
  have hmem : ∀ v : CodeUnit, v ∉ s → v.val ∉ s.map Fin.val := by
    intro v hv hmem
    obtain ⟨u, hu, heq⟩ := List.mem_map.mp hmem
    exact hv (Fin.ext heq ▸ hu)
  exact ⟨hmem _ h.1, hmem _ h.2⟩

/-- With plain texts nothing is inserted that is seen. -/
theorem inert_auditPieces (b : Bundle F) {texts : PayloadTexts}
    (h : PlainTexts texts) :
    ∀ s, .text s ∈ (auditPieces doubles b texts).map pieceOf →
      Inert s := by
  intro s hs
  obtain ⟨piece, hpiece, heq⟩ := List.mem_map.mp hs
  cases piece with
  | markup t => cases heq
  | own t =>
      cases heq
      exact inert_of_harmless t.property.harmless
  | escaped t =>
      cases heq
      exact inert_of_harmless (escapeHtml_harmless t)
  | raw t =>
      cases heq
      have hplain := (rawTexts_plain_iff doubles b texts).mpr h t
        (List.mem_filterMap.mpr ⟨_, hpiece, rfl⟩)
      exact inert_of_harmless hplain.harmless

/-- **Two payloads with the same rows make the same tags and appear in escaped
form only, exactly if the texts that are not escaped are plain in both.** -/
theorem renderAuditPanel_contained_iff (b : Bundle F)
    {texts texts' : PayloadTexts} (hrows : SameRows texts texts') :
    Contained doubles b texts texts' ↔
      PlainTexts texts ∧ PlainTexts texts' := by
  rw [Contained, escapedOnly_iff, escapedOnly_iff]
  refine ⟨fun h => h.2, fun h => ⟨?_, h⟩⟩
  have hframe := frames_auditPieces doubles b hrows
  have hbalanced := balanced_auditPieces doubles b texts
  simp only [frames, ← Function.comp_def, ← List.map_map] at hframe hbalanced
  rw [tagsOf_renderAuditPanel, tagsOf_renderAuditPanel]
  exact tags_eq_of_frame hframe hbalanced (inert_auditPieces doubles b h.1)
    (inert_auditPieces doubles b h.2)

end Panel

/-! ## Two payloads -/

/-- Natural numbers for doubles. -/
def naturals : Doubles Nat where
  zero := 0
  max := max
  roundKilo := fun x => (x + 500) / 1000
  parseInt := fun s => (hexPrefix s).filter fun x => x < 10
  text := natText
  toFixed := fun x => (natText x).append (plain ".0000")

def romeBundle : Bundle Nat where
  h3Cell := ⟨js "8b1e8050145bfff", List.all_eq_true.mp (by decide)⟩
  epochId := 3
  identityPk := ⟨js "ab", List.all_eq_true.mp (by decide)⟩
  contentHash := ⟨js "cd", List.all_eq_true.mp (by decide)⟩
  signature := ⟨js "ef", List.all_eq_true.mp (by decide)⟩
  merkleRoot := ⟨js "01", List.all_eq_true.mp (by decide)⟩
  parentRoot := none
  cellCount := 2
  leafIndex := 1
  merkleProof := [⟨js "23", List.all_eq_true.mp (by decide)⟩]
  value := some 1
  voltage := none

def romeTexts : PayloadTexts where
  operator := some (js "Acea")
  name := some (js "A < B")
  ref := some (js "1")
  substationType := some (js "main")
  osmId := some (js "node/1")
  measurement := some (js "load")

/-- Any name is escaped. -/
theorem contained_name : Contained naturals romeBundle romeTexts
    { romeTexts with name := some (js "<b>") } := by
  have hplain : PlainTexts romeTexts := by
    constructor
    · rintro s ⟨⟩
      exact .inr (by decide)
    · rintro s ⟨⟩
      decide
    · rintro s ⟨⟩
      decide
  have hrows : SameRows romeTexts { romeTexts with name := some (js "<b>") } :=
    ⟨by decide, rfl, rfl, rfl⟩
  exact (renderAuditPanel_contained_iff naturals romeBundle hrows).mpr
    ⟨hplain, hplain.operator, hplain.osmId, hplain.measurement⟩

/-- An operator becomes an element of the panel, and so it is with an
OpenStreetMap id and an attribute. -/
theorem not_contained_operator :
    tagsOf (renderAuditPanel naturals romeBundle romeTexts) ≠
      tagsOf (renderAuditPanel naturals romeBundle
        { romeTexts with operator := some (js "<img src=x>") }) ∧
    tagsOf (renderAuditPanel naturals romeBundle romeTexts) ≠
      tagsOf (renderAuditPanel naturals romeBundle
        { romeTexts with osmId := some (js "a/1\" b=\"") }) ∧
    ¬ Contained naturals romeBundle romeTexts
      { romeTexts with operator := some (js "<img src=x>") } := by
  have hoperator : tagsOf (renderAuditPanel naturals romeBundle romeTexts) ≠
      tagsOf (renderAuditPanel naturals romeBundle
        { romeTexts with operator := some (js "<img src=x>") }) := by
    decide +kernel
  exact ⟨hoperator, by decide +kernel, fun h => hoperator h.1⟩

end RenderEngine.Ports.AuditHtml
