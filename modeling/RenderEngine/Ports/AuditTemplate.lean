import RenderEngine.Ports.OperatorNames

/-!
# The template of the audit panel (`renderAuditPanel`, `demo/app.js`)

The panel is one template, here a list of pieces: markup, texts of the program
and of the server, and texts of the payload, which are escaped or inserted as
they are.  The numbers of a bundle are safe integers, its digests hexadecimal.

## Main results

* `rawTexts_plain_iff`: the payloads whose texts that are not escaped are plain.
-/

namespace RenderEngine.Ports.AuditTemplate

open RenderEngine.Ports.JavaScript
open RenderEngine.Ports.EscapeHtml
open RenderEngine.Ports.OperatorNames

/-! ## The bundle -/

/-- The texts of a payload. -/
structure PayloadTexts where
  operator : Option JsString
  name : Option JsString
  ref : Option JsString
  substationType : Option JsString
  osmId : Option JsString
  measurement : Option JsString

/-- What the panel reads of a bundle, but for the texts of its payload. -/
structure Bundle (F : Type) where
  h3Cell : HexText
  epochId : Nat
  identityPk : HexText
  contentHash : HexText
  signature : HexText
  merkleRoot : HexText
  parentRoot : Option HexText
  cellCount : Nat
  leafIndex : Nat
  merkleProof : List HexText
  value : Option F
  voltage : Option JsString

/-- Finite doubles, and the texts they have. -/
structure Doubles (F : Type) where
  zero : F
  max : F → F → F
  /-- `Math.round(x / 1000)` -/
  roundKilo : F → F
  /-- `parseInt(s, 10)`, where it is finite -/
  parseInt : JsString → Option F
  text : F → PlainText
  /-- `x.toFixed(4)` -/
  toFixed : F → PlainText

section Panel

variable {F : Type} (doubles : Doubles F)

/-- `voltageToKv`. -/
def voltageToKv (raw : Option JsString) : Option F :=
  match field raw with
  | none => none
  | some raw =>
      match (raw.splitOn (unit ';')).filterMap fun s =>
          doubles.parseInt (trim s) with
      | [] => none
      | x :: xs => some (doubles.roundKilo (xs.foldl doubles.max x))

/-- `EPOCH_DATES`. -/
def epochDates : List PlainText := [
  plain "Apr 1, 06:00", plain "Apr 1, 18:00", plain "Apr 2, 06:00",
  plain "Apr 2, 18:00", plain "Apr 3, 06:00", plain "Apr 3, 18:00",
  plain "Apr 4, 06:00", plain "Apr 4, 18:00", plain "Apr 5, 06:00",
  plain "Apr 5, 18:00"]

/-- `type` and `id` of an OpenStreetMap id. -/
def osmParts (osmId : JsString) : JsString × JsString :=
  let parts := osmId.splitOn (unit '/')
  (parts.head?.getD (js "undefined"), parts[1]?.getD (js "undefined"))

/-! ## The template -/

/-- A piece of the template. -/
inductive AuditPiece where
  | markup (s : String)
  /-- A text of the program or of the server. -/
  | own (s : PlainText)
  /-- A text of the payload through `escapeHtml`. -/
  | escaped (s : JsString)
  /-- A text of the payload as it is. -/
  | raw (s : JsString)

/-- `<div class="audit-row">…</div>`. -/
def auditRow (label valueClass : String) (value : List AuditPiece) :
    List AuditPiece :=
  [.markup "<div class=\"audit-row\"><span class=\"audit-label\">",
    .markup label, .markup "</span><span class=\"", .markup valueClass,
    .markup "\">"] ++ value ++ [.markup "</span></div>"]

/-- The row of the operator, whose group is in a class. -/
def operatorRow (op : Operator) : List AuditPiece := [
  .markup "<div class=\"audit-row\"><span class=\"audit-label\">",
  .markup "operator", .markup "</span><span class=\"audit-val normal op-",
  .own op.group, .markup "\">", .raw op.display, .markup "</span></div>"]

def escapedRow (label : String) (s : JsString) : List AuditPiece :=
  auditRow label "audit-val normal" [.escaped s]

def voltageRow (kv : PlainText) : List AuditPiece :=
  auditRow "voltage" "audit-val normal" [.own kv, .markup " kV"]

def osmRow (osmId : JsString) : List AuditPiece :=
  auditRow "osm id" "audit-val normal" [
    .markup "<a class=\"osm-link\" href=\"https://www.openstreetmap.org/",
    .raw (osmParts osmId).1, .markup "/", .raw (osmParts osmId).2,
    .markup "\" target=\"_blank\" rel=\"noopener\">", .raw osmId,
    .markup " ↗</a>"]

/-- A row for a field that is present and not empty. -/
def rowOf {α : Type} (row : α → List AuditPiece) (x : Option α) :
    List AuditPiece :=
  (x.map row).getD []

/-- `assetRows.join("")`. -/
def assetRows (voltage : Option JsString) (texts : PayloadTexts) :
    List AuditPiece :=
  operatorRow (normalizeOperator texts.operator) ++
    rowOf (escapedRow "name") (field texts.name) ++
    rowOf (escapedRow "ref") (field texts.ref) ++
    rowOf voltageRow ((voltageToKv doubles voltage).map doubles.text) ++
    rowOf (escapedRow "type") (field texts.substationType) ++
    rowOf osmRow (field texts.osmId)

def headPieces (h3Cell : PlainText) : List AuditPiece := [
  .markup "\n        <h2>audit bundle <span class=\"h3hex\">", .own h3Cell,
  .markup "</span></h2>\n\n        <div class=\"audit-section\">",
  .markup "\n            "]

def indent : AuditPiece := .markup "\n            "

def rulePieces : List AuditPiece := [
  .markup "\n        </div>\n\n        <hr class=\"hrule\">",
  .markup "\n\n        <div class=\"audit-section\">\n            "]

/-- The measurement, of which the name is a text of the payload. -/
def measurementRows (epochId date load : PlainText) (measurement : JsString) :
    List AuditPiece :=
  [indent] ++
    auditRow "epoch" "audit-val normal" [.own epochId, .markup " · ", .own date] ++
    [indent] ++
    auditRow "measurement" "audit-val normal"
      [.raw measurement, .markup " = ", .own load]

def digestRows (writer hash sig : PlainText) : List AuditPiece :=
  auditRow "writer pk" "audit-val" [.own writer] ++ [indent] ++
    auditRow "content hash" "audit-val" [.own hash] ++ [indent] ++
    auditRow "signature" "audit-val" [.own sig]

def proofRows (leaf count depth root parent : PlainText) : List AuditPiece :=
  auditRow "leaf index" "audit-val normal"
      [.own leaf, .markup " of ", .own count] ++ [indent] ++
    auditRow "proof depth" "audit-val normal"
      [.own depth, .markup " hashes · blake3"] ++ [indent] ++
    auditRow "epoch root" "audit-val" [.own root] ++ [indent] ++
    auditRow "parent root" "audit-val" [.own parent]

def previewPieces : List AuditPiece := [
  .markup "<div style=\"font-size: 10px; color: #8a95a2; ",
  .markup "margin-bottom: 4px;\">merkle proof preview</div>\n            ",
  .markup "<div class=\"proof-list\">"]

def hashPieces (i : PlainText) (h : PlainText) : List AuditPiece := [
  .markup "<div><span class=\"idx\">", .own i, .markup "</span>", .own h,
  .markup "</div>"]

def buttonPieces : List AuditPiece := [
  .markup "</div>\n        </div>\n\n        <div class=\"verify-row\">",
  .markup "\n            <button class=\"verify-btn\" id=\"verify-btn\">",
  .markup "verify offline</button>\n            <div class=\"verify-result\" ",
  .markup "id=\"verify-result\"></div>\n        </div>\n        ",
  .markup "<div class=\"verify-sub\" id=\"verify-sub\"></div>\n    "]

/-- `parentShort`. -/
def parentShort (parentRoot : Option HexText) : PlainText :=
  match parentRoot with
  | none => plain "genesis"
  | some root => if root.val = [] then plain "genesis" else root.short 16

/-- The template of `renderAuditPanel`, piece by piece. -/
def auditPieces (b : Bundle F) (texts : PayloadTexts) : List AuditPiece :=
  headPieces b.h3Cell.text ++ assetRows doubles b.voltage texts ++
    (measurementRows (natText b.epochId)
        (epochDates[b.epochId]?.getD (plain ""))
        (doubles.toFixed (b.value.getD doubles.zero))
        ((field texts.measurement).getD (js "grid_load_pu")) ++
      rulePieces ++
      digestRows (b.identityPk.short 16) (b.contentHash.short 16)
        (b.signature.short 16) ++
      rulePieces ++
      proofRows (natText b.leafIndex) (natText b.cellCount)
        (natText b.merkleProof.length) (b.merkleRoot.short 16)
        (parentShort b.parentRoot) ++
      rulePieces ++
      previewPieces) ++
    (b.merkleProof.mapIdx fun i h =>
      hashPieces (natText i) (h.short 32)).flatten ++
    buttonPieces

def AuditPiece.html : AuditPiece → JsString
  | .markup s => js s
  | .own s => s.val
  | .escaped s => escapeHtml s
  | .raw s => s

/-- The piece with every text of the payload in escaped form. -/
def AuditPiece.escapedHtml : AuditPiece → JsString
  | .raw s => escapeHtml s
  | piece => piece.html

/-- `renderAuditPanel`. -/
def renderAuditPanel (b : Bundle F) (texts : PayloadTexts) : JsString :=
  (auditPieces doubles b texts).flatMap AuditPiece.html

/-! ## The texts that are inserted as they are -/

def AuditPiece.rawText : AuditPiece → Option JsString
  | .raw s => some s
  | _ => none

def rawTexts (pieces : List AuditPiece) : List JsString :=
  pieces.filterMap AuditPiece.rawText

theorem rawTexts_append (pieces pieces' : List AuditPiece) :
    rawTexts (pieces ++ pieces') = rawTexts pieces ++ rawTexts pieces' :=
  List.filterMap_append

theorem rawTexts_rowOf {α : Type} {row : α → List AuditPiece}
    (h : ∀ x, rawTexts (row x) = []) (x : Option α) :
    rawTexts (rowOf row x) = [] := by
  cases x with
  | none => rfl
  | some x => exact h x

theorem rawTexts_assetRows (voltage : Option JsString)
    (texts : PayloadTexts) :
    rawTexts (assetRows doubles voltage texts) =
      (normalizeOperator texts.operator).display ::
        rawTexts (rowOf osmRow (field texts.osmId)) := by
  simp only [assetRows, rawTexts_append,
    rawTexts_rowOf (fun _ => rfl : ∀ s, rawTexts (escapedRow "name" s) = []),
    rawTexts_rowOf (fun _ => rfl : ∀ s, rawTexts (escapedRow "ref" s) = []),
    rawTexts_rowOf (fun _ => rfl : ∀ s, rawTexts (escapedRow "type" s) = []),
    rawTexts_rowOf (fun _ => rfl : ∀ kv, rawTexts (voltageRow kv) = [])]
  rfl

theorem rawTexts_auditPieces (b : Bundle F) (texts : PayloadTexts) :
    rawTexts (auditPieces doubles b texts) =
      rawTexts (assetRows doubles b.voltage texts) ++
        [(field texts.measurement).getD (js "grid_load_pu")] := by
  have hhashes : rawTexts ((b.merkleProof.mapIdx fun i h =>
      hashPieces (natText i) (h.short 32)).flatten) = [] := by
    rw [rawTexts, List.filterMap_flatten, List.flatten_eq_nil_iff]
    intro l hl
    obtain ⟨pieces, hpieces, rfl⟩ := List.mem_map.mp hl
    obtain ⟨i, hi, rfl⟩ := List.mem_mapIdx.mp hpieces
    rfl
  simp only [auditPieces, rawTexts_append, hhashes]
  simp only [headPieces, measurementRows, rulePieces, digestRows, proofRows,
    previewPieces, buttonPieces, auditRow, indent, rawTexts,
    List.filterMap_append, List.filterMap_cons, List.filterMap_nil,
    AuditPiece.rawText, List.nil_append, List.append_nil]

/-- The parts of a text have only code units of it. -/
theorem mem_of_mem_splitOnP {p : CodeUnit → Bool} {s part : JsString}
    (hpart : part ∈ s.splitOnP p) {u : CodeUnit} (hu : u ∈ part) : u ∈ s := by
  induction s generalizing part with
  | nil =>
      rw [List.splitOnP_nil, List.mem_singleton] at hpart
      rwa [hpart] at hu
  | cons v s ih =>
      rw [List.splitOnP_cons_eq_if_modifyHead] at hpart
      split at hpart
      · rcases List.mem_cons.mp hpart with rfl | hrest
        · cases hu
        · exact List.mem_cons_of_mem v (ih hrest hu)
      · cases hparts : s.splitOnP p with
        | nil => exact absurd hparts (List.splitOnP_ne_nil p s)
        | cons first rest =>
            rw [hparts, List.modifyHead_cons, List.mem_cons] at hpart
            rcases hpart with rfl | hrest
            · rcases List.mem_cons.mp hu with rfl | hfirst
              · exact List.mem_cons_self
              · refine List.mem_cons_of_mem v (ih ?_ hfirst)
                rw [hparts]
                exact List.mem_cons_self
            · refine List.mem_cons_of_mem v (ih ?_ hu)
              rw [hparts]
              exact List.mem_cons_of_mem first hrest

theorem osmParts_plain {s : JsString} (h : Plain s) :
    Plain (osmParts s).1 ∧ Plain (osmParts s).2 := by
  have hpart : ∀ part, (∀ p, part = some p → p ∈ s.splitOn (unit '/')) →
      Plain (part.getD (js "undefined")) := by
    intro part hmem
    cases part with
    | none => decide
    | some p => exact fun u hu => h u (mem_of_mem_splitOnP (hmem p rfl) hu)
  exact ⟨hpart _ fun p hp => List.mem_of_mem_head? hp,
    hpart _ fun p hp => List.mem_of_getElem? hp⟩

/-- An alias matches the operator, or it is plain; the OpenStreetMap id and the
measurement are plain. -/
structure PlainTexts (texts : PayloadTexts) : Prop where
  operator : ∀ s, texts.operator = some s →
    (operatorAliases.any fun a => a.pattern.test (trim s)) = true ∨ Plain s
  osmId : ∀ s, texts.osmId = some s → Plain s
  measurement : ∀ s, texts.measurement = some s → Plain s

theorem rawTexts_plain_iff (b : Bundle F) (texts : PayloadTexts) :
    (∀ s ∈ rawTexts (auditPieces doubles b texts), Plain s) ↔
      PlainTexts texts := by
  have hnil : Plain [] := by decide
  have hosm : (∀ s ∈ rawTexts (rowOf osmRow (field texts.osmId)), Plain s) ↔
      ∀ s, texts.osmId = some s → Plain s := by
    rw [← forall_field_iff hnil]
    cases field texts.osmId with
    | none => exact iff_of_true (fun _ h => nomatch h) (fun _ h => nomatch h)
    | some osmId =>
        show (∀ s ∈ [(osmParts osmId).1, (osmParts osmId).2, osmId], Plain s) ↔ _
        simp only [List.forall_mem_cons, Option.some.injEq, forall_eq']
        constructor
        · exact fun h => h.2.2.1
        · exact fun h => ⟨(osmParts_plain h).1, (osmParts_plain h).2, h,
            fun _ hs => nomatch hs⟩
  have hmeasurement : Plain ((field texts.measurement).getD
      (js "grid_load_pu")) ↔ ∀ s, texts.measurement = some s → Plain s := by
    rw [← forall_field_iff hnil]
    cases field texts.measurement with
    | none => exact iff_of_true (by decide) (fun _ h => nomatch h)
    | some s => simp
  rw [rawTexts_auditPieces, rawTexts_assetRows, List.forall_mem_append,
    List.forall_mem_cons, List.forall_mem_singleton, hosm, hmeasurement,
    normalizeOperator_plain_iff]
  constructor
  · exact fun h => ⟨h.1.1, h.1.2, h.2⟩
  · exact fun h => ⟨⟨h.operator, h.osmId⟩, h.measurement⟩

end Panel

end RenderEngine.Ports.AuditTemplate
