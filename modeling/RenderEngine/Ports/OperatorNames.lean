import Mathlib.Data.List.TakeWhile
import RenderEngine.Ports.EscapeHtml

/-!
# The operators of the demo (`normalizeOperator`, `demo/app.js`)

The first alias whose expression matches the trimmed operator names it; an
operator that none matches is shown as it is.

## Main results

* `normalizeOperator_plain_iff`: the operators with a plain name.
-/

namespace RenderEngine.Ports.OperatorNames

open RenderEngine.Ports.JavaScript
open RenderEngine.Ports.EscapeHtml

/-! ## Expressions -/

/-- A place in a text: the code unit before it, and the rest. -/
structure Place where
  before : Option CodeUnit
  rest : JsString

/-- A regular expression with the flag `i`. -/
inductive Pattern where
  | literal (s : String)
  /-- `[-‐]` -/
  | hyphen
  /-- `\s*` -/
  | spaces
  /-- `\s` -/
  | space
  /-- `\b` -/
  | boundary
  /-- `$` -/
  | ending
  | optional (p : Pattern)
  | seq (p q : Pattern)
  | alt (p q : Pattern)

def isLetterOf (c : Char) (u : CodeUnit) : Bool :=
  u = unit c ∨ u = unit c.toUpper

def isWordUnit (u : CodeUnit) : Bool :=
  (48 ≤ u.val ∧ u.val ≤ 57) ∨ (65 ≤ u.val ∧ u.val ≤ 90) ∨
    (97 ≤ u.val ∧ u.val ≤ 122) ∨ u.val = 95

def literalRest : List Char → Place → Option Place
  | [], place => some place
  | c :: cs, ⟨_, u :: rest⟩ =>
      if isLetterOf c u then literalRest cs ⟨some u, rest⟩ else none
  | _ :: _, ⟨_, []⟩ => none

def spacesRests (before : Option CodeUnit) : JsString → List Place
  | [] => [⟨before, []⟩]
  | u :: rest =>
      if isWhiteSpace u then
        ⟨before, u :: rest⟩ :: spacesRests (some u) rest
      else [⟨before, u :: rest⟩]

/-- The places a match can end at. -/
def Pattern.rests : Pattern → Place → List Place
  | .literal s, place => (literalRest s.toList place).toList
  | .hyphen, ⟨_, u :: rest⟩ =>
      if u = unit '-' ∨ u = 0x2010 then [⟨some u, rest⟩] else []
  | .hyphen, ⟨_, []⟩ => []
  | .spaces, ⟨before, rest⟩ => spacesRests before rest
  | .space, ⟨_, u :: rest⟩ => if isWhiteSpace u then [⟨some u, rest⟩] else []
  | .space, ⟨_, []⟩ => []
  | .boundary, place =>
      if place.before.any isWordUnit ≠ place.rest.head?.any isWordUnit then [place]
      else []
  | .ending, place => if place.rest = [] then [place] else []
  | .optional p, place => p.rests place ++ [place]
  | .seq p q, place => (p.rests place).flatMap q.rests
  | .alt p q, place => p.rests place ++ q.rests place

/-- `/^…/i.test(s)`. -/
def Pattern.test (p : Pattern) (s : JsString) : Bool :=
  !(p.rests ⟨none, s⟩).isEmpty

/-- `\s+` between two words. -/
def Pattern.words (s t : String) : Pattern :=
  .seq (.literal s) (.seq .space (.seq .spaces (.literal t)))

/-! ## Aliases -/

structure OperatorAlias where
  pattern : Pattern
  canonical : PlainText
  group : PlainText

/-- `OPERATOR_ALIASES`. -/
def operatorAliases : List OperatorAlias := [
  { pattern := .alt (.literal "acea") (.literal "areti")
    canonical := plain "Acea Distribuzione", group := plain "acea" },
  { pattern := .seq
      (.alt (.seq (.literal "e") (.seq (.optional .hyphen)
          (.literal "distribuzione")))
        (.alt (.words "enel" "distribuzione")
          (.alt (.words "enel" "produzione") (.literal "enel"))))
      .boundary
    canonical := plain "Enel Distribuzione", group := plain "enel" },
  { pattern := .seq (.literal "enel") (.seq .spaces .ending)
    canonical := plain "Enel", group := plain "enel" },
  { pattern := .literal "terna"
    canonical := plain "Terna S.p.A.", group := plain "terna" },
  { pattern := .literal "unareti"
    canonical := plain "Unareti S.p.A.", group := plain "unareti" },
  { pattern := .alt (.words "rete" "ferroviaria")
      (.seq (.literal "rfi") .boundary)
    canonical := plain "Rete Ferroviaria Italiana", group := plain "rfi" },
  { pattern := .literal "a2a"
    canonical := plain "A2A", group := plain "a2a" },
  { pattern := .seq (.literal "fs") (.seq .spaces .ending)
    canonical := plain "Ferrovie dello Stato", group := plain "rfi" },
  { pattern := .literal "italgen"
    canonical := plain "Italgen", group := plain "italgen" }]

/-- `trim`. -/
def trim (s : JsString) : JsString :=
  ((s.dropWhile isWhiteSpace).reverse.dropWhile isWhiteSpace).reverse

structure Operator where
  display : JsString
  group : PlainText

/-- A field that is present and not empty. -/
def field (raw : Option JsString) : Option JsString :=
  raw.filter fun s => s ≠ []

/-- `normalizeOperator`. -/
def normalizeOperator (raw : Option JsString) : Operator :=
  match field raw with
  | none =>
      { display := js "Unspecified operator", group := plain "unknown" }
  | some raw =>
      let trimmed := trim raw
      match operatorAliases.find? fun a => a.pattern.test trimmed with
      | some a => { display := a.canonical.val, group := a.group }
      | none => { display := trimmed, group := plain "other" }

/-! ## Plain names -/

theorem field_eq_some {o : Option JsString} {s : JsString} :
    field o = some s ↔ o = some s ∧ s ≠ [] := by
  simp [field, Option.filter_eq_some_iff]

/-- Emptied fields are plain. -/
theorem forall_field_iff {P : JsString → Prop} (hnil : P [])
    (o : Option JsString) :
    (∀ s, field o = some s → P s) ↔ ∀ s, o = some s → P s := by
  simp only [field_eq_some]
  constructor
  · intro h s hs
    by_cases hne : s = []
    · rw [hne]
      exact hnil
    · exact h s ⟨hs, hne⟩
  · exact fun h s hs => h s hs.1

theorem trim_plain_iff (s : JsString) : Plain (trim s) ↔ Plain s := by
  have hspace : ∀ u, u ∈ specials → isWhiteSpace u = false := by
    intro u hu
    have hall : specials.all (fun u => !isWhiteSpace u) = true := by decide
    simpa using List.all_eq_true.mp hall u hu
  have hdrop : ∀ t : JsString, Plain (t.dropWhile isWhiteSpace) ↔ Plain t := by
    intro t
    constructor
    · intro h u hu hspecial
      have hsplit := List.takeWhile_append_dropWhile (p := isWhiteSpace) (l := t)
      rw [← hsplit, List.mem_append] at hu
      rcases hu with hu | hu
      · have hwhite := List.mem_takeWhile_imp hu
        rw [hspace u hspecial] at hwhite
        cases hwhite
      · exact h u hu hspecial
    · exact fun h u hu => h u ((List.dropWhile_sublist _).mem hu)
  have hreverse : ∀ t : JsString, Plain t.reverse ↔ Plain t := by
    intro t
    simp only [Plain, List.mem_reverse]
  rw [trim, hreverse, hdrop, hreverse, hdrop]

theorem normalizeOperator_plain_iff (raw : Option JsString) :
    Plain (normalizeOperator raw).display ↔
      ∀ s, raw = some s →
        (operatorAliases.any fun a => a.pattern.test (trim s)) = true ∨
          Plain s := by
  have hnil : Plain [] := by decide
  rw [← forall_field_iff (.inr hnil)]
  cases hfield : field raw with
  | none =>
      have hdisplay : Plain (normalizeOperator raw).display := by
        rw [normalizeOperator, hfield]
        decide
      exact iff_of_true hdisplay (fun _ h => nomatch h)
  | some s =>
      simp only [normalizeOperator, hfield, Option.some.injEq, forall_eq']
      cases hfind : operatorAliases.find? fun a => a.pattern.test (trim s) with
      | some a =>
          have hany : (operatorAliases.any fun a =>
              a.pattern.test (trim s)) = true :=
            List.any_eq_true.mpr ⟨a, List.mem_of_find?_eq_some hfind, by
              simpa using List.find?_some hfind⟩
          exact iff_of_true a.canonical.property (.inl hany)
      | none =>
          have hnone : ¬ (operatorAliases.any fun a =>
              a.pattern.test (trim s)) = true := by
            rw [List.any_eq_true]
            rintro ⟨a, ha, htest⟩
            exact List.find?_eq_none.mp hfind a ha htest
          rw [or_iff_right hnone]
          exact trim_plain_iff s

end RenderEngine.Ports.OperatorNames
