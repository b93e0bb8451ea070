import Mathlib.Algebra.Order.BigOperators.Group.List
import RenderEngine.Ports.JavaScript

/-!
# `escapeHtml` (`demo/app.js`)

Four characters are written as entities.  A text without them is plain: it is
its own escaped form.  What the program and the server insert into HTML is typed
as plain, by its spelling in the source or as digits.

## Main results

* `escapeHtml_eq`: the four replacements are one pass.
* `escapeHtml_eq_self_iff`: the texts that are their own escaped form.
* `escapeHtml_harmless`: no `<` and no `"` is left.
-/

namespace RenderEngine.Ports.EscapeHtml

open RenderEngine.Ports.CoreTypes
open RenderEngine.Ports.JavaScript

/-! ## Escaping -/

/-- `&`, `<`, `>` and `"`. -/
def specials : JsString := js "&<>\""

/-- A text that is its own escaped form. -/
def Plain (s : JsString) : Prop := ∀ u ∈ s, u ∉ specials

instance (s : JsString) : Decidable (Plain s) := List.decidableBAll _ s

/-- `replace` of every occurrence of a code unit. -/
def replaceAll (c : Char) (entity : String) (s : JsString) : JsString :=
  s.flatMap fun u => if u = unit c then js entity else [u]

/-- `escapeHtml`. -/
def escapeHtml (s : JsString) : JsString :=
  replaceAll '"' "&quot;" <| replaceAll '>' "&gt;" <|
    replaceAll '<' "&lt;" <| replaceAll '&' "&amp;" s

/-- What `escapeHtml` writes for one code unit. -/
def entity (u : CodeUnit) : JsString :=
  if u = unit '&' then js "&amp;"
  else if u = unit '<' then js "&lt;"
  else if u = unit '>' then js "&gt;"
  else if u = unit '"' then js "&quot;"
  else [u]

theorem entity_of_not_mem {u : CodeUnit} (h : u ∉ specials) :
    entity u = [u] := by
  have hne : ∀ c : Char, unit c ∈ specials → u ≠ unit c := by
    rintro c hc rfl
    exact h hc
  rw [entity, if_neg (hne '&' (by decide)), if_neg (hne '<' (by decide)),
    if_neg (hne '>' (by decide)), if_neg (hne '"' (by decide))]

private theorem entity_of_mem {u : CodeUnit} (hu : u ∈ specials) :
    2 ≤ (entity u).length ∧ unit '<' ∉ entity u ∧ unit '"' ∉ entity u ∧
      escapeHtml [u] = entity u := by
  have hall : specials.all (fun u => decide (2 ≤ (entity u).length ∧
      unit '<' ∉ entity u ∧ unit '"' ∉ entity u ∧
      escapeHtml [u] = entity u)) = true := by
    decide
  exact of_decide_eq_true (List.all_eq_true.mp hall u hu)

/-- The replacements are one pass: only the first one writes an `&`. -/
theorem escapeHtml_eq (s : JsString) : escapeHtml s = s.flatMap entity := by
  have hunit : ∀ u, escapeHtml [u] = entity u := by
    intro u
    by_cases hu : u ∈ specials
    · exact (entity_of_mem hu).2.2.2
    · have hne : ∀ c : Char, unit c ∈ specials → u ≠ unit c := by
        rintro c hc rfl
        exact hu hc
      rw [entity_of_not_mem hu]
      simp [escapeHtml, replaceAll, hne '&' (by decide), hne '<' (by decide),
        hne '>' (by decide), hne '"' (by decide)]
  have happend : ∀ s t, escapeHtml (s ++ t) = escapeHtml s ++ escapeHtml t := by
    intro s t
    simp only [escapeHtml, replaceAll, List.flatMap_append]
  induction s with
  | nil => rfl
  | cons u s ih =>
      rw [← List.singleton_append, happend, ih, hunit]
      rfl

theorem length_flatMap_le {α β : Type} {f g : α → List β} {l : List α}
    (h : ∀ x ∈ l, (f x).length ≤ (g x).length) :
    (l.flatMap f).length ≤ (l.flatMap g).length := by
  rw [List.length_flatMap, List.length_flatMap]
  exact List.sum_le_sum h

/-- Concatenations whose parts are no longer on the one side than on the other
are equal only part by part. -/
theorem flatMap_eq_iff {α β : Type} {f g : α → List β} {l : List α}
    (h : ∀ x ∈ l, (f x).length ≤ (g x).length) :
    l.flatMap f = l.flatMap g ↔ ∀ x ∈ l, f x = g x := by
  refine ⟨fun heq => ?_, List.flatMap_congr⟩
  induction l with
  | nil => exact fun _ hx => nomatch hx
  | cons x l ih =>
      rw [List.forall_mem_cons] at h ⊢
      have htail := length_flatMap_le h.2
      have hlen := congrArg List.length heq
      simp only [List.flatMap_cons, List.length_append] at hlen
      have hhead := h.1
      obtain ⟨hx, hl⟩ := List.append_inj heq (by omega)
      exact ⟨hx, ih h.2 hl⟩

theorem length_le_entity (u : CodeUnit) : [u].length ≤ (entity u).length := by
  by_cases hu : u ∈ specials
  · exact Nat.le_of_succ_le (entity_of_mem hu).1
  · rw [entity_of_not_mem hu]

/-- **A text is its own escaped form exactly if it is plain.** -/
theorem escapeHtml_eq_self_iff (s : JsString) : escapeHtml s = s ↔ Plain s := by
  have hself : s.flatMap (fun u => [u]) = s := List.flatMap_singleton' s
  rw [escapeHtml_eq, eq_comm]
  nth_rewrite 1 [← hself]
  rw [flatMap_eq_iff (fun u _ => length_le_entity u)]
  apply forall₂_congr
  intro u _
  constructor
  · intro heq hu
    have hlen := (entity_of_mem hu).1
    rw [← heq] at hlen
    exact Nat.not_succ_le_self 1 hlen
  · exact fun hu => (entity_of_not_mem hu).symm

theorem length_le_escapeHtml (s : JsString) :
    s.length ≤ (escapeHtml s).length := by
  have hself : s.flatMap (fun u => [u]) = s := List.flatMap_singleton' s
  calc s.length = (s.flatMap fun u => [u]).length := by rw [hself]
    _ ≤ (s.flatMap entity).length :=
        length_flatMap_le fun u _ => length_le_entity u
    _ = _ := by rw [escapeHtml_eq]

/-- A text that has no part in the markup around it. -/
def Harmless (s : JsString) : Prop := unit '<' ∉ s ∧ unit '"' ∉ s

theorem Plain.harmless {s : JsString} (h : Plain s) : Harmless s :=
  ⟨fun hmem => h _ hmem (by decide), fun hmem => h _ hmem (by decide)⟩

theorem escapeHtml_harmless (s : JsString) : Harmless (escapeHtml s) := by
  have hentity : ∀ u, unit '<' ∉ entity u ∧ unit '"' ∉ entity u := by
    intro u
    by_cases hu : u ∈ specials
    · exact ⟨(entity_of_mem hu).2.1, (entity_of_mem hu).2.2.1⟩
    · rw [entity_of_not_mem hu]
      have hplain : Plain [u] := by
        intro v hv
        rwa [List.mem_singleton.mp hv]
      exact hplain.harmless
  rw [escapeHtml_eq]
  constructor
  · intro hmem
    obtain ⟨u, -, hu⟩ := List.mem_flatMap.mp hmem
    exact (hentity u).1 hu
  · intro hmem
    obtain ⟨u, -, hu⟩ := List.mem_flatMap.mp hmem
    exact (hentity u).2 hu

/-! ## Texts of the program and of the server -/

/-- A plain text. -/
abbrev PlainText := { s : JsString // Plain s }

/-- A text of the source. -/
def plain (s : String) (h : Plain (js s) := by decide) : PlainText := ⟨js s, h⟩

def PlainText.append (s t : PlainText) : PlainText :=
  ⟨s.val ++ t.val, List.forall_mem_append.mpr ⟨s.property, t.property⟩⟩

/-- Hexadecimal digits, as the server writes cells, keys and digests. -/
abbrev HexText := { s : JsString // ∀ u ∈ s, (hexValue u).isSome = true }

theorem hexText_plain (s : HexText) : Plain s.val := by
  intro u hu hspecial
  have hnone : specials.all (fun u => (hexValue u).isNone) = true := by decide
  have hu' := s.property u hu
  rw [Option.isNone_iff_eq_none.mp (List.all_eq_true.mp hnone u hspecial)]
    at hu'
  cases hu'

/-- A whole hexadecimal text. -/
def HexText.text (s : HexText) : PlainText := ⟨s.val, hexText_plain s⟩

/-- `s.slice(0, n) + "…"`. -/
def HexText.short (s : HexText) (n : Nat) : PlainText :=
  PlainText.append
    ⟨s.val.take n, fun u hu => hexText_plain s u (List.mem_of_mem_take hu)⟩
    (plain "…")

theorem decimal_plain (n : Nat) : Plain (ofText (decimal n)) := by
  intro u hu hspecial
  obtain ⟨c, hc, rfl⟩ := List.mem_map.mp hu
  have hdigit : c.isDigit = true :=
    Nat.isDigit_of_mem_toDigits (by decide) (by decide) hc
  have hrange : 48 ≤ c.toNat ∧ c.toNat ≤ 57 := by
    simp only [Char.isDigit, Bool.and_eq_true, decide_eq_true_eq] at hdigit
    exact ⟨UInt32.le_iff_toNat_le.mp hdigit.1,
      UInt32.le_iff_toNat_le.mp hdigit.2⟩
  have hval : (unit c).val = c.toNat := Nat.mod_eq_of_lt (by omega)
  have hnone : specials.all (fun u => decide (u.val < 48 ∨ 57 < u.val)) =
      true := by decide
  have hout := of_decide_eq_true (List.all_eq_true.mp hnone _ hspecial)
  omega

/-- A safe integer in a template. -/
def natText (n : Nat) : PlainText := ⟨ofText (decimal n), decimal_plain n⟩

end RenderEngine.Ports.EscapeHtml
