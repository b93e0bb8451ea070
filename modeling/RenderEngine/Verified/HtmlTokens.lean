import Mathlib.Data.List.Flatten
import Mathlib.Tactic.SplitIfs

/-!
# The tags of an HTML text

The tokenizer of HTML as a machine over code units, as far as it tells tags and
the names of their attributes from everything else; what a parser feeds back to
it (the raw text of scripts and styles) is left out.  A template is markup with
texts in it; the frame of a template is its markup with the places of the texts.

## Main results

* `run_append`: a text is read part by part.
* `run_text`: text without `<` and `"` is not seen between tags and in a quoted
  value.
* `tags_eq_of_frame`: templates with one frame and such texts have the same
  tags.
-/

namespace RenderEngine.Verified.HtmlTokens

structure Tag where
  closing : Bool
  name : List Nat
  attributes : List (List Nat)
  deriving DecidableEq

inductive State where
  | data
  | tagOpen
  | endTagOpen
  | tagName (tag : Tag)
  | beforeName (tag : Tag)
  | name (tag : Tag) (attr : List Nat)
  | afterName (tag : Tag)
  | beforeValue (tag : Tag)
  | value (tag : Tag) (quote : Nat)
  | unquoted (tag : Tag)
  | afterValue (tag : Tag)
  | selfClosing (tag : Tag)
  | bogusComment
  | declaration
  | declarationDash
  | commentStart
  | commentStartDash
  | comment
  | commentDash
  | commentEnd
  | commentBang
  deriving DecidableEq

def quoteMark : Nat := 0x22

def apostrophe : Nat := 0x27

def isSpace (c : Nat) : Bool := c = 9 ∨ c = 10 ∨ c = 12 ∨ c = 13 ∨ c = 32

def isUpper (c : Nat) : Bool := 65 ≤ c ∧ c ≤ 90

def isAlpha (c : Nat) : Bool := isUpper c ∨ (97 ≤ c ∧ c ≤ 122)

def lower (c : Nat) : Nat := if isUpper c then c + 32 else c

def Tag.withName (tag : Tag) (c : Nat) : Tag :=
  { tag with name := tag.name ++ [lower c] }

def Tag.withAttribute (tag : Tag) (attr : List Nat) : Tag :=
  { tag with attributes := tag.attributes ++ [attr] }

def inData (c : Nat) : State := if c = '<'.toNat then .tagOpen else .data

def inBeforeName (tag : Tag) (c : Nat) : State × List Tag :=
  if isSpace c then (.beforeName tag, [])
  else if c = '/'.toNat then (.selfClosing tag, [])
  else if c = '>'.toNat then (.data, [tag])
  else (.name tag [lower c], [])

/-- One code unit: the next state, and the tag it completes. -/
def step : State → Nat → State × List Tag
  | .data, c => (inData c, [])
  | .tagOpen, c =>
      if isAlpha c then (.tagName ⟨false, [lower c], []⟩, [])
      else if c = '/'.toNat then (.endTagOpen, [])
      else if c = '!'.toNat then (.declaration, [])
      else if c = '?'.toNat then (.bogusComment, [])
      else (inData c, [])
  | .endTagOpen, c =>
      if isAlpha c then (.tagName ⟨true, [lower c], []⟩, [])
      else if c = '>'.toNat then (.data, [])
      else (.bogusComment, [])
  | .tagName tag, c =>
      if isSpace c then (.beforeName tag, [])
      else if c = '/'.toNat then (.selfClosing tag, [])
      else if c = '>'.toNat then (.data, [tag])
      else (.tagName (tag.withName c), [])
  | .beforeName tag, c => inBeforeName tag c
  | .name tag attr, c =>
      if isSpace c then (.afterName (tag.withAttribute attr), [])
      else if c = '/'.toNat then (.selfClosing (tag.withAttribute attr), [])
      else if c = '='.toNat then (.beforeValue (tag.withAttribute attr), [])
      else if c = '>'.toNat then (.data, [tag.withAttribute attr])
      else (.name tag (attr ++ [lower c]), [])
  | .afterName tag, c =>
      if c = '='.toNat then (.beforeValue tag, [])
      else if isSpace c then (.afterName tag, [])
      else inBeforeName tag c
  | .beforeValue tag, c =>
      if isSpace c then (.beforeValue tag, [])
      else if c = quoteMark ∨ c = apostrophe then (.value tag c, [])
      else if c = '>'.toNat then (.data, [tag])
      else (.unquoted tag, [])
  | .value tag quote, c =>
      (if c = quote then .afterValue tag else .value tag quote, [])
  | .unquoted tag, c =>
      if isSpace c then (.beforeName tag, [])
      else if c = '>'.toNat then (.data, [tag])
      else (.unquoted tag, [])
  | .afterValue tag, c => inBeforeName tag c
  | .selfClosing tag, c => inBeforeName tag c
  | .bogusComment, c =>
      (if c = '>'.toNat then .data else .bogusComment, [])
  | .declaration, c =>
      (if c = '-'.toNat then .declarationDash
       else if c = '>'.toNat then .data
       else .bogusComment, [])
  | .declarationDash, c =>
      (if c = '-'.toNat then .commentStart
       else if c = '>'.toNat then .data
       else .bogusComment, [])
  | .commentStart, c =>
      (if c = '-'.toNat then .commentStartDash
       else if c = '>'.toNat then .data
       else .comment, [])
  | .commentStartDash, c =>
      (if c = '-'.toNat then .commentEnd
       else if c = '>'.toNat then .data
       else .comment, [])
  | .comment, c => (if c = '-'.toNat then .commentDash else .comment, [])
  | .commentDash, c => (if c = '-'.toNat then .commentEnd else .comment, [])
  | .commentEnd, c =>
      (if c = '>'.toNat then .data
       else if c = '!'.toNat then .commentBang
       else if c = '-'.toNat then .commentEnd
       else .comment, [])
  | .commentBang, c =>
      (if c = '-'.toNat then .commentDash
       else if c = '>'.toNat then .data
       else .comment, [])

/-- The state a text ends in, and the tags it completes. -/
def run : State → List Nat → State × List Tag
  | q, [] => (q, [])
  | q, c :: cs =>
      ((run (step q c).1 cs).1, (step q c).2 ++ (run (step q c).1 cs).2)

/-- The tags of a text with the names of their attributes. -/
def tags (text : List Nat) : List Tag := (run .data text).2

theorem run_append (q : State) (s t : List Nat) :
    run q (s ++ t) =
      ((run (run q s).1 t).1, (run q s).2 ++ (run (run q s).1 t).2) := by
  induction s generalizing q with
  | nil => rfl
  | cons c s ih =>
      rw [List.cons_append, run, ih, run, List.append_assoc]

/-! ## Texts that are not seen -/

/-- Between tags, or in a value between double quotes. -/
def State.holdsText : State → Bool
  | .data => true
  | .value _ quote => quote = quoteMark
  | _ => false

/-- Neither `<` nor `"`. -/
def Inert (s : List Nat) : Prop := '<'.toNat ∉ s ∧ quoteMark ∉ s

theorem run_text {q : State} (hq : q.holdsText = true) {s : List Nat}
    (hs : Inert s) : run q s = (q, []) := by
  have hstep : ∀ c ∈ s, step q c = (q, []) := by
    intro c hc
    have hlt : c ≠ '<'.toNat := ne_of_mem_of_not_mem hc hs.1
    have hquote : c ≠ quoteMark := ne_of_mem_of_not_mem hc hs.2
    cases q with
    | data => rw [step, inData, if_neg hlt]
    | value tag quote =>
        have heq : quote = quoteMark := of_decide_eq_true hq
        rw [step, heq, if_neg hquote]
    | _ => cases hq
  clear hs
  induction s with
  | nil => rfl
  | cons c s ih =>
      have hrest := ih (fun d hd => hstep d (List.mem_cons_of_mem c hd))
      rw [run, hstep c List.mem_cons_self, hrest]
      rfl

/-! ## Templates -/

/-- A piece of a template. -/
inductive Piece where
  | markup (s : List Nat)
  | text (s : List Nat)

def Piece.chars : Piece → List Nat
  | .markup s => s
  | .text s => s

/-- The markup of a piece; nothing of a text. -/
def Piece.frame : Piece → Option (List Nat)
  | .markup s => some s
  | .text _ => none

/-- What is read if no text is seen. -/
def runFrame : State → List (Option (List Nat)) → State × List Tag
  | q, [] => (q, [])
  | q, some s :: frame =>
      ((runFrame (run q s).1 frame).1,
        (run q s).2 ++ (runFrame (run q s).1 frame).2)
  | q, none :: frame => runFrame q frame

/-- The state a frame ends in, if its texts are at places that hold texts. -/
def endState : State → List (Option (List Nat)) → Option State
  | q, [] => some q
  | q, some s :: frame => endState (run q s).1 frame
  | q, none :: frame => if q.holdsText then endState q frame else none

theorem endState_append (q : State) (f g : List (Option (List Nat))) :
    endState q (f ++ g) = (endState q f).bind fun r => endState r g := by
  induction f generalizing q with
  | nil => rfl
  | cons s f ih =>
      cases s with
      | some s => exact ih _
      | none =>
          rw [List.cons_append, endState, endState]
          split_ifs
          · exact ih q
          · rfl

/-- A frame from between tags to between tags. -/
def Balanced (frame : List (Option (List Nat))) : Prop :=
  endState .data frame = some .data

instance (frame : List (Option (List Nat))) : Decidable (Balanced frame) :=
  inferInstanceAs (Decidable (_ = _))

theorem balanced_nil : Balanced [] := rfl

theorem Balanced.append {f g : List (Option (List Nat))} (hf : Balanced f)
    (hg : Balanced g) : Balanced (f ++ g) := by
  rw [Balanced, endState_append, hf]
  exact hg

theorem balanced_flatten {fs : List (List (Option (List Nat)))}
    (h : ∀ f ∈ fs, Balanced f) : Balanced fs.flatten := by
  induction fs with
  | nil => exact balanced_nil
  | cons f fs ih =>
      rw [List.forall_mem_cons] at h
      exact h.1.append (ih h.2)

/-- Inert texts at places that hold texts are not seen. -/
theorem run_pieces {q : State} {pieces : List Piece}
    (hframe : (endState q (pieces.map Piece.frame)).isSome)
    (hinert : ∀ s, .text s ∈ pieces → Inert s) :
    run q (pieces.flatMap Piece.chars) =
      runFrame q (pieces.map Piece.frame) := by
  induction pieces generalizing q with
  | nil => rfl
  | cons piece pieces ih =>
      have hrest : ∀ s, .text s ∈ pieces → Inert s :=
        fun s hs => hinert s (List.mem_cons_of_mem piece hs)
      rw [List.flatMap_cons, run_append]
      cases piece with
      | markup s =>
          have htail := ih (q := (run q s).1) hframe hrest
          simp only [Piece.chars, List.map_cons, Piece.frame, runFrame, htail]
      | text s =>
          simp only [List.map_cons, Piece.frame, endState] at hframe
          split_ifs at hframe with hholds
          · have htext := run_text hholds (hinert s List.mem_cons_self)
            simp only [Piece.chars, htext, List.nil_append, List.map_cons,
              Piece.frame, runFrame, ih hframe hrest]
          · cases hframe

/-- **Templates with one frame have the same tags**, if no text of theirs is
seen. -/
theorem tags_eq_of_frame {pieces pieces' : List Piece}
    (hframe : pieces.map Piece.frame = pieces'.map Piece.frame)
    (hbalanced : Balanced (pieces.map Piece.frame))
    (hinert : ∀ s, .text s ∈ pieces → Inert s)
    (hinert' : ∀ s, .text s ∈ pieces' → Inert s) :
    tags (pieces.flatMap Piece.chars) = tags (pieces'.flatMap Piece.chars) := by
  have hsome : (endState .data (pieces.map Piece.frame)).isSome := by
    rw [hbalanced]
    rfl
  rw [tags, tags, run_pieces hsome hinert, run_pieces (hframe ▸ hsome) hinert',
    hframe]

end RenderEngine.Verified.HtmlTokens
