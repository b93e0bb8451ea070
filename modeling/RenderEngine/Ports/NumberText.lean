import RenderEngine.Ports.RpcClient
import RenderEngine.Ports.SerdeNumber

/-!
# A wire over the numbers of `serde_json`

Integers are written in decimal and whole doubles with `.0`, as `serde_json`
writes them; other doubles are written as a numerator and a denominator.  The
browser has a double for every number, its safe integers apart.

## Main results

* `readDecimal_decimalText`: what is written is read back.
* `understand_numbers`: the server and the browser understand each other.
-/

namespace RenderEngine.Ports.NumberText

open RenderEngine.Ports.CoreTypes
open RenderEngine.Ports.RustStd
open RenderEngine.Ports.Serde
open RenderEngine.Ports.SerdeNumber
open RenderEngine.Ports.JavaScript
open RenderEngine.Ports.JavaScriptJson
open RenderEngine.Ports.LabAcceptance (plainEngine)
open RenderEngine.Ports.RequestText
open RenderEngine.Ports.RpcClient
open RenderEngine.Ports.WireText
open RenderEngine.Verified.JsonSpelling

/-! ## Doubles -/

/-- The significand of `x` at the exponent `e`, if it has one. -/
def significand (x : ℚ) (e : Int) : Option Int :=
  if (x / 2 ^ e).den = 1 ∧ (x / 2 ^ e).num.natAbs < 2 ^ 53 then
    some (x / 2 ^ e).num
  else none

theorem isDouble_iff (x : ℚ) :
    IsDouble x ↔
      ∃ k : Nat, k < 2046 ∧ (significand x ((k : Int) - 1074)).isSome := by
  have hpow : ∀ e : Int, (2 : ℚ) ^ e ≠ 0 := fun e => zpow_ne_zero e two_ne_zero
  constructor
  · rintro ⟨m, e, hm, hmin, hmax, rfl⟩
    obtain ⟨k, hk⟩ := Int.eq_ofNat_of_zero_le (show 0 ≤ e + 1074 by omega)
    refine ⟨k, by omega, ?_⟩
    have he : (k : Int) - 1074 = e := by omega
    rw [he, significand, mul_div_cancel_right₀ _ (hpow e), Rat.den_intCast,
      Rat.num_intCast, if_pos ⟨rfl, hm⟩]
    rfl
  · rintro ⟨k, hk, hsome⟩
    by_cases hm : (x / 2 ^ ((k : Int) - 1074)).den = 1 ∧
        (x / 2 ^ ((k : Int) - 1074)).num.natAbs < 2 ^ 53
    · refine ⟨(x / 2 ^ ((k : Int) - 1074)).num, (k : Int) - 1074, hm.2,
        by omega, by omega, ?_⟩
      rw [Rat.coe_int_num_of_den_eq_one hm.1, div_mul_cancel₀ _ (hpow _)]
    · rw [significand, if_neg hm] at hsome
      cases hsome

instance : DecidablePred IsDouble := fun x =>
  decidable_of_iff _ (isDouble_iff x).symm

deriving instance DecidableEq for Number

/-! ## Texts -/

def decimalText : Number → Text
  | .posInt n => intDecimal n.toNat
  | .negInt i => intDecimal i.val.toInt
  | .float x => intDecimal x.val.num ++
      if x.val.den = 1 then ".0".toList else 'E' :: intDecimal x.val.den

/-- The end of the numerator. -/
def isPoint (c : Char) : Bool := c == '.' || c == 'E'

def ofInteger (i : Int) : Option Number :=
  if -2 ^ 63 ≤ i ∧ i < 2 ^ 63 then some (.ofI64 (Int64.ofInt i))
  else if 0 ≤ i ∧ i < 2 ^ 64 then some (.posInt (UInt64.ofNat i.toNat))
  else none

def ofQuotient (i : Int) (n : Nat) : Option Number :=
  if h : IsDouble (mkRat i n) then some (.float ⟨_, h⟩) else none

/-- The number of a numerator and what follows it. -/
def readTail (i : Int) (tail : Text) : Option Number :=
  if tail = [] then ofInteger i
  else if tail = ".0".toList then ofQuotient i 1
  else if tail.head? = some 'E' then
    (readInt tail.tail).bind fun d => ofQuotient i d.toNat
  else none

def readDecimal (t : Text) : Option Number :=
  (readInt (t.takeWhile fun c => !isPoint c)).bind fun i =>
    readTail i (t.dropWhile fun c => !isPoint c)

/-- A character of an integer. -/
theorem intDecimal_char {i : Int} {c : Char} (h : c ∈ intDecimal i) :
    c = '-' ∨ c.isDigit = true := by
  have hdigit : ∀ {n : Nat}, c ∈ decimal n → c.isDigit = true := fun hc =>
    Nat.isDigit_of_mem_toDigits (by decide) (by decide) hc
  unfold intDecimal at h
  split_ifs at h with hneg
  · exact (List.mem_cons.mp h).imp_right hdigit
  · exact .inr (hdigit h)

theorem intDecimal_not_point {i : Int} {c : Char} (h : c ∈ intDecimal i) :
    isPoint c = false := by
  by_contra hpoint
  rw [Bool.not_eq_false, isPoint, Bool.or_eq_true, beq_iff_eq, beq_iff_eq]
    at hpoint
  rcases intDecimal_char h with rfl | hdigit
  · exact absurd hpoint (by decide)
  · rcases hpoint with rfl | rfl <;> exact absurd hdigit (by decide)

/-- The numerator ends at the point. -/
theorem readDecimal_append (i : Int) (tail : Text)
    (htail : ∀ c ∈ tail.head?, isPoint c = true) :
    readDecimal (intDecimal i ++ tail) = readTail i tail := by
  have hall : ∀ c ∈ intDecimal i, (!isPoint c) = true := fun c hc => by
    rw [intDecimal_not_point hc]
    rfl
  have hends : tail.takeWhile (fun c => !isPoint c) = [] ∧
      tail.dropWhile (fun c => !isPoint c) = tail := by
    cases tail with
    | nil => exact ⟨rfl, rfl⟩
    | cons c cs =>
        have hstop : ¬ (!isPoint c) = true := by
          rw [htail c rfl]
          exact Bool.false_ne_true
        exact ⟨List.takeWhile_cons_of_neg hstop,
          List.dropWhile_cons_of_neg hstop⟩
  rw [readDecimal, List.takeWhile_append_of_pos hall,
    List.dropWhile_append_of_pos hall, hends.1, hends.2, List.append_nil,
    readInt_intDecimal, Option.bind_some]

theorem readDecimal_intDecimal (i : Int) :
    readDecimal (intDecimal i) = ofInteger i := by
  have hread := readDecimal_append i [] nofun
  rwa [List.append_nil, readTail, if_pos rfl] at hread

theorem ofInteger_toInt (i : Int64) : ofInteger i.toInt = some (.ofI64 i) := by
  have hle := i.le_toInt
  have hlt := i.toInt_lt
  rw [ofInteger, if_pos ⟨hle, hlt⟩, Int64.ofInt_toInt]

theorem ofInteger_toNat (n : UInt64) :
    ofInteger n.toNat = some (.posInt n) := by
  have hlt := n.toNat_lt
  by_cases hsmall : (n.toNat : Int) < 2 ^ 63
  · have hread : (Number.posInt n).asI64 = some n.toInt64 :=
      if_pos (by omega)
    have hint : n.toInt64.toInt = n.toNat := by
      show n.toBitVec.toInt = n.toBitVec.toNat
      rw [BitVec.toInt_eq_toNat_cond, if_pos]
      show 2 * n.toNat < 2 ^ 64
      omega
    rw [← hint, ofInteger_toInt, ← Number.asI64_eq_some_iff.mp hread]
  · rw [ofInteger, if_neg (by omega), if_pos ⟨by omega, by omega⟩,
      Int.toNat_natCast, UInt64.ofNat_toNat]

theorem ofQuotient_num_den (x : Double) :
    ofQuotient x.val.num x.val.den = some (.float x) := by
  have hvalue : mkRat x.val.num x.val.den = x.val := Rat.mkRat_self x.val
  rw [ofQuotient]
  simp only [hvalue, dif_pos x.property]

/-- **What is written is read back.** -/
theorem readDecimal_decimalText (n : Number) :
    readDecimal (decimalText n) = some n := by
  cases n with
  | posInt n => exact (readDecimal_intDecimal _).trans (ofInteger_toNat n)
  | negInt i =>
      refine (readDecimal_intDecimal _).trans ((ofInteger_toInt i.val).trans ?_)
      rw [Number.ofI64, dif_pos i.property]
  | float x =>
      rw [decimalText]
      by_cases hwhole : x.val.den = 1
      · have hhead : ∀ c ∈ ".0".toList.head?, isPoint c = true := by
          intro c hc
          cases hc
          rfl
        rw [if_pos hwhole, readDecimal_append _ _ hhead, readTail,
          if_neg (by decide), if_pos rfl, ← ofQuotient_num_den, hwhole]
      · have hhead : ∀ c ∈ ('E' :: intDecimal x.val.den).head?,
            isPoint c = true := by
          intro c hc
          cases hc
          rfl
        have hne : 'E' :: intDecimal x.val.den ≠ ".0".toList := by
          intro h
          exact absurd (List.cons.inj h).1 (by decide)
        rw [if_neg hwhole, readDecimal_append _ _ hhead, readTail,
          if_neg (List.cons_ne_nil _ _), if_neg hne, List.head?_cons, if_pos rfl,
          List.tail_cons, readInt_intDecimal, Option.bind_some, Int.toNat_natCast,
          ofQuotient_num_den]

/-- A character of a number. -/
theorem decimalText_char {n : Number} {c : Char} (h : c ∈ decimalText n) :
    c ∈ ['-', '.', 'E'] ∨ c.isDigit = true := by
  have hint : ∀ {i : Int}, c ∈ intDecimal i →
      c ∈ ['-', '.', 'E'] ∨ c.isDigit = true := fun hc =>
    (intDecimal_char hc).imp_left fun hminus => by
      rw [hminus]
      exact List.mem_cons_self
  cases n with
  | posInt n => exact hint h
  | negInt i => exact hint h
  | float x =>
      rcases List.mem_append.mp h with hc | hc
      · exact hint hc
      · split_ifs at hc with hwhole
        · have htail : c ∈ ['.', '0'] := hc
          simp only [List.mem_cons, List.not_mem_nil, or_false] at htail
          rcases htail with rfl | rfl
          · exact .inl (by decide)
          · exact .inr rfl
        · rcases List.mem_cons.mp hc with rfl | hc
          · exact .inl (by decide)
          · exact hint hc

theorem isNumberChar_decimalText {n : Number} {c : Char}
    (h : c ∈ decimalText n) : isNumberChar c = true := by
  rcases decimalText_char h with hc | hc
  · simp only [List.mem_cons, List.not_mem_nil, or_false] at hc
    rcases hc with rfl | rfl | rfl <;> rfl
  · rw [isNumberChar, hc]
    rfl

theorem decimalText_head (n : Number) :
    ∃ c cs, decimalText n = c :: cs ∧ isNumberStart c = true := by
  have hint : ∀ i : Int, ∃ c cs, intDecimal i = c :: cs ∧
      isNumberStart c = true := intText.number_head
  cases n with
  | posInt n => exact hint _
  | negInt i => exact hint _
  | float x =>
      obtain ⟨c, cs, htext, hc⟩ := hint x.val.num
      rw [decimalText, htext]
      exact ⟨c, _, List.cons_append, hc⟩

theorem decimalText_injective : Function.Injective decimalText := by
  intro m n h
  have hm := readDecimal_decimalText m
  rw [h, readDecimal_decimalText] at hm
  exact (Option.some.inj hm).symm

/-- The numbers of `serde_json`. -/
def numberSerde : SerdeText Number where
  number := decimalText
  readNumber := readDecimal
  string := quote
  readString := readQuoted
  number_head := decimalText_head
  number_chars := fun _ _ => isNumberChar_decimalText
  number_injective := decimalText_injective
  string_head := quote_head
  readString_string := readQuoted_quote

/-! ## In the browser -/

/-- The safe integer that the number is. -/
def safePart (n : Number) : Option SafeInteger :=
  if h : n.real.den = 1 ∧ isSafe n.real.num = true then some ⟨_, h.2⟩ else none

/-- The numbers that are no safe integer. -/
abbrev Wide := { n : Number // safePart n = none }

/-- A number of the server in the browser. -/
def toJs (n : Number) : JsNumber Wide :=
  match h : safePart n with
  | some i => .int i
  | none => .other ⟨n, h⟩

/-- A number of the browser at the server. -/
def toNumber : FiniteNumber Wide → Number
  | ⟨.int i, _⟩ => .ofI64 (Int64.ofInt i.val)
  | ⟨.other w, _⟩ => w.val
  | ⟨.infinity _, h⟩ => nomatch h

theorem toJs_isFinite (n : Number) : (toJs n).isFinite = true := by
  unfold toJs
  split <;> rfl

theorem toJs_wide (w : Wide) : toJs w.val = .other w := by
  have hw := w.property
  unfold toJs
  split
  · next i hi =>
      rw [hi] at hw
      cases hw
  · rfl

theorem safe_bounds {i : Int} (h : isSafe i = true) :
    -2 ^ 53 < i ∧ i < 2 ^ 53 := by
  rw [isSafe, decide_eq_true_eq] at h
  omega

theorem ofInteger_safe (i : SafeInteger) :
    ofInteger i.val = some (.ofI64 (Int64.ofInt i.val)) := by
  have hi := safe_bounds i.property
  exact if_pos ⟨by omega, by omega⟩

theorem toNat_toUInt64 {i : Int64} (h : ¬ i < 0) :
    (i.toUInt64.toNat : Int) = i.toInt := by
  have hpos : 0 ≤ i.toInt := by
    rw [Int64.lt_iff_toInt_lt] at h
    exact Int.not_lt.mp h
  have hcond : i.toInt = i.toBitVec.toInt := rfl
  rw [hcond, BitVec.toInt_eq_toNat_cond] at hpos ⊢
  have hbits := i.toBitVec.isLt
  show (i.toBitVec.toNat : Int) = _
  split_ifs at hpos ⊢ with hsmall
  · rfl
  · omega

theorem real_ofI64 (i : Int64) : (Number.ofI64 i).real = (i.toInt : ℚ) := by
  rw [Number.ofI64]
  split_ifs with hneg
  · rfl
  · rw [← toNat_toUInt64 hneg]
    rfl

theorem decimalText_ofI64 (i : Int64) :
    decimalText (.ofI64 i) = intDecimal i.toInt := by
  rw [Number.ofI64]
  split_ifs with hneg
  · rfl
  · rw [← toNat_toUInt64 hneg]
    rfl

theorem toInt_ofInt_safe (i : SafeInteger) :
    (Int64.ofInt i.val).toInt = i.val := by
  have hi := safe_bounds i.property
  exact Int64.toInt_ofInt_of_le (by omega) (by omega)

theorem safePart_ofI64 (i : SafeInteger) :
    safePart (.ofI64 (Int64.ofInt i.val)) = some i := by
  have hreal : (Number.ofI64 (Int64.ofInt i.val)).real = (i.val : ℚ) := by
    rw [real_ofI64, toInt_ofInt_safe]
  have hden : (Number.ofI64 (Int64.ofInt i.val)).real.den = 1 := by
    rw [hreal, Rat.den_intCast]
  have hnum : (Number.ofI64 (Int64.ofInt i.val)).real.num = i.val := by
    rw [hreal, Rat.num_intCast]
  rw [safePart, dif_pos ⟨hden, hnum.symm ▸ i.property⟩]
  exact congrArg some (Subtype.ext hnum)

theorem toJs_ofI64 (i : SafeInteger) :
    toJs (.ofI64 (Int64.ofInt i.val)) = .int i := by
  have hi := safePart_ofI64 i
  unfold toJs
  split
  · next j hj => exact congrArg JsNumber.int (Option.some.inj (hj.symm.trans hi))
  · next hnone =>
      rw [hi] at hnone
      cases hnone

/-- An integer that is written as a safe integer is that integer. -/
theorem eq_of_decimalText {n : Number} {i : SafeInteger}
    (h : decimalText n = intDecimal i.val) :
    n = .ofI64 (Int64.ofInt i.val) := by
  have hread := readDecimal_decimalText n
  rw [h, readDecimal_intDecimal, ofInteger_safe] at hread
  exact (Option.some.inj hread).symm

/-- A number that is no safe integer is not written like one. -/
theorem decimalText_wide (w : Wide) (i : SafeInteger) :
    decimalText w.val ≠ intDecimal i.val := by
  intro h
  have hw := w.property
  rw [eq_of_decimalText h, safePart_ofI64] at hw
  cases hw

theorem decimalText_ascii (n : Number) : ∀ c ∈ decimalText n, c.toNat < 128 :=
  fun _ hc => numberChar_ascii (isNumberChar_decimalText hc)

theorem decimal_of_ofText {n : Number} {i : Int}
    (h : ofText (decimalText n) = ofText (intDecimal i)) :
    decimalText n = intDecimal i := by
  have hascii : ∀ c ∈ intDecimal i, c.toNat < 128 := fun c hc =>
    numberChar_ascii (intText.number_chars i c hc)
  have hchars := congrArg (List.map CodeUnit.toChar) h
  rwa [map_toChar_ofText (decimalText_ascii n),
    map_toChar_ofText hascii] at hchars

theorem decimalText_ne_overflow (n : Number) (negative : Bool) :
    ofText (decimalText n) ≠ overflowText negative := by
  intro h
  have hchars := congrArg (List.map CodeUnit.toChar) h
  rw [map_toChar_ofText (decimalText_ascii n)] at hchars
  have hmem : 'e' ∈ decimalText n := by
    rw [hchars]
    cases negative <;> decide
  rcases decimalText_char hmem with hc | hc
  · exact absurd hc (by decide)
  · exact absurd hc (by decide)

/-- An engine whose doubles are the numbers of `serde_json`. -/
def numberEngine : Engine Wide where
  numberText := fun w => ofText (decimalText w.val)
  readNumber := fun us =>
    if us = overflowText false then some (.infinity false)
    else if us = overflowText true then some (.infinity true)
    else (readDecimal (us.map CodeUnit.toChar)).map toJs
  number_head := by
    intro w
    obtain ⟨c, cs, htext, hc⟩ := decimalText_head w.val
    have hascii := decimalText_ascii w.val c (htext ▸ List.mem_cons_self)
    refine ⟨unit c, ofText cs, congrArg ofText htext, ?_⟩
    rwa [toChar_unit c hascii]
  number_chars := by
    intro w u hu
    obtain ⟨c, hc, rfl⟩ := List.mem_map.mp hu
    rw [toChar_unit c (decimalText_ascii w.val c hc)]
    exact isNumberChar_decimalText hc
  numberText_ne := by
    intro w i h
    exact decimalText_wide w i (decimal_of_ofText h)
  readNumber_numberText := by
    intro w
    rw [if_neg (decimalText_ne_overflow _ _),
      if_neg (decimalText_ne_overflow _ _),
      map_toChar_ofText (decimalText_ascii w.val), readDecimal_decimalText,
      Option.map_some, toJs_wide]
  readNumber_overflow := by
    intro negative
    cases negative <;> rfl
  syntaxError := plainEngine.syntaxError
  invalidCharacter := plainEngine.invalidCharacter
  nullAccess := plainEngine.nullAccess
  notFunction := plainEngine.notFunction
  notPrimitive := plainEngine.notPrimitive

theorem readsSerde_numbers : ReadsSerde numberEngine numberSerde toJs where
  string := rfl
  readNumber := by
    intro n
    have htext : (jsText (decimalText n)).map CodeUnit.toChar = decimalText n := by
      rw [jsText_ascii (decimalText_ascii n),
        map_toChar_ofText (decimalText_ascii n)]
    have hengine : numberEngine.readNumber (jsText (decimalText n)) =
        some (toJs n) := by
      show (if _ then _ else _) = _
      rw [if_neg (by
          rw [jsText_ascii (decimalText_ascii n)]
          exact decimalText_ne_overflow n false),
        if_neg (by
          rw [jsText_ascii (decimalText_ascii n)]
          exact decimalText_ne_overflow n true),
        htext, readDecimal_decimalText]
      rfl
    show JavaScriptJson.readNumber numberEngine.toNumerals
      (jsText (decimalText n)) = _
    rw [JavaScriptJson.readNumber, htext]
    split
    · exact hengine
    · split_ifs with hsafe
      · next i _ =>
          rw [jsText_ascii (decimalText_ascii n)] at hsafe
          have hn := eq_of_decimalText (i := ⟨i, hsafe.1⟩)
            (decimal_of_ofText hsafe.2.symm)
          exact congrArg some
            ((congrArg toJs hn).trans (toJs_ofI64 ⟨i, hsafe.1⟩)).symm
      · exact hengine

theorem readsBrowser_numbers :
    ReadsBrowser numberEngine numberSerde toNumber where
  string := rfl
  readNumber := by
    rintro ⟨x, hx⟩
    cases x with
    | int i =>
        have htext : numberChars numberEngine.toNumerals ⟨.int i, hx⟩ =
            intDecimal i.val :=
          map_toChar_ofText fun c hc =>
            numberChar_ascii (intText.number_chars i.val c hc)
        rw [htext]
        exact (readDecimal_intDecimal i.val).trans (ofInteger_safe i)
    | other w =>
        have htext : numberChars numberEngine.toNumerals ⟨.other w, hx⟩ =
            decimalText w.val :=
          map_toChar_ofText (decimalText_ascii w.val)
        rw [htext]
        exact readDecimal_decimalText w.val
    | infinity negative => cases hx

/-- **The server and the browser understand each other.** -/
theorem understand_numbers : Understand numberEngine numberSerde
    (fun i => .ofI64 (Int64.ofInt i)) toJs toNumber where
  reply := readsSerde_numbers
  request := readsBrowser_numbers
  integer := by
    intro i
    exact (decimalText_ofI64 _).trans (congrArg intDecimal (toInt_ofInt_safe i))
  readsInteger := fun _ => readDecimal_decimalText _

end RenderEngine.Ports.NumberText
