import Mathlib.Data.List.TakeWhile
import RenderEngine.Ports.LabVerify

/-!
# Base64url (`demo/lab_verify.js`)

`bytesToB64u` writes a character for each sextet of the bytes and no padding.
`b64uToBytes` puts the padding back from the length of the text: what two bytes
leave are three characters, what one byte leaves are two, so that a text is
never one longer than a multiple of four.

## Main results

* `bytesToB64u_eq`: the text is that of the sextets.
* `b64uToBytes_eq`: a text of sextets is read as the bytes they are.
* `base64url_roundTrip`: the characters of the text, and the way back.
-/

namespace RenderEngine.Ports.Base64url

open RenderEngine.Ports.JavaScript
open RenderEngine.Ports.LabVerify

/-! ## Sextets -/

/-- The sextets of a run of bytes, the last one filled up with zeros. -/
def sextets : List Nat → List Nat
  | a :: b :: c :: rest =>
      a / 4 :: (a % 4 * 16 + b / 16) :: (b % 16 * 4 + c / 64) :: c % 64
        :: sextets rest
  | [a, b] => [a / 4, a % 4 * 16 + b / 16, b % 16 * 4]
  | [a] => [a / 4, a % 4 * 16]
  | [] => []

/-- How many `=` make the length a multiple of four. -/
def padding (n : Nat) : Nat := (4 - n % 4) % 4

theorem sextets_length (bytes : List Nat) :
    (sextets bytes).length = bytes.length + (bytes.length + 2) / 3 := by
  fun_induction sextets bytes with
  | case1 a b c rest ih =>
      simp only [List.length_cons, ih]
      omega
  | case2 a b => simp
  | case3 a => simp
  | case4 => rfl

theorem sextets_length_mod (bytes : List Nat) :
    (sextets bytes).length % 4 ≠ 1 := by
  rw [sextets_length]
  omega

theorem sextets_lt {bytes : List Nat} (h : ∀ x ∈ bytes, x < 256) :
    ∀ n ∈ sextets bytes, n < 64 := by
  fun_induction sextets bytes with
  | case1 a b c rest ih =>
      simp only [List.forall_mem_cons] at h ⊢
      obtain ⟨ha, hb, hc, hrest⟩ := h
      exact ⟨by omega, by omega, by omega, by omega, ih hrest⟩
  | case2 a b =>
      simp only [List.forall_mem_cons] at h ⊢
      obtain ⟨ha, hb, -⟩ := h
      exact ⟨by omega, by omega, by omega, fun _ hn => nomatch hn⟩
  | case3 a =>
      simp only [List.forall_mem_cons] at h ⊢
      obtain ⟨ha, -⟩ := h
      exact ⟨by omega, by omega, fun _ hn => nomatch hn⟩
  | case4 => exact fun _ hn => nomatch hn

/-- **The bits of the bytes are those of their sextets.** -/
theorem sextetBytes_sextets {bytes : List Nat} (h : ∀ x ∈ bytes, x < 256) :
    sextetBytes (sextets bytes) = bytes := by
  fun_induction sextets bytes with
  | case1 a b c rest ih =>
      simp only [List.forall_mem_cons] at h
      obtain ⟨ha, hb, hc, hrest⟩ := h
      rw [sextetBytes, ih hrest]
      have ha' : a / 4 * 4 + (a % 4 * 16 + b / 16) / 16 = a := by omega
      have hb' : (a % 4 * 16 + b / 16) % 16 * 16 +
          (b % 16 * 4 + c / 64) / 4 = b := by omega
      have hc' : (b % 16 * 4 + c / 64) % 4 * 64 + c % 64 = c := by omega
      rw [ha', hb', hc']
  | case2 a b =>
      simp only [List.forall_mem_cons] at h
      obtain ⟨ha, hb, -⟩ := h
      have ha' : a / 4 * 4 + (a % 4 * 16 + b / 16) / 16 = a := by omega
      have hb' : (a % 4 * 16 + b / 16) % 16 * 16 + b % 16 * 4 / 4 = b := by omega
      rw [sextetBytes, ha', hb']
  | case3 a =>
      have ha' : a / 4 * 4 + a % 4 * 16 / 16 = a := by omega
      rw [sextetBytes, ha']
  | case4 => rfl

/-- `btoa` writes the sextets and pads the text. -/
theorem base64Text_eq (bytes : List Nat) :
    base64Text bytes = (sextets bytes).map base64Char ++
      List.replicate (padding (sextets bytes).length) (unit '=') := by
  fun_induction sextets bytes with
  | case1 a b c rest ih =>
      have hpad : padding ((sextets rest).length + 1 + 1 + 1 + 1) =
          padding (sextets rest).length := by
        unfold padding
        omega
      simp only [base64Text, ih, List.map_cons, List.cons_append,
        List.length_cons, hpad]
  | case2 a b => rfl
  | case3 a => rfl
  | case4 => rfl

/-! ## Characters -/

/-- The URL-safe alphabet. -/
def urlAlphabet : JsString :=
  js "ABCDEFGHIJKLMNOPQRSTUVWXYZabcdefghijklmnopqrstuvwxyz0123456789-_"

/-- The URL-safe character of a sextet. -/
def urlChar (n : Nat) : CodeUnit :=
  if n = 62 then unit '-' else if n = 63 then unit '_' else base64Char n

private theorem of_sextets {P : Nat → Prop} [DecidablePred P]
    (h : ((List.range 64).all fun n => decide (P n)) = true) {n : Nat}
    (hn : n < 64) : P n :=
  of_decide_eq_true (List.all_eq_true.mp h n (List.mem_range.mpr hn))

theorem base64Value_base64Char {n : Nat} (hn : n < 64) :
    base64Value (base64Char n) = some n := by
  apply of_sextets _ hn
  decide

theorem isAsciiSpace_base64Char {n : Nat} (hn : n < 64) :
    isAsciiSpace (base64Char n) = false := by
  apply of_sextets _ hn
  decide

theorem base64Char_ne_pad {n : Nat} (hn : n < 64) :
    base64Char n ≠ unit '=' := by
  apply of_sextets _ hn
  decide

theorem urlChar_ne_pad {n : Nat} (hn : n < 64) : urlChar n ≠ unit '=' := by
  apply of_sextets _ hn
  decide

theorem urlChar_mem {n : Nat} (hn : n < 64) : urlChar n ∈ urlAlphabet := by
  apply of_sextets _ hn
  decide

/-- The replacements of `bytesToB64u` on one character. -/
theorem urlChar_eq {n : Nat} (hn : n < 64) :
    (fun u => if u = unit '/' then unit '_' else u)
      ((fun u => if u = unit '+' then unit '-' else u) (base64Char n)) =
        urlChar n := by
  apply of_sextets _ hn
  decide

/-- The replacements of `b64uToBytes` on one character. -/
theorem base64Char_eq {n : Nat} (hn : n < 64) :
    (fun u => if u = unit '_' then unit '/' else u)
      ((fun u => if u = unit '-' then unit '+' else u) (urlChar n)) =
        base64Char n := by
  apply of_sextets _ hn
  decide

/-! ## Reading a padded text -/

theorem withoutPadding_append {s : JsString} {k : Nat} (hk : k ≤ 2)
    (hs : s.getLast? ≠ some (unit '=')) :
    withoutPadding (s ++ List.replicate k (unit '=')) = s := by
  have hone : withoutPadding (s ++ [unit '=']) = s := by
    rw [withoutPadding, if_pos List.getLast?_concat, List.dropLast_concat]
    exact if_neg hs
  match k, hk with
  | 0, _ =>
      rw [List.replicate_zero, List.append_nil]
      exact if_neg hs
  | 1, _ => exact hone
  | 2, _ =>
      have htwo : s ++ List.replicate 2 (unit '=') =
          s ++ [unit '='] ++ [unit '='] := by
        rw [List.append_assoc]
        rfl
      rw [htwo, withoutPadding, if_pos List.getLast?_concat,
        List.dropLast_concat]
      simp only [List.getLast?_concat, if_true, List.dropLast_concat]

theorem mapM_base64Value {ns : List Nat} (h : ∀ n ∈ ns, n < 64) :
    (ns.map base64Char).mapM base64Value = some ns := by
  induction ns with
  | nil => rfl
  | cons n ns ih =>
      obtain ⟨hn, hns⟩ := List.forall_mem_cons.mp h
      rw [List.map_cons, List.mapM_cons, base64Value_base64Char hn, ih hns]
      rfl

theorem atob_padded {F : Type} (en : Engine F) {ns : List Nat}
    (h : ∀ n ∈ ns, n < 64) (hlen : ns.length % 4 ≠ 1) :
    atob en (ns.map base64Char ++
        List.replicate (padding ns.length) (unit '=')) =
      .ok ((sextetBytes ns).map (Fin.ofNat 65536)) := by
  have hspace : (ns.map base64Char ++
      List.replicate (padding ns.length) (unit '=')).filter
        (fun u => !isAsciiSpace u) =
      ns.map base64Char ++ List.replicate (padding ns.length) (unit '=') := by
    rw [List.filter_eq_self]
    intro u hu
    rcases List.mem_append.mp hu with hu | hu
    · obtain ⟨n, hn, rfl⟩ := List.mem_map.mp hu
      rw [isAsciiSpace_base64Char (h n hn)]
      rfl
    · rw [List.eq_of_mem_replicate hu]
      decide
  have hfour : (ns.map base64Char ++
      List.replicate (padding ns.length) (unit '=')).length % 4 = 0 := by
    rw [List.length_append, List.length_map, List.length_replicate, padding]
    omega
  have hlast : (ns.map base64Char).getLast? ≠ some (unit '=') := by
    intro heq
    obtain ⟨n, hn, heq⟩ := List.mem_map.mp (List.mem_of_getLast? heq)
    exact base64Char_ne_pad (h n hn) heq
  have hpad : padding ns.length ≤ 2 := by
    unfold padding
    omega
  simp only [atob, hspace, hfour, if_true, withoutPadding_append hpad hlast,
    List.length_map, if_neg hlen, mapM_base64Value h]

/-! ## The text of a run of bytes -/

theorem trimPadding_append {s : JsString} (hs : unit '=' ∉ s) (k : Nat) :
    trimPadding (s ++ List.replicate k (unit '=')) = s := by
  have hpad : ∀ u ∈ List.replicate k (unit '='),
      decide (u = unit '=') = true :=
    fun u hu => decide_eq_true (List.eq_of_mem_replicate hu)
  have hkeep : s.reverse.dropWhile (fun u => u = unit '=') = s.reverse := by
    apply List.dropWhile_eq_self_iff.mpr
    intro hne heq
    have hmem := List.mem_reverse.mp (List.getElem_mem hne)
    rw [of_decide_eq_true heq] at hmem
    exact hs hmem
  rw [trimPadding, List.reverse_append, List.reverse_replicate,
    List.dropWhile_append_of_pos hpad, hkeep, List.reverse_reverse]

theorem lt_of_mem_toNat (bytes : List UInt8) :
    ∀ x ∈ bytes.map UInt8.toNat, x < 256 := by
  intro x hx
  obtain ⟨v, -, rfl⟩ := List.mem_map.mp hx
  exact v.toNat_lt

/-- **The text has a character for each sextet**, and no padding. -/
theorem bytesToB64u_eq (bytes : List UInt8) :
    bytesToB64u bytes = (sextets (bytes.map UInt8.toNat)).map urlChar := by
  have hlt := sextets_lt (lt_of_mem_toNat bytes)
  have hbin : (bytes.map fun v => Fin.ofNat 65536 v.toNat).map Fin.val =
      bytes.map UInt8.toNat := by
    rw [List.map_map]
    apply List.map_congr_left
    intro v _
    have hv := v.toNat_lt
    exact Nat.mod_eq_of_lt (by omega)
  have hchars : (((sextets (bytes.map UInt8.toNat)).map base64Char).map
      fun u => if u = unit '+' then unit '-' else u).map
        (fun u => if u = unit '/' then unit '_' else u) =
      (sextets (bytes.map UInt8.toNat)).map urlChar := by
    rw [List.map_map, List.map_map]
    exact List.map_congr_left fun n hn => urlChar_eq (hlt n hn)
  have hpad : unit '=' ∉ (sextets (bytes.map UInt8.toNat)).map urlChar := by
    intro hmem
    obtain ⟨n, hn, heq⟩ := List.mem_map.mp hmem
    exact urlChar_ne_pad (hlt n hn) heq
  rw [bytesToB64u, btoa, hbin, base64Text_eq, List.map_append, List.map_append,
    hchars, List.map_replicate, List.map_replicate]
  exact trimPadding_append hpad _

section Browser

variable {F : Type} (b : Browser F)

/-- **A text of sextets is read as their bytes**, unless its length is one more
than a multiple of four. -/
theorem b64uToBytes_eq {ns : List Nat} (h : ∀ n ∈ ns, n < 64)
    (hlen : ns.length % 4 ≠ 1) :
    b64uToBytes b (.string (ns.map urlChar)) =
      .ok ((sextetBytes ns).map UInt8.ofNat) := by
  have hchars : ((ns.map urlChar).map
      fun u => if u = unit '-' then unit '+' else u).map
        (fun u => if u = unit '_' then unit '/' else u) =
      ns.map base64Char := by
    rw [List.map_map, List.map_map]
    exact List.map_congr_left fun n hn => base64Char_eq (h n hn)
  have hbytes : ((sextetBytes ns).map (Fin.ofNat 65536)).map
      (fun u => UInt8.ofNat u.val) = (sextetBytes ns).map UInt8.ofNat := by
    rw [List.map_map]
    apply List.map_congr_left
    intro n _
    apply UInt8.toNat_inj.mp
    show n % 65536 % 256 = n % 256
    omega
  simp only [b64uToBytes, hchars, List.length_map]
  rw [← padding, atob_padded b.toEngine h hlen]
  exact congrArg Except.ok hbytes

theorem b64uToBytes_bytesToB64u (bytes : List UInt8) :
    b64uToBytes b (.string (bytesToB64u bytes)) = .ok bytes := by
  have hlt := lt_of_mem_toNat bytes
  have hbytes : (bytes.map UInt8.toNat).map UInt8.ofNat = bytes := by
    rw [List.map_map]
    exact List.map_id'' (fun v => UInt8.ofNat_toNat) bytes
  rw [bytesToB64u_eq, b64uToBytes_eq b (sextets_lt hlt) (sextets_length_mod _),
    sextetBytes_sextets hlt, hbytes]

/-- **Every run of bytes has a text of URL-safe characters, without padding, that
is read as these bytes.** -/
theorem base64url_roundTrip (bytes : List UInt8) :
    (∀ u ∈ bytesToB64u bytes, u ∈ urlAlphabet) ∧
      b64uToBytes b (.string (bytesToB64u bytes)) = .ok bytes := by
  refine ⟨?_, b64uToBytes_bytesToB64u b bytes⟩
  intro u hu
  rw [bytesToB64u_eq] at hu
  obtain ⟨n, hn, rfl⟩ := List.mem_map.mp hu
  exact urlChar_mem (sextets_lt (lt_of_mem_toNat bytes) n hn)

end Browser

end RenderEngine.Ports.Base64url
