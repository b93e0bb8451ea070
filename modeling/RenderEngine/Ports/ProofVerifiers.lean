import RenderEngine.Ports.MerkleProof
import RenderEngine.Ports.OfflineVerify
import RenderEngine.Ports.SeedWriter
import RenderEngine.Verified.Doubles

/-!
# The three folds of a Merkle proof

`verify_proof` of the server and the two `reconstructRoot` of the offline
verifiers fold a leaf up its siblings.  Rust counts in `usize`, whose
additions may be checked; JavaScript in doubles, whose divisions round.  Two
of the folds carry the length of the layer along and never look at it.

## Main results

* `verifiers_agree`: on a safe index the three folds give one root, whatever
  leaf counts are passed.
-/

namespace RenderEngine.Ports.ProofVerifiers

open RenderEngine.Ports.CoreTypes
open RenderEngine.Ports.MerkleProof
open RenderEngine.Ports.OfflineVerify
open RenderEngine.Ports.SeedWriter
open RenderEngine.Verified.Doubles

/-! ## Rust, with overflow checks -/

section Checked

variable {D : Type} (pair : D → D → D)

/-- The loop of `verify_proof` where `layer_count += 1` is checked. -/
def verifyLoopChecked : D → Nat → Nat → List D → Outcome D
  | current, _, _, [] => return current
  | current, idx, layerCount, sibling :: rest => do
      let layerCount ←
        if layerCount % 2 = 1 then
          if layerCount + 1 = 2 ^ 64 then throw .panic
          else pure (layerCount + 1)
        else pure layerCount
      let current :=
        if idx % 2 = 0 then pair current sibling else pair sibling current
      verifyLoopChecked current (idx / 2) (layerCount / 2) rest

/-- `verify_proof` with overflow checks. -/
def verifyProofChecked [DecidableEq D] (contentHash : D)
    (leafIdx leafCount : Nat) (proof : List D) (expectedRoot : D) :
    Outcome Bool := do
  let current ← verifyLoopChecked pair contentHash leafIdx leafCount proof
  return decide (current = expectedRoot)

/-- Only the largest `usize` overflows, and a halved count is below it. -/
theorem verifyLoopChecked_eq {current : D} {idx layerCount : Nat}
    (hcount : layerCount < 2 ^ 64 - 1) (proof : List D) :
    verifyLoopChecked pair current idx layerCount proof =
      .ok (verifyLoop pair current idx layerCount proof) := by
  induction proof generalizing current idx layerCount with
  | nil => rfl
  | cons sibling rest ih =>
      by_cases hodd : layerCount % 2 = 1
      · have hnext : (layerCount + 1) % 2 ^ 64 = layerCount + 1 :=
          Nat.mod_eq_of_lt (by omega)
        simp only [verifyLoopChecked, verifyLoop, if_pos hodd, hnext]
        rw [if_neg (by omega)]
        exact ih (by omega)
      · simp only [verifyLoopChecked, verifyLoop, if_neg hodd]
        exact ih (by omega)

theorem verifyProofChecked_eq [DecidableEq D] (contentHash : D) (leafIdx : Nat)
    {leafCount : Nat} (hcount : leafCount < 2 ^ 64 - 1) (proof : List D)
    (expectedRoot : D) :
    verifyProofChecked pair contentHash leafIdx leafCount proof expectedRoot =
      .ok (verifyProof pair contentHash leafIdx leafCount proof
        expectedRoot) := by
  rw [verifyProofChecked, verifyLoopChecked_eq pair hcount]
  rfl

end Checked

/-! ## JavaScript, in doubles -/

section Doubles

variable (R : Rounding) (blake3 : List UInt8 → List UInt8)

/-- `reconstructRoot` of `demo/verify.js`, its index a double. -/
def Demo.reconstructRootDouble :
    List UInt8 → List (List UInt8) → ℚ → List UInt8
  | node, [], _ => node
  | node, sib :: siblings, idx =>
      let combined := if rem idx 2 = 1 then concat sib node else concat node sib
      reconstructRootDouble (blake3 combined) siblings ⌊R.div idx 2⌋

/-- `reconstructRoot` of `client.ts`, its index and layer length doubles. -/
def Client.reconstructRootDouble :
    List UInt8 → List (List UInt8) → ℚ → ℚ → List UInt8
  | node, [], _, _ => node
  | node, sib :: siblings, idx, lenAtLayer =>
      let isRight := rem idx 2 = 1
      let combined := if isRight then concat sib node else concat node sib
      reconstructRootDouble (blake3 combined) siblings ⌊R.div idx 2⌋
        ⌈R.div lenAtLayer 2⌉

/-- On a safe index the doubles are the natural numbers. -/
theorem Demo.reconstructRootDouble_eq (node : List UInt8)
    (siblings : List (List UInt8)) {idx : Nat} (hidx : idx < 2 ^ 53) :
    Demo.reconstructRootDouble R blake3 node siblings idx =
      Demo.reconstructRoot blake3 node siblings idx := by
  induction siblings generalizing node idx with
  | nil => rfl
  | cons sib siblings ih =>
      have hparity : rem (idx : ℚ) 2 = 1 ↔ idx % 2 = 1 := by
        rw [rem_two]
        exact Nat.cast_eq_one
      simp only [Demo.reconstructRootDouble, Demo.reconstructRoot, hparity,
        R.floor_div_two hidx]
      exact ih _ (by omega)

/-- The layer's length plays no part in the root. -/
theorem Client.reconstructRootDouble_eq (node : List UInt8)
    (siblings : List (List UInt8)) (idx lenAtLayer : ℚ) :
    Client.reconstructRootDouble R blake3 node siblings idx lenAtLayer =
      Demo.reconstructRootDouble R blake3 node siblings idx := by
  induction siblings generalizing node idx lenAtLayer with
  | nil => rfl
  | cons sib siblings ih => exact ih _ _ _

end Doubles

/-! ## The three folds -/

section Agreement

variable (blake3 : List UInt8 → HexBytes32)

/-- `blake3(left || right)`. -/
def hashPair (left right : HexBytes32) : HexBytes32 :=
  blake3 (left.bytes ++ right.bytes)

/-- `blake3` of the JavaScript library. -/
def hashBytes (bytes : List UInt8) : List UInt8 := (blake3 bytes).bytes

/-- The fold of the demo is that of the server, byte for byte. -/
theorem reconstructRoot_demo (leaf : HexBytes32) (siblings : List HexBytes32)
    (idx leafCount : Nat) :
    Demo.reconstructRoot (hashBytes blake3) leaf.bytes
        (siblings.map HexBytes.bytes) idx =
      (verifyLoop (hashPair blake3) leaf idx leafCount siblings).bytes := by
  induction siblings generalizing leaf idx leafCount with
  | nil => rfl
  | cons sib siblings ih =>
      simp only [List.map_cons, Demo.reconstructRoot, verifyLoop]
      rcases Nat.mod_two_eq_zero_or_one idx with hidx | hidx
      · rw [if_neg (by omega), if_pos hidx]
        exact ih (hashPair blake3 leaf sib) _ _
      · rw [if_pos hidx, if_neg (by omega)]
        exact ih (hashPair blake3 sib leaf) _ _

/-- **The three verifiers fold a proof to one root**, and accept it against
the same roots. -/
theorem verifiers_agree (R : Rounding) (leaf : HexBytes32)
    (siblings : List HexBytes32) {idx : Nat} (hidx : idx < 2 ^ 53)
    {leafCount : Nat} (hcount : leafCount < 2 ^ 64 - 1) (layerLength : ℚ) :
    ∃ root : HexBytes32,
      verifyLoopChecked (hashPair blake3) leaf idx leafCount siblings =
        .ok root ∧
      Client.reconstructRootDouble R (hashBytes blake3) leaf.bytes
        (siblings.map HexBytes.bytes) idx layerLength = root.bytes ∧
      Demo.reconstructRootDouble R (hashBytes blake3) leaf.bytes
        (siblings.map HexBytes.bytes) idx = root.bytes ∧
      ∀ expected : HexBytes32,
        (verifyProofChecked (hashPair blake3) leaf idx leafCount siblings
            expected = .ok true ↔ root = expected) ∧
        (bytesEqual (Client.reconstructRootDouble R (hashBytes blake3)
            leaf.bytes (siblings.map HexBytes.bytes) idx layerLength)
            expected.bytes = true ↔ root = expected) ∧
        (bytesEqual (Demo.reconstructRootDouble R (hashBytes blake3)
            leaf.bytes (siblings.map HexBytes.bytes) idx)
            expected.bytes = true ↔ root = expected) := by
  have hdemo := Demo.reconstructRootDouble_eq R (hashBytes blake3) leaf.bytes
    (siblings.map HexBytes.bytes) hidx
  rw [reconstructRoot_demo blake3 leaf siblings idx leafCount] at hdemo
  have hclient := (Client.reconstructRootDouble_eq R (hashBytes blake3)
    leaf.bytes (siblings.map HexBytes.bytes) idx layerLength).trans hdemo
  refine ⟨_, verifyLoopChecked_eq _ hcount siblings, hclient, hdemo, ?_⟩
  intro expected
  rw [verifyProofChecked_eq _ leaf idx hcount, hclient, hdemo, bytesEqual_iff,
    Except.ok.injEq, verifyProof, decide_eq_true_iff]
  exact ⟨Iff.rfl, HexBytes.bytes_injective.eq_iff,
    HexBytes.bytes_injective.eq_iff⟩

end Agreement

theorem verifiers_agree_two_leaves :
    ∃ root : HexBytes32,
      verifyLoopChecked (hashPair checksum) (HexBytes.zero 32) 1 2
        [HexBytes.zero 32] = .ok root ∧
      Client.reconstructRootDouble .exact (hashBytes checksum)
        (HexBytes.zero 32).bytes [(HexBytes.zero 32).bytes] ((1 : Nat) : ℚ) 2 =
        root.bytes ∧
      Demo.reconstructRootDouble .exact (hashBytes checksum)
        (HexBytes.zero 32).bytes [(HexBytes.zero 32).bytes] ((1 : Nat) : ℚ) =
        root.bytes := by
  have hidx : 1 < 2 ^ 53 := by decide
  have hcount : 2 < 2 ^ 64 - 1 := by decide
  obtain ⟨root, hserver, hclient, hdemo, -⟩ := verifiers_agree checksum .exact
    (HexBytes.zero 32) [HexBytes.zero 32] hidx hcount 2
  exact ⟨root, hserver, hclient, hdemo⟩

end RenderEngine.Ports.ProofVerifiers
