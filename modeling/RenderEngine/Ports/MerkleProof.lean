import RenderEngine.Ports.CoreTypes
import RenderEngine.Verified.PairTree

/-!
# Merkle roots, proofs and their verification

The seeder's `merkle_root` (`seed-data/src/main.rs`), the server's
`proof_for` and the library's `verify_proof` (`mobydb-client/src/merkle.rs`).
The three are separate loops in two crates: the seeder folds whole layers,
the server carries an index beside the layer, the verifier carries neither
layer nor length that it reads.  Each is tied to `PairTree` by one lemma
(`merkleRoot_spec`, `proofFor_spec`, `verifyLoop_eq_climb`), after which the
loops are not looked at again.

`blake3(left || right)` is the parameter `pair`; the node type is `[u8; 32]`
in the source and arbitrary here wherever the code does not read bytes.

## Main results

* `inclusionSound_iff`: what an accepted proof establishes about its leaf.
* `verifyProof_binds`: what a root alone establishes about a position.
* `merkleRoot_eq_iff`: what a root establishes about the leaves, together with
  their number.
-/

namespace RenderEngine.Ports.MerkleProof

open RenderEngine.Ports.CoreTypes
open RenderEngine.Verified.PairTree

section Loops

variable {D : Type} (pair : D → D → D)

/-- Pad an odd layer by duplicating its last element. -/
def padOdd (layer : List D) : List D :=
  if layer.length % 2 = 1 then layer ++ layer.getLast?.toList else layer

/-- Hash the chunks of two of a layer.  `chunk[1]` of a lone last chunk would
panic. -/
def hashPairs : List D → Outcome (List D)
  | [] => .ok []
  | [_] => .error .panic
  | a :: b :: rest => do
      let next ← hashPairs rest
      return pair a b :: next

/-- `while layer.len() > 1` of `merkle_root`, with a bound on its rounds. -/
def hashLayers : Nat → List D → Outcome (List D)
  | 0, layer => .ok layer
  | fuel + 1, layer =>
      if layer.length > 1 then do
        let next ← hashPairs pair (padOdd layer)
        hashLayers fuel next
      else .ok layer

/-- `merkle_root` of the seeder; `zero` is `[0u8; 32]`. -/
def merkleRoot (zero : D) (leaves : List D) : Outcome D :=
  if leaves.isEmpty then .ok zero
  else do
    let layer ← hashLayers pair leaves.length leaves
    match layer with
    | root :: _ => return root
    | [] => .error .panic

/-- The index of a node's sibling in a padded layer. -/
def siblingIdx (idx : Nat) : Nat := if idx % 2 = 0 then idx + 1 else idx - 1

/-- `while layer.len() > 1` of `proof_for`, with a bound on its rounds:
`layer[sibling_idx]` is the indexing that could panic. -/
def proofLoop : Nat → List D → Nat → List D → Outcome (List D)
  | 0, _, _, proof => .ok proof
  | fuel + 1, layer, idx, proof =>
      if layer.length > 1 then
        let padded := padOdd layer
        match padded[siblingIdx idx]? with
        | none => .error .panic
        | some sibling => do
            let next ← hashPairs pair padded
            proofLoop fuel next (idx / 2) (proof ++ [sibling])
      else .ok proof

/-- The loop of `verify_proof`.  `layer_count` is a `usize` that is updated
each round and never consulted. -/
def verifyLoop : D → Nat → Nat → List D → D
  | current, _, _, [] => current
  | current, idx, layerCount, sibling :: rest =>
      let layerCount :=
        if layerCount % 2 = 1 then (layerCount + 1) % 2 ^ 64 else layerCount
      let current :=
        if idx % 2 = 0 then pair current sibling else pair sibling current
      verifyLoop current (idx / 2) (layerCount / 2) rest

/-- `verify_proof`. -/
def verifyProof [DecidableEq D] (contentHash : D) (leafIdx leafCount : Nat)
    (proof : List D) (expectedRoot : D) : Bool :=
  decide (verifyLoop pair contentHash leafIdx leafCount proof = expectedRoot)

/-! ## The loops compute the pair tree -/

theorem padOdd_cons_cons (a b : D) (rest : List D) :
    padOdd (a :: b :: rest) = a :: b :: padOdd rest := by
  unfold padOdd
  rw [show (a :: b :: rest).length % 2 = rest.length % 2 by
    simp only [List.length_cons]; omega]
  split
  · next hodd =>
    have hne : rest ≠ [] := by
      rintro rfl
      simp at hodd
    rw [List.getLast?_cons_of_ne_nil (by simp),
      List.getLast?_cons_of_ne_nil hne]
    rfl
  · rfl

/-- One round of either loop builds the next layer of the tree. -/
theorem hashPairs_padOdd : ∀ layer : List D,
    hashPairs pair (padOdd layer) = .ok (level pair layer)
  | [] => rfl
  | [_] => rfl
  | a :: b :: rest => by
      rw [padOdd_cons_cons, hashPairs, hashPairs_padOdd rest]
      rfl

theorem hashLayers_eq (fuel : Nat) (layer : List D)
    (hfuel : Nat.clog 2 layer.length ≤ fuel) :
    hashLayers pair fuel layer =
      .ok (levels pair (Nat.clog 2 layer.length) layer) := by
  induction fuel generalizing layer with
  | zero =>
      rw [Nat.le_zero.mp hfuel]
      rfl
  | succ fuel ih =>
      unfold hashLayers
      by_cases hlen : layer.length > 1
      · rw [clog_succ hlen] at hfuel ⊢
        rw [if_pos hlen, hashPairs_padOdd]
        simp only [levels]
        rw [← level_length pair layer]
        refine ih (level pair layer) ?_
        rw [level_length]
        omega
      · rw [if_neg hlen, Nat.clog_of_right_le_one (by omega)]
        rfl

/-- `merkle_root` never panics and is the root of the pair tree. -/
theorem merkleRoot_spec (zero : D) (leaves : List D) (hne : leaves ≠ []) :
    ∃ r, root? pair leaves = some r ∧
      merkleRoot pair zero leaves = .ok r := by
  obtain ⟨r, hr, htop⟩ := exists_root pair leaves hne
  refine ⟨r, hr, ?_⟩
  have hfuel : Nat.clog 2 leaves.length ≤ leaves.length :=
    Nat.clog_le_of_le_pow (Nat.lt_two_pow_self).le
  rw [merkleRoot, if_neg (by simpa using hne),
    hashLayers_eq pair _ _ hfuel, htop]
  rfl

/-- `merkle_root` never panics. -/
theorem merkleRoot_total (zero : D) (leaves : List D) :
    ∃ r, merkleRoot pair zero leaves = .ok r := by
  cases leaves with
  | nil => exact ⟨zero, rfl⟩
  | cons leaf leaves =>
      rcases merkleRoot_spec pair zero (leaf :: leaves) (List.cons_ne_nil _ _)
        with ⟨r, -, hok⟩
      exact ⟨r, hok⟩

/-- The root `merkle_root` returns. -/
def rootOf (zero : D) (leaves : List D) : D :=
  match merkleRoot pair zero leaves with
  | .ok r => r
  | .error _ => zero

theorem merkleRoot_eq_rootOf (zero : D) (leaves : List D) :
    merkleRoot pair zero leaves = .ok (rootOf pair zero leaves) := by
  rcases merkleRoot_total pair zero leaves with ⟨r, hr⟩
  rw [rootOf, hr]

theorem root?_of_merkleRoot {zero : D} {leaves : List D}
    (hne : leaves ≠ []) {r : D} (h : merkleRoot pair zero leaves = .ok r) :
    root? pair leaves = some r := by
  obtain ⟨r', hr', hok⟩ := merkleRoot_spec pair zero leaves hne
  rw [hr', Except.ok.inj (hok.symm.trans h)]

/-- The sibling read from the padded layer is the tree's. -/
theorem padOdd_sibling (layer : List D) {idx : Nat} (hidx : idx < layer.length) :
    (padOdd layer)[siblingIdx idx]? =
      padAt layer (2 * (idx / 2) + (1 - idx % 2)) := by
  have hsib : siblingIdx idx = 2 * (idx / 2) + (1 - idx % 2) := by
    unfold siblingIdx
    split <;> omega
  rw [hsib]
  unfold padOdd padAt
  by_cases hodd : layer.length % 2 = 1
  · rw [if_pos hodd]
    by_cases hlt : 2 * (idx / 2) + (1 - idx % 2) < layer.length
    · rw [List.getElem?_append_left hlt, Nat.min_eq_left (by omega)]
    · have hlast : 2 * (idx / 2) + (1 - idx % 2) = layer.length := by omega
      rw [hlast, List.getElem?_append_right (Nat.le_refl _), Nat.sub_self,
        Nat.min_eq_right (by omega), ← List.getLast?_eq_getElem?]
      cases layer.getLast? <;> rfl
  · rw [if_neg hodd, Nat.min_eq_left (by omega)]

/-- `proof_for`'s loop, started at a leaf of the layer, never indexes out of
range and appends the tree's path. -/
theorem proofLoop_eq (fuel : Nat) (layer : List D) (idx : Nat) (proof : List D)
    (hfuel : Nat.clog 2 layer.length ≤ fuel) (hidx : idx < layer.length) :
    proofLoop pair fuel layer idx proof =
      .ok (proof ++ path pair (Nat.clog 2 layer.length) layer idx) := by
  induction fuel generalizing layer idx proof with
  | zero =>
      rw [Nat.le_zero.mp hfuel, proofLoop, path, List.append_nil]
  | succ fuel ih =>
      unfold proofLoop
      by_cases hlen : layer.length > 1
      · rw [clog_succ hlen] at hfuel ⊢
        have hhalf : idx / 2 < (layer.length + 1) / 2 := by omega
        have hslot : slot ((layer.length + 1) / 2)
            (Nat.clog 2 ((layer.length + 1) / 2)) (idx / 2) = idx / 2 :=
          slot_of_lt (Nat.le_pow_clog (by decide) _) hhalf
        obtain ⟨sibling, hsibling⟩ := exists_padAt layer
          (List.length_pos_iff.mp (by omega)) (2 * (idx / 2) + (1 - idx % 2))
        rw [if_pos hlen, path, hslot]
        simp only [padOdd_sibling layer hidx, hsibling, hashPairs_padOdd]
        have hrest := ih (level pair layer) (idx / 2) (proof ++ [sibling])
          (by rw [level_length]; omega) (by rw [level_length]; exact hhalf)
        rw [level_length] at hrest
        simpa using hrest
      · rw [if_neg hlen, Nat.clog_of_right_le_one (by omega), path,
          List.append_nil]

/-- `verify_proof` folds the leaf up the proof; the leaf count does not
matter to it. -/
theorem verifyLoop_eq_climb (c : D) (idx layerCount : Nat) (proof : List D) :
    verifyLoop pair c idx layerCount proof = climb pair c idx proof := by
  induction proof generalizing c idx layerCount with
  | nil => rfl
  | cons sibling rest ih => exact ih _ _ _

theorem verifyProof_eq_true_iff [DecidableEq D] (c : D) (idx count : Nat)
    (proof : List D) (root : D) :
    verifyProof pair c idx count proof root = true ↔
      climb pair c idx proof = root := by
  rw [verifyProof, decide_eq_true_iff, verifyLoop_eq_climb]

/-- The tree's own path from a leaf is accepted, whatever leaf count is
passed, and has one sibling for each layer. -/
theorem verifyProof_path [DecidableEq D] {zero : D} {leaves : List D} {i : Nat}
    {c root : D} (hc : leaves[i]? = some c)
    (hroot : merkleRoot pair zero leaves = .ok root) (count : Nat) :
    verifyProof pair c i count (path pair (Nat.clog 2 leaves.length) leaves i)
        root = true ∧
      (path pair (Nat.clog 2 leaves.length) leaves i).length =
        Nat.clog 2 leaves.length := by
  have hi : i < leaves.length := (List.getElem?_eq_some_iff.mp hc).1
  have hne : leaves ≠ [] := List.length_pos_iff.mp (by omega)
  have hr := root?_of_merkleRoot pair hne hroot
  rcases exists_root pair leaves hne with ⟨r, hr', htop⟩
  rcases climb_path pair htop hne i with ⟨leaf, hleaf, hclimb, hlen⟩
  rw [slot_of_lt (Nat.le_pow_clog (by decide) _) hi, hc] at hleaf
  cases hleaf
  rw [hr'] at hr
  cases hr
  exact ⟨(verifyProof_eq_true_iff pair c i count _ root).mpr hclimb, hlen⟩

end Loops

/-! ## `proof_for` -/

/-- The conversion of one stored leaf hash to `[u8; 32]`. -/
def leafHash (h : List UInt8) : Outcome HexBytes32 :=
  if hlen : h.length = 32 then .ok ⟨h, hlen⟩
  else .error (.core (.other
    ("leaf hash wrong length: ".toList ++ decimal h.length)))

@[simp] theorem leafHash_bytes (h : HexBytes32) : leafHash h.bytes = .ok h := by
  simp [leafHash, h.length_eq]

/-- `proof_for`. -/
def proofFor (pair : HexBytes32 → HexBytes32 → HexBytes32)
    (orderedLeaves : List (Int × List UInt8)) (targetH3 : Int) :
    Outcome (List HexBytes32) :=
  if orderedLeaves.isEmpty then
    .error (.core (.other "empty epoch: no leaves".toList))
  else
    match orderedLeaves.findIdx? (fun leaf => leaf.1 == targetH3) with
    | none => .error (.core (.other ("target h3 ".toList
        ++ hexLower (BitVec.ofInt 64 targetH3).toNat
        ++ " not in epoch leaf set".toList)))
    | some targetIdx => do
        let layer ← orderedLeaves.mapM (fun leaf => leafHash leaf.2)
        proofLoop pair layer.length layer targetIdx []

/-- On leaves of 32 bytes that contain the target, `proof_for` returns the
tree's path from the target's position. -/
theorem proofFor_spec (pair : HexBytes32 → HexBytes32 → HexBytes32)
    (leaves : List (Int × HexBytes32)) (targetH3 : Int) {i : Nat}
    (hi : i < leaves.length)
    (hfind : leaves.findIdx? (fun leaf => leaf.1 == targetH3) = some i) :
    proofFor pair (leaves.map fun leaf => (leaf.1, leaf.2.bytes)) targetH3 =
      .ok (path pair (Nat.clog 2 leaves.length) (leaves.map Prod.snd) i) := by
  have hne : leaves ≠ [] := List.length_pos_iff.mp (by omega)
  have hmap : (leaves.map fun leaf => (leaf.1, leaf.2.bytes)).mapM
      (fun leaf => leafHash leaf.2) = .ok (leaves.map Prod.snd) := by
    rw [List.mapM_map]
    exact Outcome.mapM_ok _ _ _ (fun leaf _ => leafHash_bytes leaf.2)
  have hlen : (leaves.map Prod.snd).length = leaves.length := List.length_map ..
  rw [proofFor, if_neg (by simpa using hne), List.findIdx?_map]
  simp only [Function.comp_def, hfind, hmap]
  have hloop := proofLoop_eq pair leaves.length (leaves.map Prod.snd) i []
    (by rw [hlen]; exact Nat.clog_le_of_le_pow Nat.lt_two_pow_self.le)
    (by rw [hlen]; exact hi)
  rw [hlen] at hloop
  simpa [hlen] using hloop

/-! ## What an accepted proof establishes -/

section Soundness

variable {D : Type} [DecidableEq D] (pair : D → D → D) (zero : D)

/-- A digest the pair hash never produces. -/
def IsLeaf (x : D) : Prop := ∀ a b, pair a b ≠ x

/-- Inclusion soundness of one position: whatever leaf and proof are accepted
there, the position exists and holds that leaf. -/
def InclusionSound (leaves : List D) (i : Nat) : Prop :=
  ∀ (c : D) (p : List D) (root : D), IsLeaf pair c →
    merkleRoot pair zero leaves = .ok root →
    verifyProof pair c i leaves.length p root = true →
    i < leaves.length ∧ leaves[i]? = some c

/-- **Inclusion soundness holds at the positions that exist and at no other.**
Below the leaf count an accepted proof is the tree's own.  At or above it the
low bits of the index still name a leaf, and its path is accepted there. -/
theorem inclusionSound_iff (hinj : Function.Injective2 pair)
    (leaves : List D) (hne : leaves ≠ [])
    (hleaves : ∀ x ∈ leaves, IsLeaf pair x) (i : Nat) :
    InclusionSound pair zero leaves i ↔ i < leaves.length := by
  obtain ⟨root, hroot, hok⟩ := merkleRoot_spec pair zero leaves hne
  obtain ⟨root', hroot', htop⟩ := exists_root pair leaves hne
  obtain rfl : root' = root := Option.some.inj (hroot'.symm.trans hroot)
  constructor
  · intro hsound
    obtain ⟨leaf, hleaf, hclimb, -⟩ := climb_path pair htop hne i
    have hmem : leaf ∈ leaves := List.mem_of_getElem? hleaf
    exact (hsound leaf _ root' (hleaves leaf hmem) hok
      ((verifyProof_eq_true_iff pair leaf i _ _ _).mpr hclimb)).1
  · intro hi c p r hc hr haccept
    obtain rfl : root' = r := Except.ok.inj (hok.symm.trans hr)
    rw [verifyProof_eq_true_iff] at haccept
    have hbind := (climb_eq_iff pair (IsLeaf pair) hinj
      (fun a b h => h a b rfl) hne hleaves hc i p hroot).mp haccept
    have hslot : slot leaves.length (Nat.clog 2 leaves.length) i = i :=
      slot_of_lt (Nat.le_pow_clog (by decide) _) hi
    rw [hslot] at hbind
    exact ⟨hi, hbind.1⟩

theorem inclusionSound_iff_symbolic :
    InclusionSound Symbolic.node (.leaf 0) [.leaf 1, .leaf 2, .leaf 3] 2 ↔
      2 < 3 :=
  inclusionSound_iff Symbolic.node (.leaf 0) Symbolic.node_injective2
    [.leaf 1, .leaf 2, .leaf 3] (by simp)
    (by
      intro x hx a b hab
      subst hab
      simp at hx)
    2

/-- Three leaves: the third one is accepted at index 3, the position of its
own padding copy. -/
theorem not_inclusionSound_padding :
    ¬ InclusionSound Symbolic.node (.leaf 0) [.leaf 1, .leaf 2, .leaf 3] 3 := by
  intro hsound
  have h := hsound (.leaf 3) [.leaf 3, .node (.leaf 1) (.leaf 2)]
    (.node (.node (.leaf 1) (.leaf 2)) (.node (.leaf 3) (.leaf 3)))
    (by intro a b h; cases h) (by decide) (by decide)
  exact absurd h.1 (by decide)

end Soundness

/-! ## What a root alone establishes -/

section Position

variable {D : Type} [DecidableEq D] (pair : D → D → D)

/-- Two accepted proofs of one length at one index are the same, unless two of
the pairs their folds hash collide. -/
theorem verifyProof_binds_of_joins {c c' root : D} {i count count' : Nat}
    {p p' : List D} (hlen : p.length = p'.length)
    (hjoins : ∀ x ∈ joins pair c i p, ∀ y ∈ joins pair c' i p',
      pair x.1 x.2 = pair y.1 y.2 → x = y)
    (h : verifyProof pair c i count p root = true)
    (h' : verifyProof pair c' i count' p' root = true) :
    c = c' ∧ p = p' := by
  rw [verifyProof_eq_true_iff] at h h'
  exact climb_binds_fold pair hlen hjoins (h.trans h'.symm)

/-- **A root binds the leaf and the proof at every position**, also a root
that no list of leaves has. -/
theorem verifyProof_binds (hinj : Function.Injective2 pair) {c c' root : D}
    {i count count' : Nat} {p p' : List D} (hlen : p.length = p'.length)
    (h : verifyProof pair c i count p root = true)
    (h' : verifyProof pair c' i count' p' root = true) :
    c = c' ∧ p = p' :=
  verifyProof_binds_of_joins pair hlen
    (fun _ _ _ _ hxy => Prod.ext_iff.mpr (hinj hxy)) h h'

theorem verifyProof_binds_symbolic :
    verifyProof Symbolic.node (.leaf 3) 1 2 [.leaf 4]
        (.node (.leaf 4) (.leaf 3)) = true ∧
      Symbolic.leaf 3 = .leaf 3 ∧ [Symbolic.leaf 4] = [.leaf 4] := by
  have haccept : verifyProof Symbolic.node (.leaf 3) 1 2 [.leaf 4]
      (.node (.leaf 4) (.leaf 3)) = true := by decide
  exact ⟨haccept, verifyProof_binds Symbolic.node Symbolic.node_injective2
    rfl haccept haccept⟩

end Position

/-! ## What a root and a leaf count establish -/

section Commitment

variable {D : Type} (pair : D → D → D) (zero : D)

/-- **A root and a leaf count commit to the leaves.**  Of two lists of one
length the roots are equal exactly when the lists are, whether or not layers
were padded on the way. -/
theorem merkleRoot_eq_iff (hinj : Function.Injective2 pair)
    {leaves others : List D} (hlen : leaves.length = others.length) :
    merkleRoot pair zero leaves = merkleRoot pair zero others ↔
      leaves = others := by
  constructor
  · intro h
    by_cases hne : leaves = []
    · rw [hne] at hlen ⊢
      exact (List.length_eq_zero_iff.mp hlen.symm).symm
    · have hne' : others ≠ [] := by
        rw [← List.length_pos_iff, ← hlen, List.length_pos_iff]
        exact hne
      obtain ⟨r, hr, hok⟩ := merkleRoot_spec pair zero leaves hne
      obtain ⟨r', hr', hok'⟩ := merkleRoot_spec pair zero others hne'
      obtain rfl : r = r' := Except.ok.inj (hok.symm.trans (h.trans hok'))
      exact root?_injective hinj hlen (hr.trans hr'.symm)
  · intro h
    rw [h]

theorem merkleRoot_eq_iff_symbolic :
    merkleRoot Symbolic.node (.leaf 0) [.leaf 1, .leaf 2, .leaf 3] =
        merkleRoot Symbolic.node (.leaf 0) [.leaf 1, .leaf 2, .leaf 4] ↔
      ([.leaf 1, .leaf 2, .leaf 3] : List Symbolic) =
        [.leaf 1, .leaf 2, .leaf 4] :=
  merkleRoot_eq_iff Symbolic.node (.leaf 0) Symbolic.node_injective2 rfl

/-- What the count adds to the root: a list and its padded form have one root,
and only the count tells them apart. -/
theorem merkleRoot_padOdd (leaves : List D) (hlen : 1 < leaves.length) :
    merkleRoot pair zero (padOdd leaves) = merkleRoot pair zero leaves := by
  by_cases hodd : leaves.length % 2 = 1
  · have hpad : (padOdd leaves).length = leaves.length + 1 := by
      rw [padOdd, if_pos hodd, List.length_append,
        List.getLast?_eq_some_getLast (List.length_pos_iff.mp (by omega))]
      rfl
    have hagain : padOdd (padOdd leaves) = padOdd leaves :=
      if_neg (by omega)
    have hlevel : level pair (padOdd leaves) = level pair leaves := by
      have h := hashPairs_padOdd pair (padOdd leaves)
      rw [hagain, hashPairs_padOdd] at h
      exact (Except.ok.inj h).symm
    have hroot : root? pair (padOdd leaves) = root? pair leaves := by
      rw [root?, root?, hpad, clog_succ (by omega : 1 < leaves.length + 1),
        clog_succ hlen, levels, levels, hlevel,
        (by omega : (leaves.length + 1 + 1) / 2 = (leaves.length + 1) / 2)]
    obtain ⟨r, hr, hok⟩ := merkleRoot_spec pair zero (padOdd leaves)
      (List.length_pos_iff.mp (by omega))
    obtain ⟨r', hr', hok'⟩ := merkleRoot_spec pair zero leaves
      (List.length_pos_iff.mp (by omega))
    obtain rfl : r = r' :=
      Option.some.inj (hr.symm.trans (hroot.trans hr'))
    rw [hok, hok']
  · rw [padOdd, if_neg hodd]

end Commitment

end RenderEngine.Ports.MerkleProof
