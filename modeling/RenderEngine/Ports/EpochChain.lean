import RenderEngine.Ports.SeedWriter
import RenderEngine.Verified.StepRun

/-!
# The chain of epoch roots

`main` carries the root that `write_epoch` returns into the next call as
`parent_root`.  The returned root is that of the call's own list, also where
the epoch was there already and its stored root is another one.

The first part follows the epochs table over sequences of seeder runs, each
of which may stop early and bring its own list.  The second part asks what
the last epoch of a chain says about the earlier ones.

## Main results

* `findEpoch_seedLoop`: the epochs table after a run.
* `linked_throughout_iff`: a sequence of runs keeps the chain linked exactly
  when each run that extends it computes the stored root of the last epoch.
* `findEpoch_runHistory`: a run for a new tenant stores the chain of its
  history.
* `head_pins_last_two`: the head of a chain fixes its last two roots and no
  earlier one.
-/

namespace RenderEngine.Ports.EpochChain

open RenderEngine.Ports.CoreTypes
open RenderEngine.Ports.Schema
open RenderEngine.Ports.MerkleProof
open RenderEngine.Ports.SeedWriter
open RenderEngine.Verified.KeyedRows
open RenderEngine.Verified.PairTree
open RenderEngine.Verified.StepRun

/-! ## Sequences of seeder runs -/

section Runs

variable {F N : Type} (lib : Libraries F N)
variable (pair : HexBytes32 → HexBytes32 → HexBytes32) (tenant : TenantId)

/-- The root a run computes for an epoch from its own list. -/
def runRoot (r : SeederRun F) (epochId : Int) : HexBytes32 :=
  rootOf pair (HexBytes.zero 32) ((r.call tenant epochId none).hashes lib)

/-- The row a loop that started at `start` with `parentRoot` writes for an
epoch. -/
def loopRow (r : SeederRun F) (start : Int) (parentRoot : Option HexBytes32)
    (epochId : Int) : EpochRow :=
  let parent := if epochId = start then parentRoot
    else some (runRoot lib pair tenant r (epochId - 1))
  (r.call tenant epochId parent).epochRow lib (runRoot lib pair tenant r epochId)

/-- A call adds its epoch row where there was none. -/
theorem findEpoch_writeEpoch {db db' : Database N} {call : EpochCall F}
    {root : HexBytes32} (h : writeEpoch lib pair db call = .ok (db', root))
    (t : TenantId) (j : Int) :
    db'.findEpoch t j = (db.findEpoch t j).or
      (if (t, j) = (call.tenant, call.epochId)
        then some (call.epochRow lib root) else none) := by
  have hcases := (writeEpoch_cases lib pair h).2.2.2
  rcases hcases with ⟨⟨row, hfind⟩, hepochs⟩ | ⟨-, hepochs⟩
  · have hsame : db'.findEpoch t j = db.findEpoch t j := by
      rw [Database.findEpoch, Database.findEpoch, hepochs]
    rw [hsame]
    split_ifs with hkey
    · rw [(Prod.mk.inj hkey).1, (Prod.mk.inj hkey).2, hfind]
      rfl
    · rw [Option.or_none]
  · rw [Database.findEpoch, Database.findEpoch, findKey, findKey, hepochs,
      List.find?_append]
    congr 1
    rw [List.find?_singleton]
    apply if_congr _ rfl rfl
    rw [decide_eq_true_eq]
    exact eq_comm

/-- **The epochs table after the loop.**  Rows that were there stay; the
epochs of the loop that were missing get its rows. -/
theorem findEpoch_seedLoop {r : SeederRun F} {n : Nat} {start : Int}
    {parentRoot : Option HexBytes32} {db db' : Database N}
    (h : seedLoop lib pair tenant r n start parentRoot db = .ok db') (j : Int) :
    db'.findEpoch tenant j = (db.findEpoch tenant j).or
      (if start ≤ j ∧ j < start + n
        then some (loopRow lib pair tenant r start parentRoot j)
        else none) := by
  induction n generalizing start parentRoot db with
  | zero =>
      cases h
      rw [if_neg (by omega), Option.or_none]
  | succ n ih =>
      simp only [seedLoop] at h
      cases hcall : writeEpoch lib pair db (r.call tenant start parentRoot) with
      | error e =>
          rw [hcall] at h
          cases h
      | ok res =>
          rcases res with ⟨db₁, root⟩
          rw [hcall] at h
          have hrest : seedLoop lib pair tenant r n (start + 1) (some root) db₁ =
              .ok db' := h
          have hroot : root = runRoot lib pair tenant r start := by
            have hok := (writeEpoch_cases lib pair hcall).1
            rw [merkleRoot_eq_rootOf] at hok
            exact (Except.ok.inj hok).symm
          subst hroot
          rw [ih hrest, findEpoch_writeEpoch lib pair hcall]
          change (Option.or _ (if (tenant, j) = (tenant, start) then _ else _)).or
            _ = _
          cases hold : db.findEpoch tenant j with
          | some row => rfl
          | none =>
              rw [Option.none_or, Option.none_or]
              by_cases hj : j = start
              · subst hj
                have hin : j ≤ j ∧ j < j + ((n + 1 : Nat) : Int) := by omega
                rw [if_pos rfl, Option.some_or, if_pos hin, loopRow, if_pos rfl]
              · rw [if_neg (fun hkey => hj (Prod.mk.inj hkey).2),
                  Option.none_or]
                apply if_congr (by omega) _ rfl
                rw [loopRow, loopRow, if_neg hj]
                split_ifs with hnext
                · rw [hnext, Int.add_sub_cancel]
                · rfl

/-- One run of the seeder as a step; a run that returns an error ends the
sequence. -/
def seedStep (db : Database N) (r : SeederRun F) : Option (Database N) :=
  match seed lib pair tenant db r with
  | .ok db' => some db'
  | .error _ => none

/-- Epoch 0 has no parent, and every later epoch has the stored root of the
one before it. -/
structure Linked (db : Database N) : Prop where
  genesis : ∀ row, db.findEpoch tenant 0 = some row → row.parentRoot = none
  parent : ∀ k : Int, 0 ≤ k → ∀ row,
    db.findEpoch tenant (k + 1) = some row →
    ∃ prev, db.findEpoch tenant k = some prev ∧
      row.parentRoot = some prev.merkleRoot

/-- The condition on the tables and the run: a run that goes past the last
stored epoch computes, from its own list, the root stored there. -/
def Continues (db : Database N) (r : SeederRun F) : Prop :=
  ∀ k : Int, 0 ≤ k → ∀ row, db.findEpoch tenant k = some row →
    db.findEpoch tenant (k + 1) = none → k + 1 < r.committed →
    runRoot lib pair tenant r k = row.merkleRoot

/-- The epochs table after a whole run. -/
theorem findEpoch_seed {r : SeederRun F} {db db' : Database N}
    (h : seedStep lib pair tenant db r = some db') (j : Int) :
    db'.findEpoch tenant j = (db.findEpoch tenant j).or
      (if 0 ≤ j ∧ j < r.committed
        then some (loopRow lib pair tenant r 0 none j) else none) := by
  unfold seedStep seed at h
  cases htenant : verifyTenantExists db tenant with
  | error e =>
      rw [htenant] at h
      cases h
  | ok u =>
      rw [htenant] at h
      simp only [Outcome.ok_bind] at h
      cases hloop : seedLoop lib pair tenant r r.committed 0 none db with
      | error e =>
          rw [hloop] at h
          cases h
      | ok db₁ =>
          rw [hloop] at h
          cases h
          have hspec := findEpoch_seedLoop lib pair tenant hloop j
          rwa [Int.zero_add] at hspec

/-- **One run keeps the chain linked exactly when it `Continues` it.** -/
theorem linked_step_iff {r : SeederRun F} {db db' : Database N}
    (hl : Linked tenant db) (h : seedStep lib pair tenant db r = some db') :
    Linked tenant db' ↔ Continues lib pair tenant db r := by
  have hafter := findEpoch_seed lib pair tenant h
  constructor
  · intro hl' k hk row hrow hlast hlt
    have hnext : db'.findEpoch tenant (k + 1) =
        some (loopRow lib pair tenant r 0 none (k + 1)) := by
      rw [hafter, hlast, Option.none_or, if_pos ⟨by omega, hlt⟩]
    have hkept : db'.findEpoch tenant k = some row := by
      rw [hafter, hrow, Option.some_or]
    rcases hl'.parent k hk _ hnext with ⟨prev, hprev, hparent⟩
    rw [hkept] at hprev
    cases hprev
    have hloop : (loopRow lib pair tenant r 0 none (k + 1)).parentRoot =
        some (runRoot lib pair tenant r k) := by
      rw [loopRow, if_neg (by omega), Int.add_sub_cancel]
      rfl
    exact Option.some.inj (hloop.symm.trans hparent)
  · intro hc
    refine { genesis := ?_, parent := ?_ }
    · intro row hrow
      rw [hafter] at hrow
      cases hold : db.findEpoch tenant 0 with
      | some old =>
          rw [hold, Option.some_or] at hrow
          cases hrow
          exact hl.genesis _ hold
      | none =>
          rw [hold, Option.none_or] at hrow
          split_ifs at hrow
          cases hrow
          rfl
    · intro k hk row hrow
      rw [hafter] at hrow
      cases hold : db.findEpoch tenant (k + 1) with
      | some old =>
          -- a row that was there keeps its parent, which was there too
          rw [hold, Option.some_or] at hrow
          cases hrow
          rcases hl.parent k hk _ hold with ⟨prev, hprev, hparent⟩
          exact ⟨prev, by rw [hafter, hprev, Option.some_or], hparent⟩
      | none =>
          rw [hold, Option.none_or] at hrow
          split_ifs at hrow with hin
          cases hrow
          have hparent : (loopRow lib pair tenant r 0 none (k + 1)).parentRoot =
              some (runRoot lib pair tenant r k) := by
            rw [loopRow, if_neg (by omega), Int.add_sub_cancel]
            rfl
          cases hprev : db.findEpoch tenant k with
          | some prev =>
              -- the run extends the chain here: its root has to be the stored one
              refine ⟨prev, by rw [hafter, hprev, Option.some_or], ?_⟩
              rw [hparent, hc k hk prev hprev hold hin.2]
          | none =>
              refine ⟨loopRow lib pair tenant r 0 none k, ?_, hparent⟩
              rw [hafter, hprev, Option.none_or, if_pos ⟨hk, by omega⟩]

/-- **A sequence of runs keeps the chain linked throughout exactly when each
run `Continues` it.** -/
theorem linked_throughout_iff {db : Database N} (hl : Linked tenant db)
    (runs : List (SeederRun F)) :
    Throughout (seedStep lib pair tenant) (Linked tenant) db runs ↔
      StepsMeet (seedStep lib pair tenant) (Continues lib pair tenant)
        db runs := by
  apply throughout_iff_stepsMeet
  · intro db r db' hdb hstep
    exact linked_step_iff lib pair tenant hdb hstep
  · exact hl

end Runs

/-- A tenant with no epochs. -/
theorem linked_migrated {N : Type} (tenant : TenantId)
    (tenants : List TenantId) : Linked tenant (Database.migrated N tenants) where
  genesis := by
    intro row h
    cases h
  parent := by
    intro k _ row h
    cases h

/-- A run that stops after epoch 0. -/
def interruptedRun : SeederRun Int := ⟨[bareSubstation "a" 5], 1, 0⟩

/-- The same list in a run that goes on to epoch 2. -/
def resumedRun : SeederRun Int := ⟨[bareSubstation "a" 5], 3, 0⟩

/-- A run over another list that goes on to epoch 1. -/
def otherRun : SeederRun Int := ⟨[bareSubstation "b" 6], 2, 0⟩

theorem linked_throughout_iff_migrated :
    Throughout (seedStep checksumLibraries checksumPair ciTenant)
        (Linked ciTenant) (Database.migrated Int [ciTenant])
        [interruptedRun, resumedRun] ↔
      StepsMeet (seedStep checksumLibraries checksumPair ciTenant)
        (Continues checksumLibraries checksumPair ciTenant)
        (Database.migrated Int [ciTenant]) [interruptedRun, resumedRun] :=
  linked_throughout_iff checksumLibraries checksumPair ciTenant
    (linked_migrated ciTenant [ciTenant]) [interruptedRun, resumedRun]

/-- Epoch 1 of the second run names a root that epoch 0 does not have. -/
theorem not_linked_other_list :
    ¬ Throughout (seedStep checksumLibraries checksumPair ciTenant)
        (Linked ciTenant) (Database.migrated Int [ciTenant])
        [interruptedRun, otherRun] := by
  intro h
  have hrun : (run (seedStep checksumLibraries checksumPair ciTenant)
      (Database.migrated Int [ciTenant]) [interruptedRun, otherRun]).map
      (fun db => decide ((db.findEpoch ciTenant 1).isSome ∧
        (db.findEpoch ciTenant 1).bind EpochRow.parentRoot ≠
          (db.findEpoch ciTenant 0).map EpochRow.merkleRoot)) = some true := by
    decide +kernel
  rcases Option.map_eq_some_iff.mp hrun with ⟨db, hdb, hroots⟩
  rw [decide_eq_true_eq] at hroots
  have hlinked := h _ List.prefix_rfl db hdb
  rcases Option.isSome_iff_exists.mp hroots.1 with ⟨row, hrow⟩
  rcases hlinked.parent 0 (by decide) row hrow with ⟨prev, hprev, hparent⟩
  apply hroots.2
  rw [hrow, hprev, Option.bind_some, hparent]
  rfl

/-! ## What the head of a chain says about the rest -/

section Head

variable {D : Type} (pair : D → D → D) (zero : D)

/-- The two columns of an epoch row that make the chain. -/
structure Link (D : Type) where
  merkleRoot : D
  parentRoot : Option D
  deriving DecidableEq

/-- The leaf lists of successive epochs. -/
structure History (D : Type) where
  epochs : List (List D)
  nonempty : ∀ leaves ∈ epochs, leaves ≠ []

/-- The links of successive roots, the first one with the given parent. -/
def linksFrom : Option D → List D → List (Link D)
  | _, [] => []
  | parent, r :: rs => ⟨r, parent⟩ :: linksFrom (some r) rs

/-- The root of every epoch of a history. -/
def History.roots (h : History D) : List D := h.epochs.map (rootOf pair zero)

/-- The chain of a history: no parent at genesis, then each epoch's parent is
the root before it. -/
def History.links (h : History D) : List (Link D) :=
  linksFrom none (h.roots pair zero)

theorem linksFrom_getElem? (parent : Option D) (rs : List D) (i : Nat) :
    (linksFrom parent rs)[i]? =
      rs[i]?.map fun r => ⟨r, if i = 0 then parent else rs[i - 1]?⟩ := by
  induction rs generalizing parent i with
  | nil => rfl
  | cons r rs ih =>
      cases i with
      | zero => rfl
      | succ i =>
          rw [linksFrom, List.getElem?_cons_succ, List.getElem?_cons_succ, ih]
          cases i with
          | zero => rfl
          | succ i => rfl

@[simp] theorem linksFrom_length (parent : Option D) (rs : List D) :
    (linksFrom parent rs).length = rs.length := by
  induction rs generalizing parent with
  | nil => rfl
  | cons r rs ih => rw [linksFrom, List.length_cons, List.length_cons, ih]

@[simp] theorem History.links_length (h : History D) :
    (h.links pair zero).length = h.epochs.length := by
  rw [links, linksFrom_length, roots, List.length_map]

/-- The last link of a chain: its last root and the one before. -/
theorem getLast?_links (h : History D) :
    (h.links pair zero).getLast? =
      (h.roots pair zero)[h.epochs.length - 1]?.map fun r =>
        ⟨r, if h.epochs.length - 1 = 0 then none
          else (h.roots pair zero)[h.epochs.length - 1 - 1]?⟩ := by
  rw [List.getLast?_eq_getElem?, History.links_length, History.links,
    linksFrom_getElem?]

/-- Replace the leaves of one epoch. -/
def History.replace (h : History D) (i : Nat) (leaves : List D)
    (hne : leaves ≠ []) : History D where
  epochs := h.epochs.set i leaves
  nonempty := by
    intro l hl
    rcases List.mem_or_eq_of_mem_set hl with hl | rfl
    · exact h.nonempty l hl
    · exact hne

theorem History.roots_replace (h : History D) (i : Nat) (leaves : List D)
    (hne : leaves ≠ []) :
    (h.replace i leaves hne).roots pair zero =
      (h.roots pair zero).set i (rootOf pair zero leaves) := by
  rw [roots, roots, replace, List.map_set]

/-- The history a seeder run writes: its list's leaves at each epoch. -/
def runHistory {F N : Type} (lib : Libraries F N) (tenant : TenantId)
    (r : SeederRun F) (hne : r.substations ≠ []) : History HexBytes32 where
  epochs := (List.range r.committed).map
    fun j : Nat => (r.call tenant j none).hashes lib
  nonempty := by
    intro leaves hleaves
    rcases List.mem_map.mp hleaves with ⟨j, -, rfl⟩
    rw [← List.length_pos_iff, hashes_length]
    exact List.length_pos_iff.mpr hne

/-- **A run for a tenant without epochs stores the chain of its history.** -/
theorem findEpoch_runHistory {F N : Type} (lib : Libraries F N)
    (pair : HexBytes32 → HexBytes32 → HexBytes32) (tenant : TenantId)
    {r : SeederRun F} (hne : r.substations ≠ []) {db db' : Database N}
    (hfresh : ∀ j, db.findEpoch tenant j = none)
    (h : seedStep lib pair tenant db r = some db') (j : Nat) :
    (db'.findEpoch tenant j).map
        (fun row => Link.mk row.merkleRoot row.parentRoot) =
      ((runHistory lib tenant r hne).links pair (HexBytes.zero 32))[j]? := by
  have hroots : ∀ i : Nat,
      ((runHistory lib tenant r hne).roots pair (HexBytes.zero 32))[i]? =
        if i < r.committed then some (runRoot lib pair tenant r i) else none := by
    intro i
    rw [History.roots, runHistory, List.map_map, List.getElem?_map]
    split_ifs with hi
    · rw [List.getElem?_range hi]
      rfl
    · rw [List.getElem?_eq_none (by simpa using hi)]
      rfl
  rw [findEpoch_seed lib pair tenant h, hfresh, Option.none_or, History.links,
    linksFrom_getElem?, hroots j, hroots (j - 1)]
  by_cases hj : j < r.committed
  · rw [if_pos ⟨by omega, by omega⟩, if_pos hj, Option.map_some, Option.map_some,
      if_pos (by omega : j - 1 < r.committed), loopRow]
    cases j with
    | zero => rfl
    | succ j =>
        rw [if_neg (by omega), if_neg (Nat.succ_ne_zero j)]
        have hpred : ((j + 1 : Nat) : Int) - 1 = ((j + 1 - 1 : Nat) : Int) := by
          omega
        rw [hpred]
        rfl
  · rw [if_neg (by omega), if_neg hj]
    rfl

/-- **The head of a chain fixes its last two roots and no earlier one.**
Chains of one length with the same last link have the same last two roots;
and whatever the chain, the leaves of any epoch before those can be replaced
without the last link showing it. -/
theorem head_pins_last_two :
    (∀ h h' : History D, h.epochs.length = h'.epochs.length →
      (h.links pair zero).getLast? = (h'.links pair zero).getLast? →
      ∀ i, h.epochs.length ≤ i + 2 →
        (h.roots pair zero)[i]? = (h'.roots pair zero)[i]?) ∧
    (∀ (h : History D) (i : Nat) (leaves : List D) (hne : leaves ≠ []),
      i + 2 < h.epochs.length →
      ((h.replace i leaves hne).links pair zero).getLast? =
          (h.links pair zero).getLast? ∧
        (h.replace i leaves hne).epochs.length = h.epochs.length ∧
        ((h.replace i leaves hne).roots pair zero)[i]? =
          some (rootOf pair zero leaves)) := by
  constructor
  · intro h h' hlen hlast i hi
    rw [getLast?_links, getLast?_links, ← hlen] at hlast
    have hroots : (h.roots pair zero).length = h.epochs.length :=
      List.length_map ..
    have hroots' : (h'.roots pair zero).length = h.epochs.length :=
      (List.length_map ..).trans hlen.symm
    have htop : (h.roots pair zero)[h.epochs.length - 1]? =
        (h'.roots pair zero)[h.epochs.length - 1]? := by
      have hmap := congrArg (Option.map Link.merkleRoot) hlast
      simpa only [Option.map_map, Function.comp_def, Option.map_id'] using hmap
    by_cases hout : h.epochs.length ≤ i
    · rw [List.getElem?_eq_none (by omega), List.getElem?_eq_none (by omega)]
    · rcases (by omega : i = h.epochs.length - 1 ∨
          h.epochs.length - 1 ≠ 0 ∧ i = h.epochs.length - 1 - 1) with
        rfl | ⟨hpos, rfl⟩
      · exact htop
      · have hin : h.epochs.length - 1 < (h.roots pair zero).length := by omega
        rw [← htop, List.getElem?_eq_getElem hin, Option.map_some,
          Option.map_some, Option.some.injEq, Link.mk.injEq, if_neg hpos,
          if_neg hpos] at hlast
        exact hlast.2
  · intro h i leaves hne hi
    have hroots : (h.roots pair zero).length = h.epochs.length :=
      List.length_map ..
    have hlen : (h.replace i leaves hne).epochs.length = h.epochs.length :=
      List.length_set ..
    refine ⟨?_, hlen, ?_⟩
    · rw [getLast?_links, getLast?_links, hlen, History.roots_replace,
        List.getElem?_set_ne (by omega), List.getElem?_set_ne (by omega)]
    · rw [History.roots_replace, List.getElem?_set_self (by omega)]

/-- Three epochs: the first one differs and the last link does not. -/
theorem not_head_pins_genesis :
    Function.Injective2 Symbolic.node ∧
    ¬ ∀ h h' : History Symbolic, h.epochs.length = h'.epochs.length →
      (h.links Symbolic.node (.leaf 0)).getLast? =
        (h'.links Symbolic.node (.leaf 0)).getLast? →
      h.roots Symbolic.node (.leaf 0) = h'.roots Symbolic.node (.leaf 0) := by
  refine ⟨Symbolic.node_injective2, fun hclaim => ?_⟩
  have h := hclaim ⟨[[.leaf 1], [.leaf 2], [.leaf 3]], by decide⟩
    ⟨[[.leaf 9], [.leaf 2], [.leaf 3]], by decide⟩ rfl (by decide)
  exact absurd h (by decide)

end Head

end RenderEngine.Ports.EpochChain
