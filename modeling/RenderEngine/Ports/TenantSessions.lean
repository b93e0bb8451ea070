import RenderEngine.Ports.TenantIsolation
import RenderEngine.Ports.ToolInputs
import RenderEngine.Verified.StepRun

/-!
# Row-level security over a pool of connections

The policies of `0001_initial_schema.sql` show a session the rows of the tenant
that its setting `app.current_tenant_id` names.  The client shares a pool of
connections among the tenants, and `tx_with_tenant` sets the variable locally
in each transaction.  Here any number of requests use the pool at once, each
step of one between any steps of others, and any request may be dropped after
any of its steps.

## Main results

* `step_fenced`: what one event keeps.
* `statements_fenced`: in every run each statement is shown its own tenant,
  with every answer the one without the policies, or nothing at all if the
  server is given another variable.
-/

namespace RenderEngine.Ports.TenantSessions

open RenderEngine.Ports.CoreTypes
open RenderEngine.Ports.Serde
open RenderEngine.Ports.Schema
open RenderEngine.Ports.MerkleProof
open RenderEngine.Ports.PostgresClient
open RenderEngine.Ports.RegionQuery
open RenderEngine.Ports.SeedWriter
open RenderEngine.Ports.TenantIsolation
open RenderEngine.Ports.ToolInputs
open RenderEngine.Ports.VerifyAttestation
open RenderEngine.Ports.ViewportCells
open RenderEngine.Verified.StepRun

/-! ## Sessions -/

/-- The variable of the policies. -/
def policyVariable : Text := "app.current_tenant_id".toList

/-- A session and its settings, by name. -/
structure Connection where
  /-- what stands outside of transactions -/
  session : List (Text × Text)
  /-- the settings that are local to the open transaction, if there is one -/
  transaction : Option (List (Text × Text))

namespace Connection

/-- A connection that the pool has just opened. -/
def fresh : Connection := ⟨[], none⟩

/-- `current_setting(name, true)`; `none` is null. -/
def currentSetting (c : Connection) (name : Text) : Option Text :=
  ((c.transaction.getD []).lookup name).or (c.session.lookup name)

/-- `BEGIN` -/
def begin (c : Connection) : Connection := { c with transaction := some [] }

/-- `set_config(name, value, true)` -/
def setConfig (c : Connection) (name value : Text) : Connection :=
  { c with transaction := c.transaction.map ((name, value) :: ·) }

/-- `COMMIT` and `ROLLBACK`: a setting that was local leaves the empty text
where the session had none. -/
def finish (c : Connection) : Connection where
  session := c.session
    ++ (c.transaction.getD []).map fun setting => (setting.1, [])
  transaction := none

end Connection

section Policies

variable {N : Type}

/-- The rows that the policies let a session see whose setting names this
tenant, or no tenant. -/
def visible (tenant : Option TenantId) (db : Database N) : Database N where
  tenants := db.tenants.filter fun t => some t = tenant
  epochs := db.epochs.filter fun r => some r.tenantId = tenant
  cellStates := db.cellStates.filter fun r => some r.tenantId = tenant
  attestations := db.attestations.filter fun r => some r.tenantId = tenant
  epochs_pkey := (List.filter_sublist.map _).nodup db.epochs_pkey
  epochs_tenant_fkey := by
    intro r hr
    obtain ⟨hmem, howner⟩ := List.mem_filter.mp hr
    exact List.mem_filter.mpr ⟨db.epochs_tenant_fkey r hmem, howner⟩
  cellStates_pkey := (List.filter_sublist.map _).nodup db.cellStates_pkey
  cellStates_epoch_fkey := by
    intro r hr
    obtain ⟨hmem, howner⟩ := List.mem_filter.mp hr
    obtain ⟨row, hrow, hkey⟩ :=
      List.mem_map.mp (db.cellStates_epoch_fkey r hmem)
    refine List.mem_map.mpr ⟨row, List.mem_filter.mpr ⟨hrow, ?_⟩, hkey⟩
    rw [show row.tenantId = r.tenantId from (Prod.mk.inj hkey).1]
    exact howner
  attestations_pkey := (List.filter_sublist.map _).nodup db.attestations_pkey
  attestations_cell_fkey := by
    intro r hr
    obtain ⟨hmem, howner⟩ := List.mem_filter.mp hr
    obtain ⟨row, hrow, hkey⟩ :=
      List.mem_map.mp (db.attestations_cell_fkey r hmem)
    refine List.mem_map.mpr ⟨row, List.mem_filter.mpr ⟨hrow, ?_⟩, hkey⟩
    rw [show row.tenantId = r.tenantId from (Prod.mk.inj hkey).1]
    exact howner

/-- A tenant finds its own rows. -/
theorem visible_agreeOn (tenant : TenantId) (db : Database N) :
    AgreeOn tenant (visible (some tenant) db) db := by
  have hrows : ∀ {R : Type} (owner : R → TenantId) (rows : List R),
      (rows.filter fun r => some (owner r) = some tenant).filter
          (fun r => owner r = tenant) =
        rows.filter fun r => owner r = tenant := by
    intro R owner rows
    rw [List.filter_filter]
    refine List.filter_congr fun r _ => ?_
    by_cases howner : owner r = tenant <;> simp [howner]
  exact {
    tenants := hrows id db.tenants
    epochs := hrows EpochRow.tenantId db.epochs
    cellStates := hrows CellStateRow.tenantId db.cellStates
    attestations := hrows AttestationRow.tenantId db.attestations }

variable (parseUuid : Text → Option (BitVec 128))

/-- What a session is shown: without a setting nothing, and a setting that is
no UUID is an error of every statement. -/
def shown (c : Connection) (db : Database N) : Except Unit (Database N) :=
  match c.currentSetting policyVariable with
  | none => .ok (visible none db)
  | some setting =>
      match parseUuid setting with
      | some uuid => .ok (visible (some ⟨uuid⟩) db)
      | none => .error ()

end Policies

/-! ## The pool -/

/-- A request that holds a connection. -/
structure Holder where
  tenant : TenantId
  /-- `set_config` has run -/
  configured : Bool

structure Slot where
  connection : Connection
  holder : Option Holder

/-- A statement that was run: for whom, on what, and what it was shown. -/
structure Statement (N : Type) where
  tenant : TenantId
  db : Database N
  rows : Except Unit (Database N)

structure Pool (N : Type) where
  slots : List Slot
  db : Database N
  /-- the statements so far, the last one first -/
  statements : List (Statement N)

inductive Event (N : Type) where
  /-- `pool.begin()` on an idle connection -/
  | acquire (i : Nat) (tenant : TenantId)
  /-- `set_config` of `tx_with_tenant` -/
  | configure (i : Nat)
  /-- a statement of the method that called `tx_with_tenant` -/
  | statement (i : Nat)
  /-- the transaction is committed, or dropped -/
  | release (i : Nat)
  /-- an idle connection is closed and another one opened for it -/
  | reconnect (i : Nat)
  /-- a transaction of another session commits -/
  | commit (db : Database N)

section Runs

variable {N : Type} (parseUuid : Text → Option (BitVec 128))
variable (tenancySessionVar : Text)

/-- A pool of fresh connections. -/
def Pool.start (size : Nat) (db : Database N) : Pool N where
  slots := List.replicate size ⟨.fresh, none⟩
  db := db
  statements := []

def Pool.setSlot (p : Pool N) (i : Nat) (slot : Slot) : Pool N :=
  { p with slots := p.slots.set i slot }

/-- One event, where it can happen. -/
def step (p : Pool N) : Event N → Option (Pool N)
  | .acquire i tenant =>
      match p.slots[i]? with
      | some ⟨c, none⟩ => some (p.setSlot i ⟨c.begin, some ⟨tenant, false⟩⟩)
      | _ => none
  | .configure i =>
      match p.slots[i]? with
      | some ⟨c, some ⟨tenant, false⟩⟩ =>
          some (p.setSlot i ⟨c.setConfig tenancySessionVar tenant.toText,
            some ⟨tenant, true⟩⟩)
      | _ => none
  | .statement i =>
      match p.slots[i]? with
      | some ⟨c, some ⟨tenant, true⟩⟩ =>
          some { p with
            statements := ⟨tenant, p.db, shown parseUuid c p.db⟩ ::
              p.statements }
      | _ => none
  | .release i =>
      match p.slots[i]? with
      | some ⟨c, some _⟩ => some (p.setSlot i ⟨c.finish, none⟩)
      | _ => none
  | .reconnect i =>
      match p.slots[i]? with
      | some ⟨_, none⟩ => some (p.setSlot i ⟨.fresh, none⟩)
      | _ => none
  | .commit db => some { p with db := db }

/-! ## What the settings are -/

/-- Outside of transactions a session has nothing but what is left of the
server's variable. -/
def Leftover (session : List (Text × Text)) : Prop :=
  ∀ setting ∈ session, setting = (tenancySessionVar, [])

/-- The settings of a connection are those of its holder. -/
structure Slot.Fenced (slot : Slot) : Prop where
  session : Leftover tenancySessionVar slot.connection.session
  transaction : slot.connection.transaction = slot.holder.map fun h =>
    if h.configured then [(tenancySessionVar, h.tenant.toText)] else []

/-- The tenant whose rows are shown to a request of `tenant`. -/
def seenAs (tenant : TenantId) : Option TenantId :=
  if tenancySessionVar = policyVariable then some tenant else none

structure Pool.Fenced (p : Pool N) : Prop where
  slots : ∀ slot ∈ p.slots, slot.Fenced tenancySessionVar
  statements : ∀ s ∈ p.statements,
    s.rows = .ok (visible (seenAs tenancySessionVar s.tenant) s.db)

variable {parseUuid tenancySessionVar}

theorem Slot.Fenced.lookup_session {slot : Slot}
    (h : slot.Fenced tenancySessionVar)
    (hother : tenancySessionVar ≠ policyVariable) :
    slot.connection.session.lookup policyVariable = none := by
  rw [List.lookup_eq_none_iff]
  intro setting hsetting
  rw [h.session setting hsetting, bne_iff_ne]
  exact hother.symm

/-- A configured connection is shown the rows of its holder's tenant. -/
theorem Slot.Fenced.shown_eq (hparse : ∀ t : TenantId,
      parseUuid t.toText = some t.uuid) {c : Connection} {tenant : TenantId}
    (h : Slot.Fenced tenancySessionVar ⟨c, some ⟨tenant, true⟩⟩)
    (db : Database N) :
    shown parseUuid c db = .ok (visible (seenAs tenancySessionVar tenant) db) := by
  have htransaction : c.transaction =
      some [(tenancySessionVar, tenant.toText)] := h.transaction
  by_cases hvar : tenancySessionVar = policyVariable
  · subst hvar
    have hsetting : c.currentSetting policyVariable = some tenant.toText := by
      rw [Connection.currentSetting, htransaction, Option.getD_some,
        List.lookup_cons_self]
      rfl
    rw [shown, hsetting, seenAs, if_pos rfl]
    simp only [hparse]
  · have hsetting : c.currentSetting policyVariable = none := by
      have hlocal : List.lookup policyVariable
          [(tenancySessionVar, tenant.toText)] = none := by
        rw [List.lookup_eq_none_iff]
        intro setting hmem
        rw [List.mem_singleton.mp hmem, bne_iff_ne]
        exact Ne.symm hvar
      rw [Connection.currentSetting, htransaction, Option.getD_some, hlocal]
      exact h.lookup_session hvar
    rw [shown, hsetting, seenAs, if_neg hvar]

/-- What is left after a transaction. -/
theorem Slot.Fenced.finish {c : Connection} {holder : Holder}
    (h : Slot.Fenced tenancySessionVar ⟨c, some holder⟩) :
    Slot.Fenced tenancySessionVar ⟨c.finish, none⟩ where
  session := by
    intro setting hsetting
    rcases List.mem_append.mp hsetting with hold | hleft
    · exact h.session setting hold
    · obtain ⟨was, hwas, rfl⟩ := List.mem_map.mp hleft
      have htransaction : c.transaction =
          some (if holder.configured then
            [(tenancySessionVar, holder.tenant.toText)] else []) :=
        h.transaction
      rw [htransaction, Option.getD_some] at hwas
      split_ifs at hwas with hconfigured
      · rw [List.mem_singleton.mp hwas]
      · cases hwas
  transaction := rfl

theorem Pool.Fenced.setSlot {p : Pool N} (h : p.Fenced tenancySessionVar)
    {i : Nat} {slot : Slot} (hslot : slot.Fenced tenancySessionVar) :
    (p.setSlot i slot).Fenced tenancySessionVar where
  slots := by
    intro s hs
    rcases List.mem_or_eq_of_mem_set hs with hold | rfl
    · exact h.slots s hold
    · exact hslot
  statements := h.statements

/-- **What one event keeps.** -/
theorem step_fenced (hparse : ∀ t : TenantId,
      parseUuid t.toText = some t.uuid) {p p' : Pool N} {e : Event N}
    (h : p.Fenced tenancySessionVar)
    (hstep : step parseUuid tenancySessionVar p e = some p') :
    p'.Fenced tenancySessionVar := by
  have hmem : ∀ {i : Nat} {slot : Slot}, p.slots[i]? = some slot →
      slot.Fenced tenancySessionVar :=
    fun hslot => h.slots _ (List.mem_of_getElem? hslot)
  cases e with
  | acquire i tenant =>
      simp only [step] at hstep
      split at hstep
      next c hslot =>
        cases hstep
        exact h.setSlot ⟨(hmem hslot).session, rfl⟩
      · cases hstep
  | configure i =>
      simp only [step] at hstep
      split at hstep
      next c tenant hslot =>
        cases hstep
        have htransaction : c.transaction = some [] := (hmem hslot).transaction
        refine h.setSlot ⟨(hmem hslot).session, ?_⟩
        show c.transaction.map _ = _
        rw [htransaction]
        rfl
      · cases hstep
  | statement i =>
      simp only [step] at hstep
      split at hstep
      next c tenant hslot =>
        cases hstep
        exact {
          slots := h.slots
          statements := List.forall_mem_cons.mpr
            ⟨(hmem hslot).shown_eq hparse p.db, h.statements⟩ }
      · cases hstep
  | release i =>
      simp only [step] at hstep
      split at hstep
      next c holder hslot =>
        cases hstep
        exact h.setSlot (hmem hslot).finish
      · cases hstep
  | reconnect i =>
      simp only [step] at hstep
      split at hstep
      next c hslot =>
        cases hstep
        exact h.setSlot ⟨List.forall_mem_nil _, rfl⟩
      · cases hstep
  | commit db =>
      cases hstep
      exact ⟨h.slots, h.statements⟩

theorem start_fenced (size : Nat) (db : Database N) :
    (Pool.start size db).Fenced tenancySessionVar where
  slots := by
    intro slot hslot
    rw [List.eq_of_mem_replicate hslot]
    exact ⟨List.forall_mem_nil _, rfl⟩
  statements := List.forall_mem_nil _

/-- Every pool that a run reaches is fenced. -/
theorem run_fenced (hparse : ∀ t : TenantId,
      parseUuid t.toText = some t.uuid) {size : Nat} {db : Database N}
    {events : List (Event N)} {p : Pool N}
    (hrun : run (step parseUuid tenancySessionVar) (Pool.start size db)
      events = some p) : p.Fenced tenancySessionVar :=
  run_keeps _ (fun _ _ _ h hstep => step_fenced hparse h hstep) hrun
    (start_fenced size db)

end Runs

/-! ## Answers under the policies -/

section Answers

variable {F N Cell Point K : Type} (f64 : F64 F) (h3o : H3o F Cell Point)
variable (pair : HexBytes32 → HexBytes32 → HexBytes32)
variable (crypto : Crypto K) (serde : SerdeText N)

/-- The rows are those of one tenant. -/
structure OnlyOf (tenant : TenantId) (db : Database N) : Prop where
  tenants : ∀ t ∈ db.tenants, t = tenant
  epochs : ∀ r ∈ db.epochs, r.tenantId = tenant
  cellStates : ∀ r ∈ db.cellStates, r.tenantId = tenant
  attestations : ∀ r ∈ db.attestations, r.tenantId = tenant

theorem onlyOf_visible (tenant : TenantId) (db : Database N) :
    OnlyOf tenant (visible (some tenant) db) := by
  have howner : ∀ {R : Type} (owner : R → TenantId) (rows : List R),
      ∀ r ∈ rows.filter (fun r => some (owner r) = some tenant),
        owner r = tenant :=
    fun owner rows r hr =>
      Option.some.inj (of_decide_eq_true (List.mem_filter.mp hr).2)
  exact {
    tenants := howner id db.tenants
    epochs := howner EpochRow.tenantId db.epochs
    cellStates := howner CellStateRow.tenantId db.cellStates
    attestations := howner AttestationRow.tenantId db.attestations }

/-- The statement is shown rows of its own tenant only, and every answer from
them is the one without the policies. -/
structure Unnoticed (s : Statement N) (seen : Database N) : Prop where
  rows : s.rows = .ok seen
  only : OnlyOf s.tenant seen
  reads : SameReads f64 h3o pair s.tenant seen s.db
  tools : SameTools f64 h3o pair crypto serde s.tenant seen s.db

/-- The statement is shown no row at all. -/
structure Blind (s : Statement N) (seen : Database N) : Prop where
  rows : s.rows = .ok seen
  tenants : seen.tenants = []
  epochs : seen.epochs = []
  cellStates : seen.cellStates = []
  attestations : seen.attestations = []

/-- **The policies show each request its own tenant**, however the requests
share the connections, and hide nothing it asks for; a server that is given
another variable is shown nothing. -/
theorem statements_fenced {parseUuid : Text → Option (BitVec 128)}
    (hparse : ∀ t : TenantId, parseUuid t.toText = some t.uuid)
    {tenancySessionVar : Text} {size : Nat} {db : Database N}
    {events : List (Event N)} {p : Pool N}
    (hrun : run (step parseUuid tenancySessionVar) (Pool.start size db)
      events = some p) :
    ∀ s ∈ p.statements, ∃ seen,
      (tenancySessionVar = policyVariable →
        Unnoticed f64 h3o pair crypto serde s seen) ∧
      (tenancySessionVar ≠ policyVariable → Blind s seen) := by
  intro s hs
  have hrows := (run_fenced hparse hrun).statements s hs
  refine ⟨visible (seenAs tenancySessionVar s.tenant) s.db, fun hvar => ?_,
    fun hvar => ?_⟩
  · have hseen : seenAs tenancySessionVar s.tenant = some s.tenant :=
      if_pos hvar
    rw [hseen] at hrows ⊢
    have hreads := sameReads_of_agreeOn f64 h3o pair
      (visible_agreeOn s.tenant s.db)
    exact {
      rows := hrows
      only := onlyOf_visible s.tenant s.db
      reads := hreads
      tools := sameTools_of_sameReads f64 h3o pair crypto serde hreads }
  · have hseen : seenAs tenancySessionVar s.tenant = none := if_neg hvar
    rw [hseen] at hrows ⊢
    have hnothing : ∀ {R : Type} (owner : R → TenantId) (rows : List R),
        rows.filter (fun r => some (owner r) = none) = [] := by
      intro R owner rows
      exact List.filter_eq_nil_iff.mpr fun r _ => by simp
    exact {
      rows := hrows
      tenants := hnothing id s.db.tenants
      epochs := hnothing EpochRow.tenantId s.db.epochs
      cellStates := hnothing CellStateRow.tenantId s.db.cellStates
      attestations := hnothing AttestationRow.tenantId s.db.attestations }

end Answers

/-! ## One connection, two tenants -/

/-- The second tenant's first transaction is dropped before it is set up. -/
def sharedConnection : List (Event Int) :=
  [ .acquire 0 ciTenant, .configure 0, .statement 0, .release 0
  , .acquire 0 ⟨2⟩, .release 0
  , .acquire 0 ⟨2⟩, .configure 0, .statement 0 ]

theorem statements_fenced_sharedConnection :
    ∃ db, OfTwoTenants db ∧
      ∃ p, run (step (fun s => some (readHyphenated s)) policyVariable)
          (Pool.start 1 db) sharedConnection = some p ∧
        p.statements.map Statement.tenant = [⟨2⟩, ciTenant] ∧
        ∀ s ∈ p.statements, ∃ seen, Unnoticed wholeF64 baseCellH3o checksumPair
          checksumCrypto intText s seen := by
  obtain ⟨db, hdb⟩ := exists_ofTwoTenants
  have hmap : (run (step (fun s => some (readHyphenated s)) policyVariable)
      (Pool.start 1 db) sharedConnection).map
        (fun p => p.statements.map Statement.tenant) =
          some [⟨2⟩, ciTenant] := by
    rfl
  obtain ⟨p, hrun, htenants⟩ := Option.map_eq_some_iff.mp hmap
  refine ⟨db, hdb, p, hrun, htenants, fun s hs => ?_⟩
  obtain ⟨seen, hunnoticed, -⟩ := statements_fenced wholeF64 baseCellH3o
    checksumPair checksumCrypto intText
    (fun t => congrArg some (readHyphenated_toText t.uuid)) hrun s hs
  exact ⟨seen, hunnoticed rfl⟩

end RenderEngine.Ports.TenantSessions
