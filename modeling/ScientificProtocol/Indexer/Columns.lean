import ScientificProtocol.Sql.Columns

/-!
# The columns of the replications

`queryReplications` of `src/indexer/store.ts`, which every listing of replications goes
through, names `resolution_decision_id`. The table has the columns of
`001_read_model.sql`, and no later migration adds one: `027_resolution_decisions.sql` adds
`resolution_decision_id` to the forecasts. So on a database that has been migrated and
not touched otherwise the query fails, and with it whoever awaits it
(`ScientificProtocol.Indexer.queryReplications_committed`); it answers exactly where
somebody has added the column (`ScientificProtocol.Indexer.queryReplications_eq_ok_iff`).
-/

namespace ScientificProtocol.Indexer

open Sql

/-- The columns of `replications` once all migrations have run. -/
def replicationsColumns : List String :=
  ["replication_id", "claim_id", "replicator", "agent_id", "result_hash", "outcome",
    "resolution_status", "confidence_bps", "resolver_type", "resolution_hash", "evidence_hash",
    "evidence_uri"]

/-- The columns `queryReplications` names. -/
def queryReplicationsColumns : List String :=
  ["replication_id", "claim_id", "replicator", "agent_id", "result_hash", "outcome",
    "resolution_status", "confidence_bps", "resolution_decision_id", "resolver_type",
    "resolution_hash", "evidence_hash", "evidence_uri"]

/-- The columns of `replications` in a database: those of the migrations, and what has been
added to them by hand. -/
structure ReplicationsSchema where
  columns : List String
  migrated : ∀ column ∈ replicationsColumns, column ∈ columns

namespace ReplicationsSchema

/-- The migrations have run, and nothing else has been done. -/
def committed : ReplicationsSchema := ⟨replicationsColumns, fun _ h => h⟩

/-- Somebody has added the column that the query names. -/
def repaired : ReplicationsSchema :=
  ⟨replicationsColumns ++ ["resolution_decision_id"], fun _ h => List.mem_append_left _ h⟩

/-- The column that no migration adds is there. -/
def HasDecisionColumn (schema : ReplicationsSchema) : Prop :=
  "resolution_decision_id" ∈ schema.columns

instance (schema : ReplicationsSchema) : Decidable schema.HasDecisionColumn :=
  inferInstanceAs (Decidable ("resolution_decision_id" ∈ schema.columns))

theorem not_hasDecisionColumn_committed : ¬committed.HasDecisionColumn := by decide

theorem hasDecisionColumn_repaired : repaired.HasDecisionColumn := by decide

end ReplicationsSchema

/-- **A listing of replications**, of whatever rows the condition of the query selects. -/
def queryReplications {ρ : Type} (schema : ReplicationsSchema) (rows : List ρ) :
    Except UndefinedColumn (List ρ) :=
  (resolveColumns schema.columns queryReplicationsColumns).map fun _ => rows

section

variable {ρ : Type} {schema : ReplicationsSchema} {rows rows' : List ρ}

/-- Every column that is named is one of the migrations, but for one. -/
theorem migrated_or_decision {column : String} (h : column ∈ queryReplicationsColumns) :
    column = "resolution_decision_id" ∨ column ∈ replicationsColumns := by
  revert column
  decide

theorem queryReplications_of_hasDecisionColumn (h : schema.HasDecisionColumn) :
    queryReplications schema rows = .ok rows := by
  have hresolved : resolveColumns schema.columns queryReplicationsColumns = .ok () := by
    refine resolveColumns_eq_ok_iff.mpr fun column hcolumn => ?_
    rcases migrated_or_decision hcolumn with rfl | hmigrated
    · exact h
    · exact schema.migrated column hmigrated
  rw [queryReplications, hresolved]
  rfl

/-- **Without the column every listing fails.** -/
theorem queryReplications_of_not_hasDecisionColumn (h : ¬schema.HasDecisionColumn) :
    queryReplications schema rows = .error ⟨"resolution_decision_id"⟩ := by
  have hresolved : resolveColumns schema.columns queryReplicationsColumns =
      .error ⟨"resolution_decision_id"⟩ := by
    refine resolveColumns_eq_error (by decide) h fun column hcolumn => ?_
    exact (migrated_or_decision hcolumn).imp_right (schema.migrated column)
  rw [queryReplications, hresolved]
  rfl

/-- **A listing is answered** exactly where the column is, and with the rows. -/
theorem queryReplications_eq_ok_iff :
    queryReplications schema rows = .ok rows' ↔ schema.HasDecisionColumn ∧ rows' = rows := by
  by_cases h : schema.HasDecisionColumn
  · rw [queryReplications_of_hasDecisionColumn h, Except.ok.injEq, and_iff_right h, eq_comm]
  · simp [queryReplications_of_not_hasDecisionColumn h, h]

/-- On the schema of the migrations it is never answered. -/
theorem queryReplications_committed (rows : List ρ) :
    queryReplications .committed rows = .error ⟨"resolution_decision_id"⟩ :=
  queryReplications_of_not_hasDecisionColumn ReplicationsSchema.not_hasDecisionColumn_committed

end

end ScientificProtocol.Indexer
