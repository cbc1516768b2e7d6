import Mathlib.Algebra.Order.BigOperators.Group.List
import Mathlib.Algebra.Order.Ring.Nat
import Mathlib.Logic.Relation
import Ois.Kernel.Types
import Ois.Library.Dict
import Ois.Library.Machine

/-!
# The lineage of evidence

The `EvidenceStore` of `platform/evidence.py`; the clock is left out.
-/

namespace Ois.Platform

open Ois.Library Ois.Kernel Dict Relation

structure PlatformIdentity where
  tenantId : String
  executionId : String
  (workflowId agentId capabilityId toolId modelId : Option String := none)

/-- What `append` is called with, and the identifier that it draws. -/
structure EvidenceAppend (Payload : Type) where
  evidenceId : String
  identity : PlatformIdentity
  artifactType : String
  payload : Payload
  parentIds : List String := []
  live : Bool := true

structure EvidenceArtifact (Payload : Type) extends EvidenceAppend Payload where
  contentHash : String

abbrev EvidenceStore (Payload : Type) := Dict String (EvidenceArtifact Payload)

namespace EvidenceStore

variable {Payload : Type}

def checkParents (tenant : String) (store : EvidenceStore Payload) :
    List String → Except PyError Unit
  | [] => .ok ()
  | parentId :: rest =>
    match store.lookup parentId with
    | none => .error ⟨.valueError, "unknown evidence parent: " ++ parentId⟩
    | some parent =>
      if parent.identity.tenantId ≠ tenant then
        .error ⟨.permissionError, "cross-tenant evidence lineage is forbidden"⟩
      else checkParents tenant store rest

def append (digest : Payload → String) : Machine (EvidenceAppend Payload) (EvidenceStore Payload)
    (Except PyError (EvidenceArtifact Payload)) := fun call store =>
  match checkParents call.identity.tenantId store call.parentIds with
  | .error err => (store, .error err)
  | .ok () =>
    let item := { toEvidenceAppend := call, contentHash := digest call.payload }
    (store.set call.evidenceId item, .ok item)

def Owned (store : EvidenceStore Payload) (tenant evidenceId : String) : Prop :=
  ∃ item, store.lookup evidenceId = some item ∧ item.identity.tenantId = tenant

def Parent (store : EvidenceStore Payload) (child parent : String) : Prop :=
  ∃ item, store.lookup child = some item ∧ parent ∈ item.parentIds

/-- Parents are evidence of their child's tenant, and come before it in some order. -/
def Ordered (store : EvidenceStore Payload) : Prop :=
  ∃ rank : String → Nat, ∀ child item, store.lookup child = some item →
    ∀ parent ∈ item.parentIds, store.Owned item.identity.tenantId parent ∧ rank parent < rank child

variable {digest : Payload → String}

theorem owned_of_checked {tenant : String} {store : EvidenceStore Payload}
    {parentIds : List String} (checked : checkParents tenant store parentIds = .ok ()) :
    ∀ parent ∈ parentIds, store.Owned tenant parent := by
  induction parentIds with
  | nil => exact fun _ listed => nomatch listed
  | cons parentId rest ih =>
    unfold checkParents at checked
    cases found : store.lookup parentId with
    | none => simp [found] at checked
    | some item =>
      rw [found] at checked
      dsimp only at checked
      split_ifs at checked with same
      intro parent listed
      rcases List.mem_cons.mp listed with rfl | later
      · exact ⟨item, found, not_not.mp same⟩
      · exact ih checked parent later

theorem ordered_next (call : EvidenceAppend Payload) (store : EvidenceStore Payload)
    (fresh : store.lookup call.evidenceId = none) (ordered : store.Ordered) :
    Ordered ((append digest).next call store) := by
  obtain ⟨rank, ordered⟩ := ordered
  unfold Machine.next append
  cases checked : checkParents call.identity.tenantId store call.parentIds with
  | error err => exact ⟨rank, ordered⟩
  | ok _ =>
    let last := (call.parentIds.map rank).sum + 1
    refine ⟨Function.update rank call.evidenceId last, fun child item found parent listed => ?_⟩
    have before : store.Owned item.identity.tenantId parent ∧
        rank parent < Function.update rank call.evidenceId last child := by
      dsimp only at found
      rw [lookup_set] at found
      split_ifs at found with new
      · cases found
        rw [new, Function.update_self]
        exact ⟨owned_of_checked checked parent listed,
          Nat.lt_succ_of_le (List.le_sum_of_mem (List.mem_map_of_mem listed))⟩
      · rw [Function.update_of_ne new]
        exact ordered child item found parent listed
    obtain ⟨⟨other, there, same⟩, lower⟩ := before
    have distinct : parent ≠ call.evidenceId := by
      rintro rfl
      cases fresh.symm.trans there
    rw [Function.update_of_ne distinct]
    exact ⟨⟨other, by rw [lookup_set, if_neg distinct, there], same⟩, lower⟩

/-- Whoever appends evidence, each time under an identifier not in use: all that evidence
descends from is there and of its tenant, and nothing descends from itself. -/
theorem lineage_traced (calls : List (EvidenceAppend Payload))
    (fresh : (append digest).Throughout (fun call store => store.lookup call.evidenceId = none)
      calls []) :
    let store := (append digest).run calls []
    (∀ child ancestor, TransGen store.Parent child ancestor →
      ∃ tenant, store.Owned tenant child ∧ store.Owned tenant ancestor) ∧
    ∀ evidenceId, ¬TransGen store.Parent evidenceId evidenceId := by
  obtain ⟨rank, ordered⟩ := Machine.run_keeps ordered_next fresh ⟨0, fun _ _ found => nomatch found⟩
  constructor
  · intro child ancestor descends
    induction descends with
    | single named =>
      obtain ⟨item, found, listed⟩ := named
      exact ⟨_, ⟨item, found, rfl⟩, (ordered _ item found _ listed).1⟩
    | tail _ named ih =>
      obtain ⟨tenant, first, _, here, same⟩ := ih
      obtain ⟨item, found, listed⟩ := named
      cases here.symm.trans found
      exact ⟨tenant, first, same ▸ (ordered _ _ found _ listed).1⟩
  · intro evidenceId descends
    have falls : TransGen (· > ·) (rank evidenceId) _ := TransGen.lift rank
      (fun _ parent ⟨item, found, listed⟩ => (ordered _ item found parent listed).2) _ _ descends
    rw [transGen_eq_self] at falls
    exact lt_irrefl _ falls

/-- The third call is refused: its parent is of another tenant. -/
def mixed : List (EvidenceAppend String) :=
  [("a", "t", []), ("b", "t", ["a"]), ("c", "u", ["b"])].map fun (evidenceId, tenant, parents) =>
    ⟨evidenceId, { tenantId := tenant, executionId := "e" }, "claim", "", parents, true⟩

theorem mixed_traced : ((append id).run mixed []).Parent "b" "a" ∧
    ¬TransGen ((append id).run mixed []).Parent "b" "b" :=
  ⟨⟨_, rfl, List.mem_singleton.mpr rfl⟩, (lineage_traced mixed ⟨rfl, rfl, rfl, trivial⟩).2 "b"⟩

end EvidenceStore

end Ois.Platform
