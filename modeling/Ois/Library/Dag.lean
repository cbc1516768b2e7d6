import Mathlib.Data.List.Basic
import Mathlib.Data.List.Nodup
import Mathlib.Data.List.Perm.Subperm
import Mathlib.Logic.Relation

/-!
# Depth-first search for cycles

`visit` walks the children of a node before the node itself and raises the node at which it meets
its own path again. `Visits` is the search as a derivation, without a bound on its depth: a node on
the path is an error, a finished node is skipped, any other node is finished after its children.
-/

namespace Ois.Library.Dag

section ranks

variable {Node : Type} (children : Node → List Node)

section search

variable [DecidableEq Node]

/-- Visits the children left to right, then the node. `visiting` is the path
from the root of the search, `visited` the finished nodes in the order in which
they were finished. -/
def visit : Nat → Node → List Node → List Node → Except Node (List Node)
  | 0, node, _, _ => .error node
  | fuel + 1, node, visiting, visited =>
    if node ∈ visiting then .error node
    else if node ∈ visited then .ok visited
    else do
      let finished ← (children node).foldlM
        (fun done child => visit fuel child (node :: visiting) done) visited
      .ok (finished ++ [node])

def visitAll (nodes : List Node) : Except Node (List Node) :=
  nodes.foldlM (fun done node => visit children (nodes.length + 1) node [] done) []

end search

def ChildrenFirst (order : List Node) : Prop :=
  ∀ before node after, order = before ++ node :: after → ∀ child ∈ children node, child ∈ before

def Ranked (nodes : List Node) : Prop :=
  ∃ rank : Node → Nat, ∀ node ∈ nodes, ∀ child ∈ children node, rank child < rank node

/-- A path of more than `length` nodes starts at the node. -/
def Deeper : Nat → Node → Prop
  | 0, _ => True
  | length + 1, node => ∃ child ∈ children node, Deeper length child

theorem deeper_of_succ {length : Nat} {node : Node} (deeper : Deeper children (length + 1) node) :
    Deeper children length node := by
  induction length generalizing node with
  | zero => trivial
  | succ length ih =>
    obtain ⟨child, isChild, further⟩ := deeper
    exact ⟨child, isChild, ih further⟩

theorem children_first_nil : ChildrenFirst children [] := by
  intro before node after split
  simp at split

theorem children_first_append (order : List Node) (node : Node)
    (ordered : ChildrenFirst children order)
    (finished : ∀ child ∈ children node, child ∈ order) :
    ChildrenFirst children (order ++ [node]) := by
  intro before cur after split child isChild
  rcases List.append_eq_append_iff.mp split with ⟨extra, inBefore, atEnd⟩ | ⟨extra, inOrder, rest⟩
  · cases extra with
    | nil =>
      simp only [List.nil_append, List.cons.injEq] at atEnd
      rw [← atEnd.1] at isChild
      rw [inBefore, List.append_nil]
      exact finished child isChild
    | cons head tail =>
      simp at atEnd
  · cases extra with
    | nil =>
      simp only [List.nil_append, List.cons.injEq] at rest
      rw [rest.1] at isChild
      rw [List.append_nil] at inOrder
      rw [← inOrder]
      exact finished child isChild
    | cons head tail =>
      rw [List.cons_append, List.cons.injEq] at rest
      rw [← rest.1] at inOrder
      exact ordered before cur tail inOrder child isChild

structure Advances (before after : List Node) : Prop where
  ordered : ChildrenFirst children before → ChildrenFirst children after
  keeps : ∀ node ∈ before, node ∈ after

theorem Advances.refl (order : List Node) : Advances children order order :=
  ⟨id, fun _ mem => mem⟩

theorem Advances.trans {first second third : List Node}
    (left : Advances children first second) (right : Advances children second third) :
    Advances children first third :=
  ⟨fun ordered => right.ordered (left.ordered ordered),
    fun node mem => right.keeps node (left.keeps node mem)⟩

variable (nodes : List Node)

theorem fold_advances (search : List Node → Node → Except Node (List Node))
    (each : ∀ node ∈ nodes, ∀ before after, search before node = .ok after →
      Advances children before after ∧ node ∈ after)
    (before after : List Node) (found : nodes.foldlM search before = .ok after) :
    Advances children before after ∧ ∀ node ∈ nodes, node ∈ after := by
  induction nodes generalizing before with
  | nil =>
    have same : before = after := by simpa [pure, Except.pure] using found
    subst same
    exact ⟨Advances.refl children before, by simp⟩
  | cons node rest ih =>
    rw [List.foldlM_cons] at found
    cases first : search before node with
    | error cycle => simp [first, bind, Except.bind] at found
    | ok middle =>
      simp only [first, bind, Except.bind] at found
      obtain ⟨headAdvances, headFound⟩ := each node (by simp) before middle first
      obtain ⟨restAdvances, restFound⟩ :=
        ih (fun other mem => each other (by simp [mem])) middle found
      refine ⟨headAdvances.trans children restAdvances, ?_⟩
      intro other mem
      rcases List.mem_cons.mp mem with rfl | inRest
      · exact restAdvances.keeps other headFound
      · exact restFound other inRest

variable [DecidableEq Node]

theorem visit_advances (fuel : Nat) (node : Node) (visiting before after : List Node)
    (found : visit children fuel node visiting before = .ok after) :
    Advances children before after ∧ node ∈ after := by
  induction fuel generalizing node visiting before after with
  | zero => simp [visit] at found
  | succ fuel ih =>
    rw [visit] at found
    split_ifs at found with onPath done
    · have same : before = after := by simpa using found
      subst same
      exact ⟨Advances.refl children before, done⟩
    · cases below : (children node).foldlM
          (fun finished child => visit children fuel child (node :: visiting) finished)
          before with
      | error cycle => simp [below, bind, Except.bind] at found
      | ok finished =>
        simp only [below, bind, Except.bind, Except.ok.injEq] at found
        subst found
        obtain ⟨advances, childrenDone⟩ := fold_advances children (children node) _
          (fun child _ inner outer found => ih child (node :: visiting) inner outer found)
          before finished below
        refine ⟨⟨?_, ?_⟩, by simp⟩
        · intro ordered
          exact children_first_append children finished node (advances.ordered ordered) childrenDone
        · intro other mem
          exact List.mem_append_left _ (advances.keeps other mem)

theorem visit_all_order (nodes order : List Node)
    (found : visitAll children nodes = .ok order) :
    ChildrenFirst children order ∧ ∀ node ∈ nodes, node ∈ order := by
  obtain ⟨advances, finished⟩ := fold_advances children nodes _
    (fun node _ before after found => visit_advances children _ node [] before after found)
    [] order found
  exact ⟨advances.ordered (children_first_nil children), finished⟩

theorem ranked_of_children_first (nodes order : List Node)
    (ordered : ChildrenFirst children order) (finished : ∀ node ∈ nodes, node ∈ order) :
    Ranked children nodes := by
  refine ⟨fun node => order.idxOf node, ?_⟩
  intro node mem child isChild
  obtain ⟨before, after, split, fresh⟩ :=
    List.eq_append_cons_of_mem (finished node mem)
  have past : child ∈ before := ordered before node after split child isChild
  have childIndex : order.idxOf child < before.length := by
    rw [split, List.idxOf_append_of_mem past]
    exact List.idxOf_lt_length_iff.mpr past
  have nodeIndex : order.idxOf node = before.length := by
    rw [split, List.idxOf_append_of_notMem fresh]
    simp
  change order.idxOf child < order.idxOf node
  rw [nodeIndex]
  exact childIndex

omit [DecidableEq Node] in
theorem fold_succeeds (search : List Node → Node → Except Node (List Node))
    (each : ∀ node ∈ nodes, ∀ before, ∃ after, search before node = .ok after)
    (before : List Node) : ∃ after, nodes.foldlM search before = .ok after := by
  induction nodes generalizing before with
  | nil => exact ⟨before, rfl⟩
  | cons node rest ih =>
    obtain ⟨middle, first⟩ := each node (by simp) before
    obtain ⟨after, others⟩ := ih (fun other mem => each other (by simp [mem])) middle
    exact ⟨after, by rw [List.foldlM_cons, first]; exact others⟩

theorem visit_succeeds (rank : Node → Nat)
    (closed : ∀ node ∈ nodes, ∀ child ∈ children node, child ∈ nodes)
    (falls : ∀ node ∈ nodes, ∀ child ∈ children node, rank child < rank node)
    (fuel : Nat) (node : Node) (visiting before : List Node)
    (mem : node ∈ nodes) (pathInside : ∀ passed ∈ visiting, passed ∈ nodes)
    (pathDistinct : visiting.Nodup) (above : ∀ passed ∈ visiting, rank node < rank passed)
    (enough : nodes.length < visiting.length + fuel) :
    ∃ after, visit children fuel node visiting before = .ok after := by
  induction fuel generalizing node visiting before with
  | zero =>
    have short : visiting.length ≤ nodes.length :=
      (List.subperm_of_subset pathDistinct pathInside).length_le
    omega
  | succ fuel ih =>
    have offPath : node ∉ visiting := fun onPath =>
      (Nat.lt_irrefl _ (above node onPath)).elim
    rw [visit, if_neg offPath]
    split_ifs with done
    · exact ⟨before, rfl⟩
    · obtain ⟨finished, below⟩ := fold_succeeds (children node)
        (fun done child => visit children fuel child (node :: visiting) done)
        (by
          intro child isChild inner
          have lower := falls node mem child isChild
          refine ih child (node :: visiting) inner (closed node mem child isChild)
            ?_ (List.nodup_cons.mpr ⟨offPath, pathDistinct⟩) ?_ ?_
          · intro passed onPath
            rcases List.mem_cons.mp onPath with rfl | past
            · exact mem
            · exact pathInside passed past
          · intro passed onPath
            rcases List.mem_cons.mp onPath with rfl | past
            · exact lower
            · exact Nat.lt_trans lower (above passed past)
          · simp only [List.length_cons]
            omega)
        before
      exact ⟨finished ++ [node], by rw [below]; rfl⟩

theorem visit_all_ok_iff
    (closed : ∀ node ∈ nodes, ∀ child ∈ children node, child ∈ nodes) :
    (∃ order, visitAll children nodes = .ok order) ↔ Ranked children nodes := by
  constructor
  · rintro ⟨order, found⟩
    obtain ⟨ordered, finished⟩ := visit_all_order children nodes order found
    exact ranked_of_children_first children nodes order ordered finished
  · rintro ⟨rank, falls⟩
    apply fold_succeeds
    intro node mem before
    exact visit_succeeds children nodes rank closed falls _ node [] before mem
      (by simp) List.nodup_nil (by simp) (by simp)

omit [DecidableEq Node] in
theorem exists_unfinished_with_finished_children (ranked : Ranked children nodes)
    (closed : ∀ node ∈ nodes, ∀ child ∈ children node, child ∈ nodes)
    (finished : Node → Prop) (start : Node) (mem : start ∈ nodes)
    (unfinished : ¬finished start) :
    ∃ node ∈ nodes, ¬finished node ∧ ∀ child ∈ children node, finished child := by
  obtain ⟨rank, falls⟩ := ranked
  induction atHeight : rank start using Nat.strongRecOn generalizing start with
  | _ height ih =>
    by_cases ready : ∀ child ∈ children start, finished child
    · exact ⟨start, mem, unfinished, ready⟩
    · push Not at ready
      obtain ⟨child, isChild, waiting⟩ := ready
      have lower : rank child < height := by
        rw [← atHeight]
        exact falls start mem child isChild
      exact ih (rank child) lower child (closed start mem child isChild) waiting rfl

end ranks

variable {Node : Type} (children : Node → List Node)

inductive Visits : List Node → List Node → List Node → Except Node (List Node) → Prop
  | done (path visited : List Node) : Visits path visited [] (.ok visited)
  | meets {path visited rest : List Node} {node : Node} (onPath : node ∈ path) :
      Visits path visited (node :: rest) (.error node)
  | skips {path visited rest : List Node} {node : Node} {res : Except Node (List Node)}
      (offPath : node ∉ path) (known : node ∈ visited)
      (after : Visits path visited rest res) : Visits path visited (node :: rest) res
  | fails {path visited rest : List Node} {node cycle : Node}
      (offPath : node ∉ path) (fresh : node ∉ visited)
      (below : Visits (node :: path) visited (children node) (.error cycle)) :
      Visits path visited (node :: rest) (.error cycle)
  | finishes {path visited rest finished : List Node} {node : Node}
      {res : Except Node (List Node)} (offPath : node ∉ path) (fresh : node ∉ visited)
      (below : Visits (node :: path) visited (children node) (.ok finished))
      (after : Visits path (finished ++ [node]) rest res) :
      Visits path visited (node :: rest) res

def Needs (node child : Node) : Prop := child ∈ children node

def Acyclic : Prop := ∀ node, ¬Relation.TransGen (Needs children) node node

variable {children}

section search

variable [DecidableEq Node]

theorem visits_fold (nodes : List Node)
    (closed : ∀ node ∈ nodes, ∀ child ∈ children node, child ∈ nodes)
    (fuel : Nat) (path visited todo : List Node)
    (pathInside : ∀ passed ∈ path, passed ∈ nodes) (pathDistinct : path.Nodup)
    (enough : nodes.length < path.length + fuel) (inside : ∀ node ∈ todo, node ∈ nodes) :
    Visits children path visited todo
      (todo.foldlM (fun done node => visit children fuel node path done) visited) := by
  induction fuel generalizing path visited todo with
  | zero =>
    have short : path.length ≤ nodes.length :=
      (List.subperm_of_subset pathDistinct pathInside).length_le
    omega
  | succ fuel ih =>
    induction todo generalizing visited with
    | nil => exact .done path visited
    | cons node rest others =>
      have mem := inside node List.mem_cons_self
      have later := fun known => others known
        (fun other listed => inside other (List.mem_cons_of_mem _ listed))
      rw [List.foldlM_cons, visit]
      split_ifs with onPath known
      · exact .meets onPath
      · exact .skips onPath known (later visited)
      · have below := ih (node :: path) visited (children node) (by
            intro passed listed
            cases List.mem_cons.mp listed with
            | inl same => rw [same]; exact mem
            | inr past => exact pathInside passed past)
          (List.nodup_cons.mpr ⟨onPath, pathDistinct⟩)
          (by simp only [List.length_cons]; omega)
          (closed node mem)
        cases search : (children node).foldlM
            (fun done child => visit children fuel child (node :: path) done) visited with
        | error cycle =>
          rw [search] at below
          exact .fails onPath known below
        | ok finished =>
          rw [search] at below
          exact .finishes onPath known below (later (finished ++ [node]))

theorem visits_all (nodes : List Node)
    (closed : ∀ node ∈ nodes, ∀ child ∈ children node, child ∈ nodes) :
    Visits children [] [] nodes (visitAll children nodes) :=
  visits_fold nodes closed (nodes.length + 1) [] [] nodes (by simp) List.nodup_nil
    (by simp only [List.length_nil]; omega) (fun _ mem => mem)

end search

theorem Visits.cycle {path visited todo : List Node} {res : Except Node (List Node)}
    (visits : Visits children path visited todo res)
    (needed : ∀ node ∈ todo, ∀ passed ∈ path, Relation.TransGen (Needs children) passed node)
    (node : Node) (failed : res = .error node) :
    Relation.TransGen (Needs children) node node := by
  induction visits with
  | done path visited => cases failed
  | meets onPath =>
    cases failed
    exact needed _ List.mem_cons_self _ onPath
  | skips _ _ _ ih =>
    exact ih (fun other mem => needed other (List.mem_cons_of_mem _ mem)) failed
  | fails _ _ _ ih =>
    apply ih _ failed
    intro child isChild passed onPath
    have step : Relation.TransGen (Needs children) _ child := .single isChild
    cases List.mem_cons.mp onPath with
    | inl same => rw [same]; exact step
    | inr past => exact (needed _ List.mem_cons_self passed past).trans step
  | finishes _ _ _ _ _ ih =>
    exact ih (fun other mem => needed other (List.mem_cons_of_mem _ mem)) failed

theorem rank_falls (nodes : List Node) (rank : Node → Nat)
    (closed : ∀ node ∈ nodes, ∀ child ∈ children node, child ∈ nodes)
    (falls : ∀ node ∈ nodes, ∀ child ∈ children node, rank child < rank node)
    (node below : Node) (mem : node ∈ nodes)
    (chain : Relation.TransGen (Needs children) node below) :
    below ∈ nodes ∧ rank below < rank node := by
  induction chain with
  | single step => exact ⟨closed node mem _ step, falls node mem _ step⟩
  | tail _ step ih =>
    have lower := falls _ ih.1 _ step
    exact ⟨closed _ ih.1 _ step, by omega⟩

theorem ranked_iff_acyclic [DecidableEq Node] (nodes : List Node)
    (closed : ∀ node ∈ nodes, ∀ child ∈ children node, child ∈ nodes)
    (outside : ∀ node, node ∉ nodes → children node = []) :
    Ranked children nodes ↔ Acyclic children := by
  constructor
  · intro ranked node chain
    obtain ⟨rank, falls⟩ := ranked
    have mem : node ∈ nodes := by
      by_contra absent
      obtain ⟨child, step, _⟩ := Relation.TransGen.head'_iff.mp chain
      simp [Needs, outside node absent] at step
    have lower := (rank_falls nodes rank closed falls node node mem chain).2
    omega
  · intro acyclic
    apply (visit_all_ok_iff children nodes closed).mp
    have search := visits_all nodes closed
    cases found : visitAll children nodes with
    | ok order => exact ⟨order, rfl⟩
    | error cycle =>
      rw [found] at search
      exact absurd (search.cycle (by simp) cycle rfl) (acyclic cycle)

end Ois.Library.Dag
