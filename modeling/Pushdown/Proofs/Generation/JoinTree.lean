import Pushdown.Proofs.Outcome

/-!
# `Proofs.Generation.JoinTree` — the joins of a FROM clause, read back from what is written

A query holds its joins as a tree. The FROM clause that is written for it is no tree: the joins along the left edge
are a list behind the first table, and only a join on the right of another keeps brackets. Outer joins do not
associate, so the list has to mean the same tree again. Reading it follows SQL: a list of joins associates to the
left, and a FROM clause in parentheses is a single operand.

## Contents

* `JoinTree`, `Node.joinTree` — trees of joins, and the one that a query holds.
* `Sql.Source.tree` — the tree that a FROM clause reads as.
* `JoinTree.Forall₂`, `JoinTree.parts` — trees of one form, and what is visited on the way, in order.
* `tree_push`, `forall₂_source` — what one more join means, and what a whole FROM clause means.
* `refusal?_source` — a FROM clause is refused for the first part that cannot be written.
* `Generator.source_keeps_join_tree` — both together.
-/

namespace Pushdown

/-! ## Trees of joins -/

/-- A tree of joins over operands `α`, with a condition `β` at each join. -/
inductive JoinTree (α β : Type)
  | operand (a : α)
  | join (kind : JoinKind) (left right : JoinTree α β) (condition : β)

namespace JoinTree

variable {α β γ δ : Type}

/-- The trees have the same form and the same kinds of join, with related operands and related conditions. -/
inductive Forall₂ (R : α → γ → Prop) (S : β → δ → Prop) : JoinTree α β → JoinTree γ δ → Prop
  | operand {a : α} {c : γ} (h : R a c) : Forall₂ R S (.operand a) (.operand c)
  | join {kind : JoinKind} {left right : JoinTree α β} {left' right' : JoinTree γ δ} {b : β} {d : δ}
      (hleft : Forall₂ R S left left') (hright : Forall₂ R S right right') (h : S b d) :
      Forall₂ R S (.join kind left right b) (.join kind left' right' d)

/-- A tree determines another of its form if its operands and conditions do. -/
theorem Forall₂.unique {R : α → γ → Prop} {S : β → δ → Prop} {t : JoinTree α β} {u u' : JoinTree γ δ}
    (hR : ∀ a c c', R a c → R a c' → c = c') (hS : ∀ b d d', S b d → S b d' → d = d')
    (h : t.Forall₂ R S u) (h' : t.Forall₂ R S u') : u = u' := by
  induction h generalizing u' with
  | operand ha =>
    cases h' with
    | operand ha' => rw [hR _ _ _ ha ha']
  | join _ _ hb ihleft ihright =>
    cases h' with
    | join hleft' hright' hb' => rw [ihleft hleft', ihright hright', hS _ _ _ hb hb']

/-- Operands and conditions in the order in which they are visited: a join after its operands. -/
def parts : JoinTree α β → List (α ⊕ β)
  | .operand a => [.inl a]
  | .join _ left right condition => left.parts ++ right.parts ++ [.inr condition]

end JoinTree

/-- The joins of a query; whatever is no join is an operand. -/
def Node.joinTree : Node → JoinTree Node Node
  | .join kind left right condition => .join kind left.joinTree right.joinTree condition
  | node => .operand node

namespace Sql

mutual

/-- The tree that an operand reads as. -/
def Factor.tree : Factor → JoinTree Factor Expr
  | .table name aliasName => .operand (.table name aliasName)
  | .nested source => source.tree

/-- The tree that a FROM clause reads as. -/
def Source.tree : Source → JoinTree Factor Expr
  | .mk head joins => treeBehind head.tree joins

/-- The tree of what was read and of the joins behind it, which associate to the left. -/
def treeBehind (read : JoinTree Factor Expr) : List Join → JoinTree Factor Expr
  | [] => read
  | .mk kind right condition :: joins => treeBehind (.join kind read right.tree condition) joins

end

/-- One more join at the end is the outermost join of the tree. -/
theorem treeBehind_append (read : JoinTree Factor Expr) (joins : List Join) (kind : JoinKind)
    (right : Factor) (condition : Expr) :
    treeBehind read (joins ++ [.mk kind right condition]) =
      .join kind (treeBehind read joins) right.tree condition := by
  induction joins generalizing read with
  | nil => rfl
  | cons j joins ih =>
    cases j with
    | mk kind' right' condition' => exact ih (.join kind' read right'.tree condition')

/-- One more join takes all that stands before it as its left operand. -/
theorem tree_push (s : Source) (kind : JoinKind) (right : Factor) (condition : Expr) :
    (s.push (.mk kind right condition)).tree = .join kind s.tree right.tree condition := by
  cases s with
  | mk head joins => exact treeBehind_append head.tree joins kind right condition

end Sql

/-! ## Refusals -/

namespace Outcome

variable {ε α β : Type}

/-- Why there is no result, if there is none. -/
def refusal? : Except ε α → Option ε
  | .ok _ => none
  | .error e => some e

theorem refusal?_eq_some_iff {x : Except ε α} {e : ε} : refusal? x = some e ↔ x = .error e := by
  cases x <;> simp [refusal?]

theorem refusal?_eq_none_iff {x : Except ε α} : refusal? x = none ↔ ∃ a, x = .ok a := by
  cases x <;> simp [refusal?]

/-- A sequence is refused for its first part that is refused. -/
theorem refusal?_bind {x : Except ε α} {f : α → Except ε β} {o : Option ε}
    (h : ∀ a, refusal? (f a) = o) : refusal? (x.bind f) = (refusal? x).or o := by
  cases x with
  | ok a => simpa [refusal?] using h a
  | error e => simp [refusal?]

end Outcome

/-! ## The FROM clause of a query -/

section Sources

variable (g : Generator)

/-- The operand is a table, and this is how it is written. -/
def Generator.WritesTable (node : Node) (factor : Sql.Factor) : Prop :=
  ∃ t, node = .table t ∧ factor = tableFactor g.dialect g.context t

/-- This is how the condition is written. -/
def Generator.WritesCondition (node : Node) (e : Sql.Expr) : Prop := (g.expr node).result = .ok e

/-- At most one tree can be written for a tree of the query. -/
theorem Generator.tree_unique {t : JoinTree Node Node} {u u' : JoinTree Sql.Factor Sql.Expr}
    (h : t.Forall₂ g.WritesTable g.WritesCondition u)
    (h' : t.Forall₂ g.WritesTable g.WritesCondition u') : u = u' := by
  refine h.unique ?_ ?_ h'
  · rintro _ _ _ ⟨t, rfl, rfl⟩ ⟨t', ht, rfl⟩
    injection ht with ht
    rw [ht]
  · intro b d d' hd hd'
    exact Except.ok.inj (hd.symm.trans hd')

/-- An operand that is a table, or a condition that can be written. -/
def Generator.WritesPart : Node ⊕ Node → Prop
  | .inl node => ∃ t, node = .table t
  | .inr condition => ∃ e, (g.expr condition).result = .ok e

/-- Why a part of a FROM clause cannot be written, if it cannot. -/
def Generator.partRefusal? : Node ⊕ Node → Option GenerationError
  | .inl (.table _) => none
  | .inl node => some (.relationExpected node.kind)
  | .inr condition => Outcome.refusal? (g.expr condition).result

/-- The right operand of a join: a table as it is, anything else as a FROM clause in parentheses. -/
def Generator.rightFactor : Node → Except GenerationError Sql.Factor
  | .table t => .ok (tableFactor g.dialect g.context t)
  | node => (g.source node).result.bind fun s => .ok (.nested s)

/-- A join is written from left to right, its condition last; the first part that is refused decides. -/
theorem result_source_join (kind : JoinKind) (left right condition : Node) :
    (g.source (.join kind left right condition)).result =
      (g.source left).result.bind fun s =>
      (g.rightFactor right).bind fun factor =>
      (g.expr condition).result.bind fun e =>
      .ok (s.push (.mk kind factor e)) := by
  rw [Generator.source, Traced.result_bind]
  congr 1
  funext s
  unfold Generator.rightFactor
  dsimp only
  split
  · simp
  · simp only [Traced.result_bind, Traced.result_pure]
    cases (g.source right).result <;> rfl

/-! ### What is written reads as the tree -/

/-- A right operand reads as its tree if its own FROM clause does. -/
theorem forall₂_rightFactor {node : Node} {factor : Sql.Factor}
    (hsource : ∀ s, (g.source node).result = .ok s →
      node.joinTree.Forall₂ g.WritesTable g.WritesCondition s.tree)
    (h : g.rightFactor node = .ok factor) :
    node.joinTree.Forall₂ g.WritesTable g.WritesCondition factor.tree := by
  unfold Generator.rightFactor at h
  split at h
  · next t =>
    injection h with h
    subst h
    exact .operand ⟨t, rfl, rfl⟩
  · obtain ⟨s, hs, hnested⟩ := Outcome.bind_eq_ok_iff.mp h
    injection hnested with hnested
    subst hnested
    exact hsource s hs

/-- **A FROM clause reads as the tree that it was written for.** -/
theorem forall₂_source {node : Node} {s : Sql.Source} (h : (g.source node).result = .ok s) :
    node.joinTree.Forall₂ g.WritesTable g.WritesCondition s.tree := by
  induction node using Node.source_induction generalizing s with
  | table t =>
    injection h with h
    subst h
    exact .operand ⟨t, rfl, rfl⟩
  | join kind left right condition ihleft ihright =>
    rw [result_source_join] at h
    obtain ⟨before, hbefore, h⟩ := Outcome.bind_eq_ok_iff.mp h
    obtain ⟨factor, hfactor, h⟩ := Outcome.bind_eq_ok_iff.mp h
    obtain ⟨e, he, h⟩ := Outcome.bind_eq_ok_iff.mp h
    injection h with h
    subst h
    rw [Sql.tree_push]
    exact .join (ihleft hbefore) (forall₂_rightFactor g (fun s hs => ihright hs) hfactor) he
  | other node hnode =>
    rw [g.source_eq_refuse hnode] at h
    cases h

/-! ### What is refused is the first part that cannot be written -/

theorem partRefusal?_eq_none_iff {part : Node ⊕ Node} :
    g.partRefusal? part = none ↔ g.WritesPart part := by
  cases part with
  | inl node => cases node <;> simp [Generator.partRefusal?, Generator.WritesPart]
  | inr condition => exact Outcome.refusal?_eq_none_iff

theorem partRefusal?_operand {node : Node} (h : ∀ t, node ≠ .table t) :
    g.partRefusal? (.inl node) = some (.relationExpected node.kind) := by
  cases node with
  | table t => exact absurd rfl (h t)
  | _ => rfl

/-- The right operand of a join is refused for the first of its parts that cannot be written; a table never is. -/
theorem refusal?_rightFactor (node : Node)
    (h : Outcome.refusal? (g.source node).result = node.joinTree.parts.findSome? g.partRefusal?) :
    Outcome.refusal? (g.rightFactor node) = node.joinTree.parts.findSome? g.partRefusal? := by
  rw [← h]
  unfold Generator.rightFactor
  split
  · rfl
  · rw [Outcome.refusal?_bind (o := none) fun s => rfl, Option.or_none]

/-- **A FROM clause is refused for the first part that cannot be written.** -/
theorem refusal?_source (node : Node) :
    Outcome.refusal? (g.source node).result = node.joinTree.parts.findSome? g.partRefusal? := by
  induction node using Node.source_induction with
  | table t => rfl
  | join kind left right condition ihleft ihright =>
    have hcondition : ∀ (s : Sql.Source) (factor : Sql.Factor),
        Outcome.refusal? ((g.expr condition).result.bind fun e =>
          Except.ok (s.push (.mk kind factor e))) = g.partRefusal? (.inr condition) := by
      intro s factor
      rw [Outcome.refusal?_bind (o := none) fun e => rfl, Option.or_none]
      rfl
    rw [result_source_join,
      Outcome.refusal?_bind fun s => Outcome.refusal?_bind fun factor => hcondition s factor,
      ihleft, refusal?_rightFactor g right ihright]
    simp [Node.joinTree, JoinTree.parts]
  | other node hnode =>
    cases node with
    | table | join => cases hnode
    | _ => rfl

/-! ### The two together -/

/-- A FROM clause on its own is written as it is in a statement. -/
theorem result_lexemes_of_source {node : Node} {s : Sql.Source} (h : (g.source node).result = .ok s) :
    (g.lexemes node).result = .ok s.lexemes := by
  cases node with
  | table t => rw [Generator.lexemes, Traced.result_bind, h]; rfl
  | join kind left right condition => rw [Generator.lexemes, Traced.result_bind, h]; rfl
  | _ => cases h

/-- **The FROM clause keeps the tree of joins.** If every operand is a table and every condition can be written, the
FROM clause is written, and read as SQL reads it, it is the tree of the query: the same tables in the same places,
the same kind of join at every join, and the condition that belongs to it. If an operand is anything else, and
all that is visited before it can be written, the FROM clause is refused because of that operand. -/
theorem Generator.source_keeps_join_tree (node : Node) :
    ((∀ part ∈ node.joinTree.parts, g.WritesPart part) →
      ∃ s, (g.source node).result = .ok s ∧ (g.lexemes node).result = .ok s.lexemes ∧
        node.joinTree.Forall₂ g.WritesTable g.WritesCondition s.tree) ∧
    ∀ before operand after, node.joinTree.parts = before ++ .inl operand :: after →
      (∀ part ∈ before, g.WritesPart part) → (∀ t, operand ≠ .table t) →
      ∃ e, (g.source node).result = .error e ∧
        e.unsupported? = some ("expected a table or a join", operand.kind) ∧
        (e.toFailure g.dialect.name).code = .unsupportedNode := by
  constructor
  · intro hparts
    have hnone : Outcome.refusal? (g.source node).result = none := by
      rw [refusal?_source, List.findSome?_eq_none_iff]
      exact fun part hpart => (partRefusal?_eq_none_iff g).mpr (hparts part hpart)
    obtain ⟨s, hs⟩ := Outcome.refusal?_eq_none_iff.mp hnone
    exact ⟨s, hs, result_lexemes_of_source g hs, forall₂_source g hs⟩
  · intro before operand after hsplit hbefore htable
    have hvisited : before.findSome? g.partRefusal? = none :=
      List.findSome?_eq_none_iff.mpr fun part hpart =>
        (partRefusal?_eq_none_iff g).mpr (hbefore part hpart)
    have hrefusal : Outcome.refusal? (g.source node).result = some (.relationExpected operand.kind) := by
      rw [refusal?_source, hsplit, List.findSome?_append, hvisited, List.findSome?_cons,
        partRefusal?_operand g htable]
      rfl
    exact ⟨_, Outcome.refusal?_eq_some_iff.mp hrefusal, rfl, rfl⟩

end Sources

/-- A join on the right of an outer join, itself on the left of another, stays where it was; a constant in the place
of a table is refused although a condition behind it could not be written either. -/
theorem Generator.source_of_mixed_joins :
    let g := Generator.standard .ansi {}
    let table := fun name : String => Table.mk name none { name, columns := [] }
    let written := fun name : String => JoinTree.operand (β := Sql.Expr) (tableFactor .ansi {} (table name))
    let yes := Node.literal (.bool true)
    let no := Node.literal (.bool false)
    let inner := Node.join .rightOuter (.table (table "B")) (.table (table "C")) yes
    let chain := Node.join .fullOuter (.join .leftOuter (.table (table "A")) inner no)
      (.table (table "D")) yes
    let broken := Node.join .inner (.table (table "A"))
      (.join .inner yes (.table (table "C")) inner) no
    (∃ s, (g.source chain).result = .ok s ∧ s.tree =
      .join .fullOuter
        (.join .leftOuter (written "A")
          (.join .rightOuter (written "B") (written "C") (.boolean true)) (.boolean false))
        (written "D") (.boolean true)) ∧
    ∃ e, (g.source broken).result = .error e ∧
      e.unsupported? = some ("expected a table or a join", .literal) := by
  intro g table written yes no inner chain broken
  obtain ⟨s, hs, -, htree⟩ := (source_keeps_join_tree g chain).1 (by
    simp [chain, inner, yes, no, Node.joinTree, JoinTree.parts, WritesPart, Generator.expr])
  obtain ⟨e, he, hunsupported, -⟩ := (source_keeps_join_tree g broken).2
    [.inl (.table (table "A"))] yes [.inl (.table (table "C")), .inr inner, .inr no] rfl
    (by simp [WritesPart]) (by simp [yes])
  refine ⟨⟨s, hs, g.tree_unique htree ?_⟩, e, he, hunsupported⟩
  exact .join (.join (.operand ⟨_, rfl, rfl⟩)
    (.join (.operand ⟨_, rfl, rfl⟩) (.operand ⟨_, rfl, rfl⟩) rfl) rfl) (.operand ⟨_, rfl, rfl⟩) rfl

end Pushdown
