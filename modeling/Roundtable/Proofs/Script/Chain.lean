import Roundtable.Proofs.Script.Silence
/-!
Comparison chains beside the `and` of their adjacent comparisons. The chain carries the value of each
operand to the next comparison; the conjunction evaluates the operand a second time for it. If the
operands in between write nothing, they come to counterparts of what they were, and no comparison
tells counterparts apart.
-/

namespace Roundtable.Script

open Execution

/-- The comparisons of neighbours along a chain that begins with `left`. -/
def adjacent (left : Expr) : List (CompareOp × Expr) → List Expr
  | [] => []
  | (op, right) :: rest => .compare left [(op, right)] :: adjacent right rest

/-- The expressions joined by `and`, from the left. -/
def conjoin : List Expr → Expr
  | [] => .bool true
  | first :: rest => rest.foldl (.logical .and) first

theorem adjacent_prefix (left : Expr) (links more : List (CompareOp × Expr)) :
    adjacent left links <+: adjacent left (links ++ more) := by
  induction links generalizing left with
  | nil => exact List.nil_prefix
  | cons link rest ih => exact List.prefix_cons_inj _ |>.2 (ih link.2)

variable {ω : Type} [Sink ω] {room : Room} {bindings : Bindings}

/-! ### Conjunctions -/

/-- What `and` comes to behind the value of its left operand. -/
def evalAnd (room : Room) (bindings : Bindings) (value : Value) (right : Expr) : Action ω Value := do
  if LogicalOp.and.decides room (← get).heap value then pure value else eval room bindings right

/-- Joins expressions by `and` to a value, from the left. -/
def evalConjuncts (room : Room) (bindings : Bindings) (value : Value) : List Expr → Action ω Value
  | [] => pure value
  | expr :: rest => do
    let next ← evalAnd room bindings value expr
    evalConjuncts room bindings next rest

theorem eval_and (left right : Expr) :
    (eval room bindings (.logical .and left right) : Action ω Value) =
      (do
        let value ← eval room bindings left
        evalAnd room bindings value right) :=
  rfl

theorem eval_foldl_and (first : Expr) (exprs : List Expr) :
    (eval room bindings (exprs.foldl (.logical .and) first) : Action ω Value) =
      (do
        let value ← eval room bindings first
        evalConjuncts room bindings value exprs) := by
  induction exprs generalizing first with
  | nil => exact (bind_pure (m := Action ω) _).symm
  | cons expr rest ih =>
      -- What is joined so far becomes the first expression of the rest.
      rw [List.foldl_cons, ih, eval_and, bind_assoc]
      rfl

theorem eval_conjoin (exprs : List Expr) :
    (eval room bindings (conjoin exprs) : Action ω Value) =
      evalConjuncts room bindings (.bool true) exprs := by
  cases exprs with
  | nil => rfl
  | cons first rest => exact eval_foldl_and first rest

theorem evalConjuncts_append (value : Value) (exprs more : List Expr) :
    (evalConjuncts room bindings value (exprs ++ more) : Action ω Value) =
      (do
        let next ← evalConjuncts room bindings value exprs
        evalConjuncts room bindings next more) := by
  induction exprs generalizing value with
  | nil => rfl
  | cons expr rest ih => simp only [List.cons_append, evalConjuncts, ih, bind_assoc]

theorem evalConjuncts_true_cons (expr : Expr) (rest : List Expr) :
    (evalConjuncts room bindings (.bool true) (expr :: rest) : Action ω Value) =
      (do
        let next ← eval room bindings expr
        evalConjuncts room bindings next rest) :=
  rfl

/-- Nothing is evaluated behind what does not hold. -/
theorem evalConjuncts_false (exprs : List Expr) :
    (evalConjuncts room bindings (.bool false) exprs : Action ω Value) = pure (.bool false) := by
  induction exprs with
  | nil => rfl
  | cons _ rest ih => exact ih

/-! ### One comparison -/

omit [Sink ω] in
/-- The heap alone decides, and it is left alone. -/
theorem Action.fromHeap_bind_apply {α β : Type} (result : Heap → Except RuntimeFault α)
    (next : α → Action ω β) (memory : Memory ω) :
    (fromHeap result >>= next) memory =
      match result memory.heap with
      | .ok value => next value memory
      | .error fault => .error fault memory := by
  show EStateM.bind (fromHeap result) next memory = _
  unfold EStateM.bind fromHeap
  rw [get_bind_apply]
  cases result memory.heap <;> rfl

/-- The last comparison of a chain gives whether it holds. -/
theorem evalChain_singleton (value : Value) (op : CompareOp) (right : Expr) :
    (evalChain room bindings value [(op, right)] : Action ω Value) =
      (do
        let other ← eval room bindings right
        let holds ← Action.fromHeap fun heap => value.compares room heap op other
        pure (.bool holds)) := by
  refine congrArg _ (funext fun other => congrArg _ (funext fun holds => ?_))
  cases holds <;> rfl

/-- Behind what holds the conjunction comes to the next comparison, and evaluates its left operand. -/
theorem evalConjuncts_compare {value : Value} {left right : Expr} {op : CompareOp}
    {memory after : Memory ω} (exprs : List Expr)
    (hleft : eval room bindings left memory = .ok value after) :
    evalConjuncts room bindings (.bool true) (.compare left [(op, right)] :: exprs) memory =
      (do
        let other ← eval room bindings right
        let holds ← Action.fromHeap fun heap => value.compares room heap op other
        evalConjuncts room bindings (.bool holds) exprs : Action ω Value) after := by
  have hchain : (eval room bindings (.compare left [(op, right)]) : Action ω Value) =
      (do
        let value ← eval room bindings left
        evalChain room bindings value [(op, right)]) := rfl
  rw [evalConjuncts_true_cons, hchain, bind_assoc, bind_of_ok hleft, evalChain_singleton]
  simp only [bind_assoc, pure_bind]

/-! ### The chain -/

section Chain

variable {pairs : Pairing} {value value' : Value} {memory memory' memory'' : Memory ω}

/-- An operand is evaluated again, to a counterpart, after its comparison. -/
theorem operand_again {later : Pairing} {expr : Expr} {other other' : Value}
    {middle middle' : Memory ω} (hbindings : bindings.Paired pairs bindings)
    (hsilent : expr.Silent room bindings memory.heap) (hmemory : memory.Paired pairs memory')
    (hrun : eval room bindings expr memory = .ok other middle)
    (hrun' : eval room bindings expr memory' = .ok other' middle')
    (hmiddle : middle.Paired later middle') :
    ∃ now again after, pairs ≤ now ∧ other.Paired now again ∧ middle.Paired now after ∧
      eval room bindings expr middle' = .ok again after := by
  have hgrows : memory'.heap.GrowsTo middle'.heap := eval_growsTo hrun'
  obtain ⟨now, again, after, hle, hagain, hafter, hrunAgain⟩ :=
    hsilent.again hbindings (hmemory.heap.growsTo (.refl _) hgrows) hrun middle'.output
  exact ⟨now, again, ⟨after, middle'.output⟩, hle, hagain, ⟨hafter, hmiddle.output_eq⟩, hrunAgain⟩

/-- One comparison on both sides. It comes to the same verdict, and nothing follows unless it holds. -/
theorem link_endings {left right : Expr} {op : CompareOp} {rest : List (CompareOp × Expr)}
    (hbindings : bindings.Paired pairs bindings)
    (hleft : eval room bindings left memory' = .ok value' memory'')
    (hvalue : value.Paired pairs value') (hmemory : memory.Paired pairs memory'')
    (hrest : ∀ later other other' middle middle',
      eval room bindings right memory = .ok other middle →
      eval room bindings right memory'' = .ok other' middle' → middle.Paired later middle' →
      pairs ≤ later → Endings Memory.Paired (fun _ => Eq) pairs
        (evalChain room bindings other rest middle)
        (evalConjuncts room bindings (.bool true) (adjacent right rest) middle')) :
    Endings Memory.Paired (fun _ => Eq) pairs
      (evalChain room bindings value ((op, right) :: rest) memory)
      (evalConjuncts room bindings (.bool true) (adjacent left ((op, right) :: rest)) memory') := by
  rw [adjacent, evalConjuncts_compare _ hleft]
  refine (eval_together ⟨rfl, rfl⟩ hbindings right memory memory'' hmemory).bind
    fun later other other' middle middle' hle hother hmiddle hrun hrun' => ?_
  rw [Action.fromHeap_bind_apply, Action.fromHeap_bind_apply,
    Value.compares_eq_of_paired hmiddle.heap ⟨rfl, rfl⟩ op (hvalue.mono hle) hother]
  cases value'.compares room middle'.heap op other' with
  | error fault => exact .error fault hle hmiddle
  | ok holds =>
      cases holds with
      | false =>
          dsimp only
          rw [evalConjuncts_false]
          exact .ok hle rfl hmiddle
      | true => exact hrest later other other' middle middle' hrun hrun' hmiddle hle

/-- A chain goes together with the conjunction of its comparisons. The chain stands behind the value
of `left`; the conjunction has yet to evaluate `left`, and comes to a counterpart. -/
theorem evalChain_conjuncts {left : Expr} {link : CompareOp × Expr} {rest : List (CompareOp × Expr)}
    (hbindings : bindings.Paired pairs bindings)
    (hsilent : ∀ inner ∈ (link :: rest).dropLast, inner.2.Silent room bindings memory.heap)
    (hleft : eval room bindings left memory' = .ok value' memory'')
    (hvalue : value.Paired pairs value') (hmemory : memory.Paired pairs memory'') :
    Endings Memory.Paired (fun _ => Eq) pairs
      (evalChain room bindings value (link :: rest) memory)
      (evalConjuncts room bindings (.bool true) (adjacent left (link :: rest)) memory') := by
  induction rest generalizing link left value value' memory memory' memory'' pairs with
  | nil =>
      refine link_endings hbindings hleft hvalue hmemory fun _ _ _ _ _ _ _ hmiddle hle => ?_
      exact .ok hle rfl hmiddle
  | cons next rest ih =>
      -- The operand is the left one of the next comparison. The chain has its value already.
      refine link_endings hbindings hleft hvalue hmemory
        fun later other other' middle middle' hrun hrun' hmiddle _ => ?_
      obtain ⟨now, again, after, hnow, hagain, hafter, hrunAgain⟩ :=
        operand_again hbindings (hsilent link (by simp)) hmemory hrun hrun' hmiddle
      have hwithin : bindings.Within memory.heap :=
        Bindings.within_of_paired hbindings hmemory.heap
      have hlater (inner : CompareOp × Expr) (hinner : inner ∈ (next :: rest).dropLast) :
          inner.2.Silent room bindings middle.heap :=
        (hsilent inner (by simp [hinner])).of_growsTo hwithin (eval_growsTo hrun)
      exact (ih (hbindings.mono hnow) hlater hrunAgain hagain hafter).of_le hnow

/-- From one state on, a chain and the conjunction of its comparisons go together. -/
theorem eval_conjunction {first : Expr} {link : CompareOp × Expr} {rest : List (CompareOp × Expr)}
    {heap : Heap} (hwithin : bindings.Within heap)
    (hsilent : ∀ inner ∈ (link :: rest).dropLast, inner.2.Silent room bindings heap) (output : ω) :
    Endings Memory.Paired (fun _ => Eq) (bindings.itself heap)
      (eval room bindings (.compare first (link :: rest)) ⟨heap, output⟩)
      (eval room bindings (conjoin (adjacent first (link :: rest))) ⟨heap, output⟩) := by
  have hself := bindings.paired_itself heap
  have htogether : Together Memory.Paired Value.Paired (bindings.itself heap)
      (eval room bindings first : Action ω Value) (eval room bindings first) :=
    eval_together ⟨rfl, rfl⟩ hself first
  have hfirst := htogether ⟨heap, output⟩ ⟨heap, output⟩ ⟨hwithin.paired (.refl heap), rfl⟩
  rw [eval_conjoin]
  show Endings _ _ _ ((eval room bindings first >>= fun value =>
    evalChain room bindings value (link :: rest)) ⟨heap, output⟩) _
  cases hrun : eval room bindings first (⟨heap, output⟩ : Memory ω) with
  | error fault after =>
      have hcompare : eval room bindings (.compare first [link]) ⟨heap, output⟩ =
          .error fault after := bind_eq_error.2 (.inl hrun)
      rw [hrun] at hfirst
      rw [bind_eq_error.2 (.inl hrun), adjacent, evalConjuncts_true_cons,
        bind_eq_error.2 (.inl hcompare)]
      cases hfirst with
      | error _ hle hafter => exact .error fault hle hafter
  | ok value after =>
      rw [hrun] at hfirst
      rw [bind_of_ok hrun]
      cases hfirst with
      | ok hle hvalue hafter =>
          refine (evalChain_conjuncts (hself.mono hle) ?_ hrun hvalue hafter).of_le hle
          exact fun inner hinner => (hsilent inner hinner).of_growsTo hwithin (eval_growsTo hrun)

end Chain

/-! ### Behind a comparison that does not hold -/

section Unreached

variable {value : Value} {memory after : Memory ω}

theorem evalChain_append_of_false {links : List (CompareOp × Expr)}
    (h : evalChain room bindings value links memory = .ok (.bool false) after)
    (more : List (CompareOp × Expr)) :
    evalChain room bindings value (links ++ more) memory = .ok (.bool false) after := by
  induction links generalizing value memory with
  | nil => cases h
  | cons link rest ih =>
      obtain ⟨right, middle, hright, hnext⟩ := bind_eq_ok.1 h
      obtain ⟨holds, last, hholds, hend⟩ := bind_eq_ok.1 hnext
      refine bind_eq_ok.2 ⟨right, middle, hright, bind_eq_ok.2 ⟨holds, last, hholds, ?_⟩⟩
      cases holds with
      | false => exact hend
      | true => exact ih hend

theorem eval_compare_append_of_false {first : Expr} {links : List (CompareOp × Expr)}
    (h : eval room bindings (.compare first links) memory = .ok (.bool false) after)
    (more : List (CompareOp × Expr)) :
    eval room bindings (.compare first (links ++ more)) memory = .ok (.bool false) after := by
  obtain ⟨value, middle, hvalue, hchain⟩ := bind_eq_ok.1 h
  exact bind_eq_ok.2 ⟨value, middle, hvalue, evalChain_append_of_false hchain more⟩

theorem eval_conjoin_append_of_false {exprs : List Expr}
    (h : eval room bindings (conjoin exprs) memory = .ok (.bool false) after) (more : List Expr) :
    eval room bindings (conjoin (exprs ++ more)) memory = .ok (.bool false) after := by
  rw [eval_conjoin] at h ⊢
  rw [evalConjuncts_append, bind_of_ok h, evalConjuncts_false]
  rfl

end Unreached

/-- A comparison chain agrees with the conjunction of its adjacent comparisons if its operands in
between write nothing, although the conjunction evaluates these twice. Where the chain comes to a
comparison that does not hold, neither evaluates any operand behind it. -/
theorem comparison_chain_agrees (room : Room) {machine : Machine ω} (first : Expr)
    {link : CompareOp × Expr} {rest : List (CompareOp × Expr)}
    (hwithin : machine.bindings.Within machine.heap)
    (hsilent : ∀ inner ∈ (link :: rest).dropLast,
      inner.2.Silent room machine.bindings machine.heap) :
    let chain := evaluate room (.compare first (link :: rest)) machine
    let conjunction := evaluate room (conjoin (adjacent first (link :: rest))) machine
    (outcome chain = outcome conjunction ∧ (stateAfter chain).Alike (stateAfter conjunction)) ∧
      (outcome chain = .ok (.bool false) → ∀ more,
        evaluate room (.compare first (link :: rest ++ more)) machine = chain ∧
          evaluate room (conjoin (adjacent first (link :: rest ++ more))) machine =
            conjunction) := by
  intro chain conjunction
  have hagree : Agree chain conjunction :=
    evaluate_agree hwithin (eval_conjunction hwithin hsilent machine.output)
  refine ⟨hagree, fun hfalse more => ⟨?_, ?_⟩⟩
  · obtain ⟨after, hchain⟩ := outcome_eq_ok.1 hfalse
    obtain ⟨memory, hrun, rfl⟩ := evaluate_eq_ok.1 hchain
    rw [hchain]
    exact evaluate_eq_ok.2 ⟨memory, eval_compare_append_of_false hrun more, rfl⟩
  · obtain ⟨after, hconjunction⟩ := outcome_eq_ok.1 (hagree.1.symm.trans hfalse)
    obtain ⟨memory, hrun, rfl⟩ := evaluate_eq_ok.1 hconjunction
    obtain ⟨exprs, hexprs⟩ := adjacent_prefix first (link :: rest) more
    rw [hconjunction, ← hexprs]
    exact evaluate_eq_ok.2 ⟨memory, eval_conjoin_append_of_false hrun exprs, rfl⟩

/-- `[1] == [1] == [2]`: the conjunction makes the list in the middle twice, and neither evaluates
`print`, which stands behind the comparison that does not hold. -/
theorem comparison_chain_agrees_of_fresh_lists :
    let start : Machine := .fresh (.seeded "Campfire") .unbounded
    let list (item : Int64) : Expr := .list [.int item]
    let links := [(CompareOp.eq, list 1), (CompareOp.eq, list 2)]
    let behind := [(CompareOp.lt, Expr.call (.name "print") [])]
    let chain := evaluate Room.empty (.compare (list 1) links) start
    let conjunction := evaluate Room.empty (conjoin (adjacent (list 1) links)) start
    ((stateAfter chain).heap.lists.size = 3 ∧ (stateAfter conjunction).heap.lists.size = 4) ∧
      outcome chain = .ok (.bool false) ∧ outcome chain = outcome conjunction ∧
      evaluate Room.empty (.compare (list 1) (links ++ behind)) start = chain ∧
      evaluate Room.empty (conjoin (adjacent (list 1) (links ++ behind))) start = conjunction := by
  intro start list links behind chain conjunction
  have hwithin : start.bindings.Within start.heap := Bindings.within_seeded "Campfire"
  have hsilent (inner : CompareOp × Expr) (hinner : inner ∈ links.dropLast) :
      inner.2.Silent Room.empty start.bindings start.heap := by
    obtain rfl := List.mem_singleton.1 hinner
    rfl
  have hfalse : outcome chain = .ok (.bool false) := by
    rfl
  obtain ⟨hagree, hbehind⟩ := comparison_chain_agrees Room.empty (list 1) hwithin hsilent
  exact ⟨⟨by rfl, by rfl⟩, hfalse, hagree.1, hbehind hfalse behind⟩

end Roundtable.Script
