import Roundtable.Proofs.Script.Grammar.Soundness
/-!
What the grammar derives is read by the parser, unless it needs more levels than the parser has; and
then the parser says so. A phrase is read with any tokens behind it that do not go on with it, which
is a matter of how tightly the first of these binds.
-/

namespace Roundtable.Script

open Roundtable.Script.Parser

/-- The reading is the expected one, or, if `deep` allows that, the levels are used up. -/
def Unless {α : Type} (deep : Prop) (reading expected : Reading α) : Prop :=
  reading = expected ∨ deep ∧ reading = .error .tooDeep

namespace Unless

variable {α : Type} {deep : Prop} {first second third : Reading α}

theorem trans (hfirst : Unless deep first second) (hsecond : Unless deep second third) :
    Unless deep first third := by
  rcases hfirst with rfl | hdeep
  · exact hsecond
  · exact .inr hdeep

theorem imp {weaker : Prop} (h : Unless deep first second) (himp : deep → weaker) :
    Unless weaker first second := by
  rcases h with h | ⟨hdeep, h⟩
  · exact .inl h
  · exact .inr ⟨himp hdeep, h⟩

theorem bind {β : Type} {value : α × List Token} (h : Unless deep first (.ok value))
    (next : α × List Token → Reading β) : Unless deep (first.bind next) (next value) := by
  rcases h with h | ⟨hdeep, h⟩
  · exact .inl (by rw [h]; rfl)
  · exact .inr ⟨hdeep, by rw [h]; rfl⟩

end Unless

/-- How tightly the token at the head would bind what stands before it: as a bracket or a dot (7), a
power (6), an operator of terms (5) or sums (4), a comparison sign (3), `and` (2), `or` (1), or not
at all. -/
def joint : List Token → Nat
  | .symbol .leftParen :: _ | .symbol .leftBracket :: _ | .symbol .dot :: _ => 7
  | .symbol .doubleStar :: _ => 6
  | .symbol .star :: _ | .symbol .slash :: _ | .symbol .doubleSlash :: _
  | .symbol .percent :: _ => 5
  | .symbol .plus :: _ | .symbol .minus :: _ => 4
  | .symbol .equal :: _ | .symbol .notEqual :: _ | .symbol .less :: _ | .symbol .lessEqual :: _
  | .symbol .greater :: _ | .symbol .greaterEqual :: _ | .keyword .in :: _
  | .keyword .not :: .keyword .in :: _ => 3
  | .keyword .and :: _ => 2
  | .keyword .or :: _ => 1
  | _ => 0

section Equations

variable {operator : Token → Option (Expr → Expr → Expr)} {operand expression : Parser Expr}
  {inner : Nested → Parser Expr} {left first object : Expr} {token : Token} {close : Symbol}
  {combine : Expr → Expr → Expr} {op : CompareOp} {further : Array (CompareOp × Expr)}
  {items : Array Expr} {tokens after rest : List Token}

theorem chain_run : (chain operator operand).run tokens =
    (operand.run tokens).bind fun read => chainFrom operator operand read.1 read.2 := by
  unfold chain
  dsimp only
  cases operand.run tokens <;> rfl

theorem chainFrom_some (hsome : operator token = some combine) :
    chainFrom operator operand left (token :: after) = (operand.run after).bind fun read =>
      chainFrom operator operand (combine left read.1) read.2 := by
  rw [chainFrom]
  simp only [hsome]
  split <;> simp_all [Except.bind]

theorem chainFrom_none (hnone : ∀ token after, rest = token :: after → operator token = none) :
    chainFrom operator operand left rest = .ok (left, rest) := by
  unfold chainFrom
  cases rest with
  | nil => rfl
  | cons token after => simp only [hnone token after rfl]

theorem itemsFrom_close : itemsFrom expression close items (.symbol close :: rest) =
    .ok (items.toList, rest) := by
  rw [itemsFrom, List.head?_cons, if_pos rfl, List.tail_cons]

theorem itemsFrom_run (hopen : tokens.head? ≠ some (.symbol close)) :
    itemsFrom expression close items tokens = (expression.run tokens).bind fun read =>
      match read.2 with
      | [] => .error .unexpectedEnd
      | next :: rest =>
        if next = .symbol .comma then itemsFrom expression close (items.push read.1) rest
        else if next = .symbol close then .ok ((items.push read.1).toList, rest)
        else .error (.unexpected next) := by
  rw [itemsFrom, if_neg hopen]
  split <;> simp_all [Except.bind]

theorem atom_parenthesis : (Parser.atom expression).run (.symbol .leftParen :: after) =
    (expression.run after).bind fun read =>
      match read.2 with
      | .symbol .rightParen :: rest => .ok (read.1, rest)
      | behind => .error (unexpectedHead behind) := by
  show atomRun expression (.symbol .leftParen :: after) = _
  unfold atomRun
  dsimp only
  split <;> simp_all [Except.bind]

theorem atom_bracket : (Parser.atom expression).run (.symbol .leftBracket :: after) =
    (itemsFrom expression .rightBracket #[] after).bind fun read =>
      .ok (.list read.1, read.2) := by
  show atomRun expression (.symbol .leftBracket :: after) = _
  unfold atomRun
  dsimp only
  cases itemsFrom expression .rightBracket #[] after <;> rfl

theorem postfixed_run : (postfixed expression).run tokens =
    ((Parser.atom expression).run tokens).bind fun read =>
      postfixFrom expression read.1 read.2 := by
  unfold postfixed
  dsimp only
  cases (Parser.atom expression).run tokens <;> rfl

theorem postfixFrom_call : postfixFrom expression object (.symbol .leftParen :: after) =
    (itemsFrom expression .rightParen #[] after).bind fun read =>
      postfixFrom expression (.call object read.1) read.2 := by
  rw [postfixFrom]
  split <;> simp_all [Except.bind]

theorem postfixFrom_index : postfixFrom expression object (.symbol .leftBracket :: after) =
    (expression.run after).bind fun read =>
      match read.2 with
      | .symbol .rightBracket :: rest => postfixFrom expression (.index object read.1) rest
      | behind => .error (unexpectedHead behind) := by
  rw [postfixFrom]
  split <;> simp_all [Except.bind]

theorem power_run : (Parser.power inner).run tokens =
    ((postfixed (inner .expression)).run tokens).bind fun read =>
      match read.2 with
      | .symbol .doubleStar :: after => ((inner .signed).run after).bind fun exponent =>
          .ok (.binary .pow read.1 exponent.1, exponent.2)
      | rest => .ok (read.1, rest) := by
  unfold Parser.power
  dsimp only
  split
  · simp_all [Except.bind]
  · rename_i hread
    rw [hread]
    simp only [Except.bind]
    split <;> simp_all
  · rename_i hnot hread
    rw [hread]
    simp only [Except.bind]

theorem prefixedRun_eq {op : UnaryOp} : prefixedRun op operand tokens =
    (operand.run tokens).bind fun read => .ok (.unary op read.1, read.2) := by
  unfold prefixedRun
  cases operand.run tokens <;> rfl

theorem comparison_run : (Parser.comparison inner).run tokens =
    ((additive inner).run tokens).bind fun read =>
      comparisonsFrom (additive inner) read.1 #[] read.2 := by
  unfold Parser.comparison
  dsimp only
  cases (additive inner).run tokens <;> rfl

theorem comparisonsFrom_some (hsome : comparisonSign? tokens = some (op, after)) :
    comparisonsFrom operand first further tokens = (operand.run after).bind fun read =>
      comparisonsFrom operand first (further.push (op, read.1)) read.2 := by
  rw [comparisonsFrom]
  split <;> simp_all [Except.bind]
  split <;> simp_all

theorem comparisonsFrom_none (hnone : comparisonSign? tokens = none) :
    comparisonsFrom operand first further tokens =
      .ok (first.compared further.toList, tokens) := by
  rw [comparisonsFrom, Expr.compared, Array.isEmpty_toList]
  split <;> simp_all

end Equations

/-- Where a loop is reached behind `w`, it takes the next sign and operand as well. -/
theorem chainFrom_more {deep : Prop} {reading : Reading Expr}
    {operator : Token → Option (Expr → Expr → Expr)} {operand : Parser Expr} {a b : Expr}
    {token : Token} {combine : Expr → Expr → Expr} {after rest : List Token}
    (hsome : operator token = some combine)
    (hleft : Unless deep reading (chainFrom operator operand a (token :: after)))
    (hright : Unless deep (operand.run after) (.ok (b, rest))) :
    Unless deep reading (chainFrom operator operand (combine a b) rest) := by
  apply hleft.trans
  rw [chainFrom_some hsome]
  exact hright.bind _

section Joints

variable {tokens : List Token} {bound : Nat}

/-- Where the head of the tokens is known, both sides of the comparison are. -/
theorem joint_lt (h : (joint tokens).blt bound = true) : joint tokens < bound :=
  Nat.le_of_ble_eq_true h

theorem not_joint_lt (h : bound.ble (joint tokens) = true) : ¬joint tokens < bound :=
  Nat.not_lt.2 (Nat.le_of_ble_eq_true h)

theorem orOperator_none (h : joint tokens < 1) :
    ∀ token after, tokens = token :: after → orOperator token = none := by
  rintro token after rfl
  unfold orOperator
  split
  · exact absurd h (not_joint_lt rfl)
  · rfl

theorem andOperator_none (h : joint tokens < 2) :
    ∀ token after, tokens = token :: after → andOperator token = none := by
  rintro token after rfl
  unfold andOperator
  split
  · exact absurd h (not_joint_lt rfl)
  · rfl

theorem comparisonSign?_none (h : joint tokens < 3) : comparisonSign? tokens = none := by
  unfold comparisonSign?
  split
  all_goals first | rfl | exact absurd h (not_joint_lt rfl)

theorem additiveOperator_none (h : joint tokens < 4) :
    ∀ token after, tokens = token :: after → additiveOperator token = none := by
  rintro token after rfl
  unfold additiveOperator
  split
  all_goals first | rfl | exact absurd h (not_joint_lt rfl)

theorem termOperator_none (h : joint tokens < 5) :
    ∀ token after, tokens = token :: after → termOperator token = none := by
  rintro token after rfl
  unfold termOperator
  split
  all_goals first | rfl | exact absurd h (not_joint_lt rfl)

theorem postfixFrom_none {expression : Parser Expr} {object : Expr} (h : joint tokens < 7) :
    postfixFrom expression object tokens = .ok (object, tokens) := by
  unfold postfixFrom
  split
  all_goals first | rfl | exact absurd h (not_joint_lt rfl)

theorem additiveOperator_sign {op : BinaryOp} (h : op ∈ [BinaryOp.add, .sub]) :
    additiveOperator (.symbol op.sign) = some (.binary op) := by
  cases op <;> first | rfl | exact absurd h (by decide)

theorem joint_additive {op : BinaryOp} (h : op ∈ [BinaryOp.add, .sub]) (after : List Token) :
    joint (.symbol op.sign :: after) = 4 := by
  cases op <;> first | rfl | exact absurd h (by decide)

theorem termOperator_sign {op : BinaryOp} (h : op ∈ [BinaryOp.mul, .div, .floorDiv, .mod]) :
    termOperator (.symbol op.sign) = some (.binary op) := by
  cases op <;> first | rfl | exact absurd h (by decide)

theorem joint_term {op : BinaryOp} (h : op ∈ [BinaryOp.mul, .div, .floorDiv, .mod])
    (after : List Token) : joint (.symbol op.sign :: after) = 5 := by
  cases op <;> first | rfl | exact absurd h (by decide)

theorem comparisonSign?_signs (op : CompareOp) (after : List Token) :
    comparisonSign? (op.signs ++ after) = some (op, after) := by
  cases op <;> rfl

theorem joint_signs (op : CompareOp) (after : List Token) : joint (op.signs ++ after) = 3 := by
  cases op <;> rfl

end Joints

/-- How loosely the head of the tokens behind a nested phrase has to bind. -/
def Parser.Nested.bound : Nested → Nat
  | .expression => 1
  | .negated => 3
  | .signed => 6

/-- How the parser with `n` levels left reads tokens that begin with a phrase. Where a loop goes on
behind the phrase, that the loop is reached. -/
def Reads (n : Nat) (deep : Prop) : (phrase : Phrase) → List Token → phrase.Value → Prop
  | .nested kind, w, e => ∀ rest, joint rest < kind.bound →
      Unless deep ((nested n kind).run (w ++ rest)) (.ok (e, rest))
  | .disjunction, w, e => ∀ rest, joint rest < 2 →
      Unless deep ((disjunction (nested n)).run (w ++ rest))
        (chainFrom orOperator (chain andOperator (negated (nested n))) e rest)
  | .conjunction, w, e => ∀ rest, joint rest < 3 →
      Unless deep ((chain andOperator (negated (nested n))).run (w ++ rest))
        (chainFrom andOperator (negated (nested n)) e rest)
  | .negation, w, e => ∀ rest, joint rest < 3 →
      Unless deep ((negated (nested n)).run (w ++ rest)) (.ok (e, rest))
  | .comparison, w, e => ∀ rest, joint rest < 3 →
      Unless deep ((Parser.comparison (nested n)).run (w ++ rest)) (.ok (e, rest))
  | .compared, w, (first, further) => ∀ rest, joint rest < 4 →
      Unless deep ((Parser.comparison (nested n)).run (w ++ rest))
        (comparisonsFrom (additive (nested n)) first further.toArray rest)
  | .sum, w, e => ∀ rest, joint rest < 5 →
      Unless deep ((additive (nested n)).run (w ++ rest))
        (chainFrom additiveOperator (chain termOperator (signed (nested n))) e rest)
  | .term, w, e => ∀ rest, joint rest < 6 →
      Unless deep ((chain termOperator (signed (nested n))).run (w ++ rest))
        (chainFrom termOperator (signed (nested n)) e rest)
  | .signed, w, e => ∀ rest, joint rest < 6 →
      Unless deep ((signed (nested n)).run (w ++ rest)) (.ok (e, rest))
  | .power, w, e => ∀ rest, joint rest < 6 →
      Unless deep ((power (nested n)).run (w ++ rest)) (.ok (e, rest))
  | .postfixed, w, e => ∀ rest,
      Unless deep ((postfixed (nested n .expression)).run (w ++ rest))
        (postfixFrom (nested n .expression) e rest)
  | .atom, w, e => ∀ rest,
      Unless deep ((Parser.atom (nested n .expression)).run (w ++ rest)) (.ok (e, rest))
  | .items, w, es => ∀ close ∈ [Symbol.rightParen, .rightBracket], ∀ read rest,
      Unless deep (itemsFrom (nested n .expression) close read (w ++ .symbol close :: rest))
        (.ok (read.toList ++ es, rest))

namespace Reads

variable {n : Nat} {deep : Prop} {w v : List Token} {a b e : Expr}

/-- One level further in, there is one level less to read with. -/
theorem nested {kind : Nested} {inner : Prop} (himp : inner → deep)
    (h : ∀ rest, joint rest < kind.bound →
      Unless inner ((Parser.nested (n + 1) kind).run (w ++ rest)) (.ok (e, rest))) :
    Reads (n + 1) deep (.nested kind) w e :=
  fun rest hrest => (h rest hrest).imp himp

theorem disjunction_end (h : Reads n deep .disjunction w e) {rest : List Token}
    (hrest : joint rest < 1) :
    Unless deep ((disjunction (Parser.nested n)).run (w ++ rest)) (.ok (e, rest)) := by
  have hread := h rest (by omega)
  rwa [chainFrom_none (orOperator_none hrest)] at hread

theorem conjunction_end (h : Reads n deep .conjunction w e) {rest : List Token}
    (hrest : joint rest < 2) :
    Unless deep ((chain andOperator (negated (Parser.nested n))).run (w ++ rest))
      (.ok (e, rest)) := by
  have hread := h rest (by omega)
  rwa [chainFrom_none (andOperator_none hrest)] at hread

theorem compared_end {further : List (CompareOp × Expr)} (h : Reads n deep .compared w (e, further))
    {rest : List Token} (hrest : joint rest < 3) :
    Unless deep ((Parser.comparison (Parser.nested n)).run (w ++ rest))
      (.ok (e.compared further, rest)) := by
  have hread := h rest (by omega)
  rwa [comparisonsFrom_none (comparisonSign?_none hrest)] at hread

theorem sum_end (h : Reads n deep .sum w e) {rest : List Token} (hrest : joint rest < 4) :
    Unless deep ((additive (Parser.nested n)).run (w ++ rest)) (.ok (e, rest)) := by
  have hread := h rest (by omega)
  rwa [chainFrom_none (additiveOperator_none hrest)] at hread

theorem term_end (h : Reads n deep .term w e) {rest : List Token} (hrest : joint rest < 5) :
    Unless deep ((chain termOperator (Parser.signed (Parser.nested n))).run (w ++ rest))
      (.ok (e, rest)) := by
  have hread := h rest (by omega)
  rwa [chainFrom_none (termOperator_none hrest)] at hread

theorem postfixed_end (h : Reads n deep .postfixed w e) {rest : List Token}
    (hrest : joint rest < 7) :
    Unless deep ((Parser.postfixed (Parser.nested n .expression)).run (w ++ rest))
      (.ok (e, rest)) := by
  have hread := h rest
  rwa [postfixFrom_none hrest] at hread

theorem conjunction (h : Reads n deep .conjunction w e) : Reads n deep .disjunction w e := by
  intro rest hrest
  unfold Parser.disjunction
  rw [chain_run]
  exact (h.conjunction_end hrest).bind _

theorem or (ha : Reads n deep .disjunction w a) (hb : Reads n deep .conjunction v b) :
    Reads n deep .disjunction (w ++ .keyword .or :: v) (.logical .or a b) := by
  intro rest hrest
  rw [List.append_assoc, List.cons_append]
  exact chainFrom_more rfl (ha _ (joint_lt rfl)) (hb.conjunction_end hrest)

theorem negation (h : Reads n deep .negation w e) : Reads n deep .conjunction w e := by
  intro rest hrest
  rw [chain_run]
  exact (h rest hrest).bind _

theorem and (ha : Reads n deep .conjunction w a) (hb : Reads n deep .negation v b) :
    Reads n deep .conjunction (w ++ .keyword .and :: v) (.logical .and a b) := by
  intro rest hrest
  rw [List.append_assoc, List.cons_append]
  exact chainFrom_more rfl (ha _ (joint_lt rfl)) (hb rest hrest)

theorem comparison (hopens : Opens 2 w) (h : Reads n deep .comparison w e) :
    Reads n deep .negation w e := by
  intro rest hrest
  -- A comparison does not begin with `not`, so the parser does not mistake it for a negation.
  obtain ⟨token, after, hw, hopening⟩ := hopens
  have hread := h rest hrest
  show Unless deep (negatedRun (Parser.nested n) (w ++ rest)) _
  rw [hw, List.cons_append] at hread ⊢
  unfold negatedRun
  split
  · rename_i heq
    cases heq
    exact absurd hopening (by decide)
  · exact hread

theorem not (h : Reads n deep (.nested .negated) w e) :
    Reads n deep .negation (.keyword .not :: w) (.unary .not e) := by
  intro rest hrest
  show Unless deep (prefixedRun .not (Parser.nested n .negated) (w ++ rest)) _
  rw [prefixedRun_eq]
  exact (h rest hrest).bind _

theorem compared {further : List (CompareOp × Expr)} (h : Reads n deep .compared w (e, further)) :
    Reads n deep .comparison w (e.compared further) :=
  fun _ hrest => h.compared_end hrest

theorem first (h : Reads n deep .sum w e) : Reads n deep .compared w (e, []) := by
  intro rest hrest
  rw [comparison_run]
  exact (h.sum_end hrest).bind _

theorem further {first : Expr} {before : List (CompareOp × Expr)} {op : CompareOp}
    (ha : Reads n deep .compared w (first, before)) (hb : Reads n deep .sum v e) :
    Reads n deep .compared (w ++ op.signs ++ v) (first, before ++ [(op, e)]) := by
  intro rest hrest
  rw [List.append_assoc, List.append_assoc]
  apply (ha _ (by rw [joint_signs]; omega)).trans
  rw [comparisonsFrom_some (comparisonSign?_signs op _)]
  have hread := (hb.sum_end hrest).bind fun read =>
    comparisonsFrom (additive (Parser.nested n)) first (before.toArray.push (op, read.1)) read.2
  rwa [List.push_toArray] at hread

theorem term (h : Reads n deep .term w e) : Reads n deep .sum w e := by
  intro rest hrest
  unfold additive
  rw [chain_run]
  exact (h.term_end hrest).bind _

theorem sum {op : BinaryOp} (hop : op ∈ [BinaryOp.add, .sub]) (ha : Reads n deep .sum w a)
    (hb : Reads n deep .term v b) :
    Reads n deep .sum (w ++ .symbol op.sign :: v) (.binary op a b) := by
  intro rest hrest
  rw [List.append_assoc, List.cons_append]
  have hleft := ha (.symbol op.sign :: (v ++ rest)) (by rw [joint_additive hop]; omega)
  exact chainFrom_more (additiveOperator_sign hop) hleft (hb.term_end hrest)

theorem unary (h : Reads n deep .signed w e) : Reads n deep .term w e := by
  intro rest hrest
  rw [chain_run]
  exact (h rest hrest).bind _

theorem product {op : BinaryOp} (hop : op ∈ [BinaryOp.mul, .div, .floorDiv, .mod])
    (ha : Reads n deep .term w a) (hb : Reads n deep .signed v b) :
    Reads n deep .term (w ++ .symbol op.sign :: v) (.binary op a b) := by
  intro rest hrest
  rw [List.append_assoc, List.cons_append]
  have hleft := ha (.symbol op.sign :: (v ++ rest)) (by rw [joint_term hop]; omega)
  exact chainFrom_more (termOperator_sign hop) hleft (hb rest hrest)

theorem power (hopens : Opens 3 w) (h : Reads n deep .power w e) : Reads n deep .signed w e := by
  intro rest hrest
  obtain ⟨token, after, hw, hopening⟩ := hopens
  have hread := h rest hrest
  show Unless deep (signedRun (Parser.nested n) (w ++ rest)) _
  rw [hw, List.cons_append] at hread ⊢
  unfold signedRun
  split
  · rename_i heq
    cases heq
    exact absurd hopening (by decide)
  · rename_i heq
    cases heq
    exact absurd hopening (by decide)
  · exact hread

theorem sign {op : UnaryOp} (hop : op ∈ [UnaryOp.neg, .pos])
    (h : Reads n deep (.nested .signed) w e) :
    Reads n deep .signed (op.sign :: w) (.unary op e) := by
  intro rest hrest
  have hread : Unless deep (prefixedRun op (Parser.nested n .signed) (w ++ rest))
      (.ok (.unary op e, rest)) := by
    rw [prefixedRun_eq]
    exact (h rest hrest).bind _
  cases op with
  | neg => exact hread
  | pos => exact hread
  | not => exact absurd hop (by decide)

theorem postfixed (h : Reads n deep .postfixed w e) : Reads n deep .power w e := by
  intro rest hrest
  rw [power_run]
  have hstop : joint rest < 7 := by omega
  have hread := (h.postfixed_end hstop).bind fun read =>
    match read.2 with
    | .symbol .doubleStar :: after => ((Parser.nested n .signed).run after).bind fun exponent =>
        .ok (.binary .pow read.1 exponent.1, exponent.2)
    | rest => .ok (read.1, rest)
  apply hread.trans
  left
  dsimp only
  split
  · exact absurd hrest (not_joint_lt rfl)
  · rfl

theorem pow (ha : Reads n deep .postfixed w a) (hb : Reads n deep (.nested .signed) v b) :
    Reads n deep .power (w ++ .symbol .doubleStar :: v) (.binary .pow a b) := by
  intro rest hrest
  rw [List.append_assoc, List.cons_append, power_run]
  apply ((ha.postfixed_end (joint_lt rfl)).bind _).trans
  exact (hb rest hrest).bind _

theorem atom (h : Reads n deep .atom w e) : Reads n deep .postfixed w e := by
  intro rest
  rw [postfixed_run]
  exact (h rest).bind _

theorem call {arguments : List Expr} (ha : Reads n deep .postfixed w a)
    (hb : Reads n deep .items v arguments) :
    Reads n deep .postfixed (w ++ .symbol .leftParen :: v ++ [.symbol .rightParen])
      (.call a arguments) := by
  intro rest
  rw [List.append_assoc, List.append_assoc, List.cons_append, List.singleton_append]
  apply (ha _).trans
  rw [postfixFrom_call]
  exact (hb .rightParen (by decide) #[] rest).bind _

theorem index (ha : Reads n deep .postfixed w a) (hb : Reads n deep .expression v b) :
    Reads n deep .postfixed (w ++ .symbol .leftBracket :: v ++ [.symbol .rightBracket])
      (.index a b) := by
  intro rest
  rw [List.append_assoc, List.append_assoc, List.cons_append, List.singleton_append]
  apply (ha _).trans
  rw [postfixFrom_index]
  exact (hb (.symbol .rightBracket :: rest) Nat.zero_lt_one).bind _

theorem member {word : String} (h : Reads n deep .postfixed w e) :
    Reads n deep .postfixed (w ++ [.symbol .dot, .name word]) (.attribute e word) := by
  intro rest
  rw [List.append_assoc]
  apply (h _).trans
  left
  rw [List.cons_append, List.singleton_append, postfixFrom]

theorem literal {token : Token} (h : Literal token e) : Reads n deep .atom [token] e := by
  intro rest
  left
  cases h <;> rfl

theorem parentheses (h : Reads n deep .expression w e) :
    Reads n deep .atom (.symbol .leftParen :: w ++ [.symbol .rightParen]) e := by
  intro rest
  rw [List.append_assoc, List.cons_append, List.singleton_append, atom_parenthesis]
  exact (h (.symbol .rightParen :: rest) Nat.zero_lt_one).bind _

theorem list {es : List Expr} (h : Reads n deep .items w es) :
    Reads n deep .atom (.symbol .leftBracket :: w ++ [.symbol .rightBracket]) (.list es) := by
  intro rest
  rw [List.append_assoc, List.cons_append, List.singleton_append, atom_bracket]
  exact (h .rightBracket (by decide) #[] rest).bind _

theorem noItems : Reads n deep .items [] [] := by
  intro close _ read rest
  left
  rw [List.nil_append, itemsFrom_close, List.append_nil]

/-- No expression begins with a sign that closes a list of items. -/
theorem head?_ne_close {close : Symbol} (hclose : close ∈ [Symbol.rightParen, .rightBracket])
    (hopens : Opens 1 w) (rest : List Token) : (w ++ rest).head? ≠ some (.symbol close) := by
  obtain ⟨token, after, rfl, hopening⟩ := hopens
  intro heq
  cases heq
  cases close <;> first | exact absurd hopening (by decide) | exact absurd hclose (by decide)

theorem joint_close {close : Symbol} (hclose : close ∈ [Symbol.rightParen, .rightBracket])
    (rest : List Token) : joint (.symbol close :: rest) = 0 := by
  cases close <;> first | rfl | exact absurd hclose (by decide)

theorem lastItem (hopens : Opens 1 w) (h : Reads n deep .expression w e) :
    Reads n deep .items w [e] := by
  intro close hclose read rest
  rw [itemsFrom_run (head?_ne_close hclose hopens _)]
  apply ((h _ (by rw [joint_close hclose]; decide)).bind _).trans
  left
  have hcomma : Token.symbol close ≠ .symbol .comma := by
    rintro heq
    cases heq
    exact absurd hclose (by decide)
  dsimp only
  rw [if_neg hcomma, if_pos rfl, Array.toList_push]

theorem item {es : List Expr} (hopens : Opens 1 w) (ha : Reads n deep .expression w a)
    (hb : Reads n deep .items v es) : Reads n deep .items (w ++ .symbol .comma :: v) (a :: es) := by
  intro close hclose read rest
  rw [List.append_assoc, List.cons_append, itemsFrom_run (head?_ne_close hclose hopens _)]
  apply ((ha (.symbol .comma :: (v ++ .symbol close :: rest)) Nat.zero_lt_one).bind _).trans
  dsimp only
  rw [if_pos rfl]
  have hread := hb close hclose (read.push a) rest
  rwa [Array.toList_push, List.append_assoc, List.singleton_append] at hread

end Reads

/-- A phrase that a derivation of `m` levels gives is read with any number `n` of them, unless these
are fewer and are used up. -/
theorem Derives.reads {m : Nat} {phrase : Phrase} {w : List Token} {value : phrase.Value}
    (h : Derives m phrase w value) (n : Nat) : Reads n (n < m) phrase w value := by
  -- Only the first three rules take a level: without one the parser stops, and `0 < m` is known.
  induction h generalizing n with
  | expression _ ih =>
      cases n with
      | zero => exact fun rest _ => .inr ⟨Nat.zero_lt_succ _, rfl⟩
      | succ n => exact Reads.nested Nat.succ_lt_succ fun rest hrest => (ih n).disjunction_end hrest
  | negated _ ih =>
      cases n with
      | zero => exact fun rest _ => .inr ⟨Nat.zero_lt_succ _, rfl⟩
      | succ n => exact Reads.nested Nat.succ_lt_succ fun rest hrest => ih n rest hrest
  | signed _ ih =>
      cases n with
      | zero => exact fun rest _ => .inr ⟨Nat.zero_lt_succ _, rfl⟩
      | succ n => exact Reads.nested Nat.succ_lt_succ fun rest hrest => ih n rest hrest
  | conjunction _ ih => exact (ih n).conjunction
  | or _ _ iha ihb => exact (iha n).or (ihb n)
  | negation _ ih => exact (ih n).negation
  | and _ _ iha ihb => exact (iha n).and (ihb n)
  | comparison h ih => exact Reads.comparison (h.opens (by decide)) (ih n)
  | not _ ih => exact (ih n).not
  | compared _ ih => exact (ih n).compared
  | first _ ih => exact (ih n).first
  | further _ _ iha ihb => exact (iha n).further (ihb n)
  | term _ ih => exact (ih n).term
  | sum hop _ _ iha ihb => exact Reads.sum hop (iha n) (ihb n)
  | unary _ ih => exact (ih n).unary
  | product hop _ _ iha ihb => exact Reads.product hop (iha n) (ihb n)
  | power h ih => exact Reads.power (h.opens (by decide)) (ih n)
  | sign hop _ ih => exact Reads.sign hop (ih n)
  | postfixed _ ih => exact (ih n).postfixed
  | pow _ _ iha ihb => exact (iha n).pow (ihb n)
  | atom _ ih => exact (ih n).atom
  | call _ _ iha ihb => exact (iha n).call (ihb n)
  | index _ _ iha ihb => exact (iha n).index (ihb n)
  | member _ ih => exact (ih n).member
  | literal hliteral => exact Reads.literal hliteral
  | parentheses _ ih => exact (ih n).parentheses
  | list _ ih => exact (ih n).list
  | noItems => exact Reads.noItems
  | lastItem h ih => exact Reads.lastItem (h.opens (by decide)) (ih n)
  | item h _ iha ihb => exact Reads.item (h.opens (by decide)) (iha n) (ihb n)

end Roundtable.Script
