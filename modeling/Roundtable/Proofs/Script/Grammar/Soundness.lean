import Roundtable.Proofs.Script.Grammar
/-!
What the parser reads is derived by the grammar, within the levels that it was given.
-/

namespace Roundtable.Script

open Roundtable.Script.Parser

/-- Whatever the parser reads is derived, with the value that it gives. -/
def Sound {α : Type} (parser : Parser α) (derives : List Token → α → Prop) : Prop :=
  ∀ ⦃tokens value rest⦄, parser.run tokens = .ok (value, rest) →
    ∃ w, tokens = w ++ rest ∧ derives w value

/-- A rule with one premise, and the same tokens, keeps a parser sound. -/
theorem Sound.imp {α : Type} {parser : Parser α} {derives : List Token → α → Prop}
    {derives' : List Token → α → Prop} (h : Sound parser derives)
    (himp : ∀ {w value}, derives w value → derives' w value) : Sound parser derives' := by
  intro tokens value rest hrun
  obtain ⟨w, htokens, hw⟩ := h hrun
  exact ⟨w, htokens, himp hw⟩

section Chains

variable {operator : Token → Option (Expr → Expr → Expr)} {operand : Parser Expr}
  {whole part : List Token → Expr → Prop}

/-- The loop over further operands keeps what was derived so far a derivation. -/
theorem chainFrom_sound (hoperand : Sound operand part)
    (hjoin : ∀ {token combine w v a b}, operator token = some combine → whole w a → part v b →
      whole (w ++ token :: v) (combine a b))
    {left value : Expr} {tokens rest before : List Token} (hleft : whole before left)
    (h : chainFrom operator operand left tokens = .ok (value, rest)) :
    ∃ w, tokens = w ++ rest ∧ whole (before ++ w) value := by
  fun_induction chainFrom operator operand left tokens generalizing before with
  | case1 left =>
      cases h
      exact ⟨[], rfl, by rwa [List.append_nil]⟩
  | case2 left token after hnone =>
      cases h
      exact ⟨[], rfl, by rwa [List.append_nil]⟩
  | case3 => cases h
  | case4 left token after combine hsome right middle hread ih =>
      obtain ⟨v, hafter, hpart⟩ := hoperand hread
      obtain ⟨w, hmiddle, hwhole⟩ := ih (hjoin hsome hleft hpart) h
      refine ⟨token :: v ++ w, ?_, ?_⟩
      · rw [hafter, hmiddle, List.cons_append, List.cons_append, List.append_assoc]
      · rwa [List.append_assoc] at hwhole

theorem chain_sound (hoperand : Sound operand part) (hone : ∀ {w e}, part w e → whole w e)
    (hjoin : ∀ {token combine w v a b}, operator token = some combine → whole w a → part v b →
      whole (w ++ token :: v) (combine a b)) :
    Sound (chain operator operand) whole := by
  intro tokens value rest h
  unfold chain at h
  dsimp only at h
  split at h
  · cases h
  · rename_i first middle hread
    obtain ⟨v, htokens, hpart⟩ := hoperand hread
    obtain ⟨w, hmiddle, hwhole⟩ := chainFrom_sound hoperand hjoin (hone hpart) h
    exact ⟨v ++ w, by rw [htokens, hmiddle, List.append_assoc], hwhole⟩

theorem termOperator_some {token : Token} {combine : Expr → Expr → Expr}
    (h : termOperator token = some combine) :
    ∃ op ∈ [BinaryOp.mul, .div, .floorDiv, .mod],
      token = .symbol op.sign ∧ combine = .binary op := by
  unfold termOperator at h
  split at h
  · exact ⟨.mul, by simp, rfl, (Option.some.inj h).symm⟩
  · exact ⟨.div, by simp, rfl, (Option.some.inj h).symm⟩
  · exact ⟨.floorDiv, by simp, rfl, (Option.some.inj h).symm⟩
  · exact ⟨.mod, by simp, rfl, (Option.some.inj h).symm⟩
  · cases h

theorem additiveOperator_some {token : Token} {combine : Expr → Expr → Expr}
    (h : additiveOperator token = some combine) :
    ∃ op ∈ [BinaryOp.add, .sub], token = .symbol op.sign ∧ combine = .binary op := by
  unfold additiveOperator at h
  split at h
  · exact ⟨.add, by simp, rfl, (Option.some.inj h).symm⟩
  · exact ⟨.sub, by simp, rfl, (Option.some.inj h).symm⟩
  · cases h

theorem prefixedRun_sound {op : UnaryOp} {sign : Token} {after rest : List Token} {value : Expr}
    (hoperand : Sound operand part)
    (hunary : ∀ {w e}, part w e → whole (sign :: w) (.unary op e))
    (h : prefixedRun op operand after = .ok (value, rest)) :
    ∃ w, sign :: after = w ++ rest ∧ whole w value := by
  unfold prefixedRun at h
  split at h
  · cases h
  · rename_i operandValue behind hread
    cases h
    obtain ⟨w, hafter, hw⟩ := hoperand hread
    exact ⟨sign :: w, by rw [hafter, List.cons_append], hunary hw⟩

end Chains

section Brackets

variable {n : Nat} {expression : Parser Expr}

theorem itemsFrom_sound (hexpression : Sound expression (Derives n .expression)) {close : Symbol}
    {read : Array Expr} {tokens rest : List Token} {values : List Expr}
    (h : itemsFrom expression close read tokens = .ok (values, rest)) :
    ∃ w items, tokens = w ++ .symbol close :: rest ∧ values = read.toList ++ items ∧
      Derives n .items w items := by
  fun_induction itemsFrom expression close read tokens with
  | case1 read tokens hclose =>
      cases h
      obtain ⟨after, rfl⟩ := List.head?_eq_some_iff.1 hclose
      exact ⟨[], [], rfl, (List.append_nil _).symm, .noItems⟩
  | case2 => cases h
  | case3 => cases h
  | case4 read tokens _ item after hread ih =>
      obtain ⟨w, htokens, hitem⟩ := hexpression hread
      obtain ⟨v, items, hafter, hvalues, hitems⟩ := ih h
      refine ⟨w ++ .symbol .comma :: v, item :: items, ?_, ?_, .item hitem hitems⟩
      · rw [htokens, hafter, List.append_assoc, List.cons_append]
      · rw [hvalues, Array.toList_push, List.append_assoc, List.singleton_append]
  | case5 read tokens _ item after hread =>
      cases h
      obtain ⟨w, htokens, hitem⟩ := hexpression hread
      exact ⟨w, [item], htokens, Array.toList_push, .lastItem hitem⟩
  | case6 => cases h

theorem atom_sound (hexpression : Sound expression (Derives n .expression)) :
    Sound (Parser.atom expression) (Derives n .atom) := by
  intro tokens value rest h
  change atomRun expression tokens = _ at h
  unfold atomRun at h
  split at h
  · cases h; exact ⟨_, rfl, .literal (.int _)⟩
  · cases h; exact ⟨_, rfl, .literal (.float _)⟩
  · cases h; exact ⟨_, rfl, .literal (.str _)⟩
  · cases h; exact ⟨_, rfl, .literal (.name _)⟩
  · cases h; exact ⟨_, rfl, .literal .true⟩
  · cases h; exact ⟨_, rfl, .literal .false⟩
  · cases h; exact ⟨_, rfl, .literal .none⟩
  · split at h
    · cases h
    · rename_i hread
      cases h
      obtain ⟨w, htokens, hinner⟩ := hexpression hread
      exact ⟨_, by rw [htokens]; simp, .parentheses hinner⟩
    · cases h
  · split at h
    · cases h
    · rename_i hread
      cases h
      obtain ⟨w, items, htokens, hvalues, hitems⟩ := itemsFrom_sound hexpression hread
      rw [List.nil_append] at hvalues
      exact ⟨_, by rw [htokens]; simp, .list (hvalues ▸ hitems)⟩
  · cases h

/-- The loop over calls, subscripts and members keeps what was derived so far a derivation. -/
theorem postfixFrom_sound (hexpression : Sound expression (Derives n .expression))
    {object value : Expr} {tokens rest before : List Token}
    (hobject : Derives n .postfixed before object)
    (h : postfixFrom expression object tokens = .ok (value, rest)) :
    ∃ w, tokens = w ++ rest ∧ Derives n .postfixed (before ++ w) value := by
  fun_induction postfixFrom expression object tokens generalizing before with
  | case1 => cases h
  | case2 object after arguments middle hread ih =>
      obtain ⟨v, items, hafter, hvalues, hitems⟩ := itemsFrom_sound hexpression hread
      rw [List.nil_append] at hvalues
      obtain ⟨w, hmiddle, hwhole⟩ := ih (.call hobject (hvalues ▸ hitems)) h
      refine ⟨.symbol .leftParen :: v ++ .symbol .rightParen :: w, ?_, ?_⟩
      · rw [hafter, hmiddle]; simp
      · simpa using hwhole
  | case3 => cases h
  | case4 object after position middle hread ih =>
      obtain ⟨v, hafter, hposition⟩ := hexpression hread
      obtain ⟨w, hmiddle, hwhole⟩ := ih (.index hobject hposition) h
      refine ⟨.symbol .leftBracket :: v ++ .symbol .rightBracket :: w, ?_, ?_⟩
      · rw [hafter, hmiddle]; simp
      · simpa using hwhole
  | case5 => cases h
  | case6 object word middle ih =>
      obtain ⟨w, hmiddle, hwhole⟩ := ih (.member hobject) h
      refine ⟨.symbol .dot :: .name word :: w, by rw [hmiddle]; rfl, ?_⟩
      simpa using hwhole
  | case7 => cases h
  | case8 =>
      cases h
      exact ⟨[], rfl, by rwa [List.append_nil]⟩

end Brackets

/-- What is known of the parsers one level further in, `n` levels being left for them. -/
def SoundInside (n : Nat) (inner : Nested → Parser Expr) : Prop :=
  ∀ kind, Sound (inner kind) (Derives n (.nested kind))

namespace SoundInside

variable {n : Nat} {inner : Nested → Parser Expr}

theorem postfixed (h : SoundInside n inner) :
    Sound (Parser.postfixed (inner .expression)) (Derives n .postfixed) := by
  intro tokens value rest hrun
  unfold Parser.postfixed at hrun
  dsimp only at hrun
  split at hrun
  · cases hrun
  · rename_i object middle hread
    obtain ⟨v, htokens, hatom⟩ := atom_sound (h .expression) hread
    obtain ⟨w, hmiddle, hwhole⟩ := postfixFrom_sound (h .expression) (.atom hatom) hrun
    exact ⟨v ++ w, by rw [htokens, hmiddle, List.append_assoc], hwhole⟩

theorem power (h : SoundInside n inner) : Sound (Parser.power inner) (Derives n .power) := by
  intro tokens value rest hrun
  unfold Parser.power at hrun
  dsimp only at hrun
  split at hrun
  · cases hrun
  · rename_i base after hbase
    split at hrun
    · cases hrun
    · rename_i exponent behind hexponent
      cases hrun
      obtain ⟨w, htokens, hw⟩ := h.postfixed hbase
      obtain ⟨v, hafter, hv⟩ := h .signed hexponent
      exact ⟨_, by rw [htokens, hafter]; simp, .pow hw hv⟩
  · rename_i base behind _ hbase
    cases hrun
    obtain ⟨w, htokens, hw⟩ := h.postfixed hbase
    exact ⟨w, htokens, .postfixed hw⟩

theorem signed (h : SoundInside n inner) : Sound (Parser.signed inner) (Derives n .signed) := by
  intro tokens value rest hrun
  change signedRun inner tokens = _ at hrun
  unfold signedRun at hrun
  split at hrun
  · have hneg : UnaryOp.neg ∈ [UnaryOp.neg, .pos] := by simp
    exact prefixedRun_sound (h .signed) (Derives.sign hneg) hrun
  · have hpos : UnaryOp.pos ∈ [UnaryOp.neg, .pos] := by simp
    exact prefixedRun_sound (h .signed) (Derives.sign hpos) hrun
  · exact h.power.imp Derives.power hrun

theorem additive (h : SoundInside n inner) : Sound (Parser.additive inner) (Derives n .sum) := by
  have hterm : Sound (chain termOperator (Parser.signed inner)) (Derives n .term) := by
    apply chain_sound h.signed Derives.unary
    intro token combine w v a b hsome ha hb
    obtain ⟨op, hop, rfl, rfl⟩ := termOperator_some hsome
    exact .product hop ha hb
  apply chain_sound hterm Derives.term
  intro token combine w v a b hsome ha hb
  obtain ⟨op, hop, rfl, rfl⟩ := additiveOperator_some hsome
  exact .sum hop ha hb

end SoundInside

theorem comparisonSign?_some {tokens rest : List Token} {op : CompareOp}
    (h : comparisonSign? tokens = some (op, rest)) : tokens = op.signs ++ rest := by
  unfold comparisonSign? at h
  split at h <;> cases h <;> rfl

theorem comparisonsFrom_sound {n : Nat} {operand : Parser Expr}
    (hoperand : Sound operand (Derives n .sum)) {first value : Expr}
    {further : Array (CompareOp × Expr)} {tokens rest before : List Token}
    (hbefore : Derives n .compared before (first, further.toList))
    (h : comparisonsFrom operand first further tokens = .ok (value, rest)) :
    ∃ w, tokens = w ++ rest ∧ Derives n .comparison (before ++ w) value := by
  fun_induction comparisonsFrom operand first further tokens generalizing before with
  | case1 further tokens hnone =>
      cases h
      refine ⟨[], rfl, ?_⟩
      rw [List.append_nil, ← Array.isEmpty_toList]
      exact .compared hbefore
  | case2 => cases h
  | case3 further tokens op after hsign right middle hread ih =>
      obtain ⟨v, hafter, hright⟩ := hoperand hread
      have hnext : Derives n .compared _ (first, further.toList ++ [(op, right)]) :=
        .further hbefore hright
      rw [← Array.toList_push] at hnext
      obtain ⟨w, hmiddle, hwhole⟩ := ih hnext h
      refine ⟨op.signs ++ v ++ w, ?_, ?_⟩
      · rw [comparisonSign?_some hsign, hafter, hmiddle]; simp
      · simpa using hwhole

namespace SoundInside

variable {n : Nat} {inner : Nested → Parser Expr}

theorem comparison (h : SoundInside n inner) :
    Sound (Parser.comparison inner) (Derives n .comparison) := by
  intro tokens value rest hrun
  unfold Parser.comparison at hrun
  dsimp only at hrun
  split at hrun
  · cases hrun
  · rename_i first middle hread
    obtain ⟨v, htokens, hfirst⟩ := h.additive hread
    obtain ⟨w, hmiddle, hwhole⟩ := comparisonsFrom_sound h.additive (.first hfirst) hrun
    exact ⟨v ++ w, by rw [htokens, hmiddle, List.append_assoc], hwhole⟩

theorem negated (h : SoundInside n inner) : Sound (Parser.negated inner) (Derives n .negation) := by
  intro tokens value rest hrun
  change negatedRun inner tokens = _ at hrun
  unfold negatedRun at hrun
  split at hrun
  · exact prefixedRun_sound (h .negated) Derives.not hrun
  · exact h.comparison.imp Derives.comparison hrun

theorem disjunction (h : SoundInside n inner) :
    Sound (Parser.disjunction inner) (Derives n .disjunction) := by
  have hand : Sound (chain andOperator (Parser.negated inner)) (Derives n .conjunction) := by
    apply chain_sound h.negated Derives.negation
    intro token combine w v a b hsome ha hb
    unfold andOperator at hsome
    split at hsome <;> cases hsome
    exact .and ha hb
  apply chain_sound hand Derives.conjunction
  intro token combine w v a b hsome ha hb
  unfold orOperator at hsome
  split at hsome <;> cases hsome
  exact .or ha hb

end SoundInside

/-- What is read with so many levels is derived with so many levels. -/
theorem nested_sound (levels : Nat) : SoundInside levels (nested levels) := by
  induction levels with
  | zero => exact fun kind tokens value rest h => by cases h
  | succ levels ih =>
      intro kind
      cases kind with
      | expression => exact ih.disjunction.imp Derives.expression
      | negated => exact ih.negated.imp Derives.negated
      | signed => exact ih.signed.imp Derives.signed

end Roundtable.Script
