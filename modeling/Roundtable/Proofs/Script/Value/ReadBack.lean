import Roundtable.Proofs.Script.Grammar.Levels
import Roundtable.Proofs.Script.Token.Lines
import Roundtable.Proofs.Script.Transaction
import Roundtable.Proofs.Script.Value.Data
/-!
The text of plain data is a script for it. The lexer reads the text as tokens that depend on the tree
of the data alone, the parser reads these as the expression that builds it, as long as the levels of
nesting suffice, and the evaluation of that expression makes new lists with the same tree, in any
room, with any bindings and beside any other lists.
-/

namespace Roundtable.Script

open Roundtable.Script.Parser

/-! ### From the text to the tokens -/

section Texts

variable {depth : Nat} {c : Char} {rest behind : List Char} {token : Token}

/-- The text is read as the tokens wherever it stands, up to what ends it. -/
def ReadsAs (text : List Char) (tokens : List Token) : Prop :=
  ∀ depth rest, Delimited rest →
    scanFrom depth #[] (text ++ rest) = (scanFrom depth #[] rest).map (tokens ++ ·)

theorem scanFrom_token {after : Nat}
    (h : nextLexeme depth c rest = .ok ⟨some token, after, behind⟩) :
    scanFrom depth #[] (c :: rest) = (scanFrom after #[] behind).map (token :: ·) := by
  rw [scanFrom_of_step h, scanFrom_found]
  rfl

theorem map_append {ε α : Type} (result : Except ε (List α)) (first second : List α) :
    (result.map (second ++ ·)).map (first ++ ·) = result.map ((first ++ second) ++ ·) := by
  cases result <;> simp [Except.map]

theorem readsAs_nil : ReadsAs [] [] := by
  intro depth rest _
  cases h : scanFrom depth #[] rest <;> simp [h, Except.map]

theorem readsAs_token {tail : List Char} (h : ∀ depth rest, Delimited rest →
    nextLexeme depth c (tail ++ rest) = .ok ⟨some token, depth, rest⟩) :
    ReadsAs (c :: tail) [token] :=
  fun depth rest hrest => scanFrom_token (h depth rest hrest)

theorem readsAs_cons {tail : List Char} {tokens : List Token}
    (h : ∀ depth rest, nextLexeme depth c (tail ++ rest) = .ok ⟨some token, depth, tail ++ rest⟩)
    (htail : ReadsAs tail tokens) : ReadsAs (c :: tail) (token :: tokens) := by
  intro depth rest hrest
  rw [List.cons_append, scanFrom_token (h depth rest), htail depth rest hrest]
  exact map_append _ [token] tokens

theorem nextLexeme_minus {depth : Nat} {first : Char} {tail : List Char} (hfirst : first ≠ '=') :
    nextLexeme depth '-' (first :: tail) = .ok ⟨some (.symbol .minus), depth, first :: tail⟩ := by
  have hscan : scanSymbol? ('-' :: first :: tail) = some (.minus, first :: tail) := by
    unfold scanSymbol?
    split <;> simp_all
  exact (LexStep.symbol rfl hscan rfl).eq

theorem readsAs_keyword (reserved : Keyword) : ReadsAs reserved.word.toList [.keyword reserved] := by
  obtain ⟨first, tail, hword, hfirst, htail⟩ := keywordText_eq_cons reserved
  rw [hword]
  refine readsAs_token fun depth rest hrest => ?_
  rw [nextLexeme_word hfirst (List.all_eq_true.1 htail) hrest, ← hword, String.ofList_toList,
    wordToken_keyword]

theorem readsAs_quoted (text : String) : ReadsAs (Text.quoted text).toList [.str text] := by
  rw [Text.toList_quoted]
  refine readsAs_token fun depth rest _ => ?_
  rw [List.append_assoc]
  exact nextLexeme_quoted text

theorem readsAs_natural {value : Int64} {size : Nat} (hvalue : value.toInt = size) :
    ReadsAs (Nat.toDigits 10 size) [.int value] := by
  obtain ⟨first, tail, hdigits⟩ := List.exists_cons_of_ne_nil
    (Nat.toDigits_ne_nil (n := size) (b := 10))
  have hne : ∀ d ∈ Nat.toDigits 10 size, d ≠ '_' := fun d hd =>
    ne_of_isDigit (Nat.isDigit_of_mem_toDigits (by decide) (by decide) hd) rfl
  have hkept : (first :: tail).filter (· ≠ '_') = List.replicate 0 '0' ++ Nat.toDigits 10 size := by
    rw [← hdigits]
    exact List.filter_eq_self.2 fun d hd => decide_eq_true (hne d hd)
  rw [hdigits] at hne ⊢
  exact readsAs_token fun depth rest hrest =>
    nextLexeme_int hvalue (hne first List.mem_cons_self) hrest hkept

theorem toInt_neg_of_ne {value : Int64} (h : value ≠ Int64.minValue) :
    (-value).toInt = -value.toInt := by
  have hge := value.le_toInt
  have hlt := value.toInt_lt
  have hne : value.toInt ≠ -2 ^ 63 := fun heq => h (Int64.toInt_inj.1 heq)
  rw [Int64.toInt_neg]
  exact Int.bmod_eq_of_le (by omega) (by omega)

theorem readsAs_int (value : Int64) (readable : value ≠ Int64.minValue) :
    ReadsAs (toString value).toList (Datum.int value readable).tokens := by
  rw [Datum.tokens]
  show ReadsAs (toString value.toInt).toList _
  have hnegative : value < 0 ↔ value.toInt < 0 := Int64.lt_iff_toInt_lt
  cases hvalue : value.toInt with
  | ofNat size =>
      rw [if_neg (by rw [hnegative, hvalue]; exact Int.not_lt.2 (Int.natCast_nonneg size))]
      show ReadsAs (Nat.repr size).toList _
      rw [Nat.repr, String.toList_ofList]
      exact readsAs_natural hvalue
  | negSucc size =>
      have hopposite : (-value).toInt = (size + 1 : Nat) := by
        rw [toInt_neg_of_ne readable, hvalue]
        rfl
      rw [if_pos (by rw [hnegative, hvalue]; exact Int.negSucc_lt_zero size)]
      have htext : (toString (Int.negSucc size)).toList = '-' :: Nat.toDigits 10 (size + 1) := by
        show ("-" ++ Nat.repr (size + 1)).toList = _
        simp [Nat.repr]
      rw [htext]
      refine readsAs_cons (fun depth rest => ?_) (readsAs_natural hopposite)
      obtain ⟨first, tail, hdigits⟩ := List.exists_cons_of_ne_nil
        (Nat.toDigits_ne_nil (n := size + 1) (b := 10))
      have hfirst : first ∈ Nat.toDigits 10 (size + 1) := by simp [hdigits]
      rw [hdigits]
      exact nextLexeme_minus
        (ne_of_isDigit (Nat.isDigit_of_mem_toDigits (by decide) (by decide) hfirst) rfl)

theorem readsAs_comma {text : List Char} {tokens : List Token} (h : ReadsAs text tokens) :
    ReadsAs (',' :: ' ' :: text) (.symbol .comma :: tokens) := by
  refine readsAs_cons (fun _ _ => rfl) fun depth rest hrest => ?_
  have hblank : nextLexeme depth ' ' (text ++ rest) = .ok ⟨none, depth, text ++ rest⟩ := rfl
  rw [List.cons_append, scanFrom_of_step hblank]
  exact h depth rest hrest

theorem ReadsAs.append {text more : List Char} {part tokens : List Token} (h : ReadsAs text part)
    (hmore : ReadsAs more tokens) (hends : ∀ rest, Delimited (more ++ rest)) :
    ReadsAs (text ++ more) (part ++ tokens) := by
  intro depth rest hrest
  rw [List.append_assoc, h depth (more ++ rest) (hends rest), hmore depth rest hrest]
  exact map_append _ part tokens

theorem readsAs_items {texts : List String} {parts : List (List Token)}
    (h : List.Forall₂ (fun text part => ReadsAs text.toList part) texts parts) :
    ReadsAs (", ".intercalate texts).toList ([.symbol .comma].intercalate parts) := by
  rw [String.toList_intercalate]
  induction h with
  | nil => exact readsAs_nil
  | @cons text part texts parts hhead hmore ih =>
      cases hmore with
      | nil =>
          rw [List.map_singleton, List.intercalate_singleton, List.intercalate_singleton]
          exact hhead
      | cons =>
          rw [List.map_cons, List.map_cons, List.intercalate_cons_cons, List.intercalate_cons_cons,
            List.append_assoc, List.append_assoc, ← List.map_cons]
          exact hhead.append (readsAs_comma ih) fun _ => trivial

theorem readsAs_bracketed {texts : List String} {parts : List (List Token)}
    (h : List.Forall₂ (fun text part => ReadsAs text.toList part) texts parts) :
    ReadsAs (bracketed texts).toList
      (.symbol .leftBracket :: [.symbol .comma].intercalate parts ++ [.symbol .rightBracket]) := by
  intro depth rest _
  have htext : (bracketed texts).toList ++ rest =
      '[' :: ((", ".intercalate texts).toList ++ ']' :: rest) := by simp [bracketed]
  have hopen (after : List Char) : nextLexeme depth '[' after =
      .ok ⟨some (.symbol .leftBracket), depth + 1, after⟩ := rfl
  have hclose : nextLexeme (depth + 1) ']' rest = .ok ⟨some (.symbol .rightBracket), depth, rest⟩ :=
    rfl
  have hitems : scanFrom (depth + 1) #[] ((", ".intercalate texts).toList ++ ']' :: rest) = _ :=
    readsAs_items h (depth + 1) (']' :: rest) trivial
  rw [htext, scanFrom_token (hopen _), hitems, scanFrom_token hclose]
  cases scanFrom depth #[] rest <;> simp [Except.map]

variable {heap : Heap} {value : Value} {datum : Datum}

theorem readsAs_reprWithin (room : Room) (opened : List ListId)
    (hopened : ∀ outer ∈ opened, Relation.TransGen (Value.HasItem heap) (.list outer) value)
    (hacyclic : value.Acyclic heap) (h : value.Unfolds heap datum) :
    ReadsAs (value.reprWithin room heap opened).toList datum.tokens := by
  induction datum generalizing value opened with
  | none =>
      cases h
      rw [Value.reprWithin, Datum.tokens]
      exact readsAs_keyword .none
  | bool value =>
      cases h
      cases value with
      | true =>
          rw [Value.reprWithin, Datum.tokens]
          exact readsAs_keyword .true
      | false =>
          rw [Value.reprWithin, Datum.tokens]
          exact readsAs_keyword .false
  | int value readable =>
      cases h
      rw [Value.reprWithin]
      exact readsAs_int value readable
  | str text =>
      cases h
      rw [Value.reprWithin, Datum.tokens]
      exact readsAs_quoted text
  | list items ih =>
      cases h with
      | list hitems =>
          rw [Value.reprWithin_of_not_mem room heap (hacyclic.not_mem hopened), Datum.tokens]
          apply readsAs_bracketed
          rw [List.forall₂_map_left_iff, List.forall₂_map_right_iff]
          refine forall₂_imp_of_mem (fun item hitem datum hdatum hunfolds => ?_) hitems
          exact ih datum hdatum _ (Value.transGen_item hopened hitem) (hacyclic.inner hitem) hunfolds

theorem Value.tokensOf_repr (room : Room) (hacyclic : value.Acyclic heap)
    (h : value.Unfolds heap datum) : tokensOf (value.repr room heap) = .ok datum.tokens := by
  have hread := readsAs_reprWithin room [] (by simp) hacyclic h 0 [] trivial
  rw [List.append_nil, scanFrom] at hread
  unfold tokensOf Value.repr
  rw [hread]
  exact congrArg Except.ok (List.append_nil _)

end Texts

/-! ### From the tokens to the expression -/

namespace Datum

variable {items : List Datum}

theorem cost_lt_of_mem {item : Datum} (h : item ∈ items) :
    item.cost + 1 ≤ (Datum.list items).cost := by
  rw [cost]
  induction items with
  | nil => cases h
  | cons first rest ih =>
      rw [List.map_cons, List.foldr_cons]
      rcases List.mem_cons.1 h with rfl | h
      · exact Nat.le_max_left ..
      · exact Nat.le_trans (ih h) (Nat.le_max_right ..)

theorem derives_items {n : Nat}
    (h : ∀ item ∈ items, Derives n .expression item.tokens item.expr) :
    Derives n .items ([.symbol .comma].intercalate (items.map fun item => item.tokens))
      (items.map fun item => item.expr) := by
  induction items with
  | nil => exact .noItems
  | cons item rest ih =>
      obtain ⟨hitem, hrest⟩ := List.forall_mem_cons.1 h
      cases rest with
      | nil =>
          rw [List.map_singleton, List.map_singleton, List.intercalate_singleton]
          exact .lastItem hitem
      | cons next rest =>
          rw [List.map_cons, List.map_cons, List.intercalate_cons_cons, List.append_assoc,
            ← List.map_cons]
          exact .item hitem (ih hrest)

/-- The levels that the data costs suffice for its tokens. -/
theorem derives (datum : Datum) {n : Nat} (h : datum.cost ≤ n) :
    Derives n .signed datum.tokens datum.expr := by
  induction datum generalizing n with
  | none =>
      rw [tokens, expr]
      exact .power (.postfixed (.atom (.literal .none)))
  | bool value =>
      rw [tokens, expr]
      cases value with
      | true => exact .power (.postfixed (.atom (.literal .true)))
      | false => exact .power (.postfixed (.atom (.literal .false)))
  | int value readable =>
      rw [tokens, expr]
      rw [cost] at h
      split at h
      · rename_i hnegative
        obtain ⟨m, rfl⟩ := Nat.exists_eq_succ_of_ne_zero (Nat.ne_of_gt h)
        rw [if_pos hnegative, if_pos hnegative]
        exact .sign List.mem_cons_self (.signed (.power (.postfixed (.atom (.literal (.int _))))))
      · rename_i hnatural
        rw [if_neg hnatural, if_neg hnatural]
        exact .power (.postfixed (.atom (.literal (.int value))))
  | str text =>
      rw [tokens, expr]
      exact .power (.postfixed (.atom (.literal (.str text))))
  | list items ih =>
      rw [tokens, expr]
      refine .power (.postfixed (.atom (.list (derives_items fun item hitem => ?_))))
      have hlevel := Nat.le_trans (cost_lt_of_mem hitem) h
      have hpositive := Nat.lt_of_lt_of_le (Nat.succ_pos _) hlevel
      obtain ⟨m, rfl⟩ := Nat.exists_eq_succ_of_ne_zero (Nat.ne_of_gt hpositive)
      exact .expression_of_signed (ih item hitem (Nat.le_of_succ_le_succ hlevel))

/-- No fewer levels do. -/
theorem levels_expr (datum : Datum) : datum.expr.levels = datum.cost := by
  induction datum with
  | int value readable =>
      rw [expr, cost]
      split <;> rfl
  | list items ih =>
      rw [expr, cost, Expr.levels]
      induction items with
      | nil => rfl
      | cons item rest ihrest =>
          obtain ⟨hitem, hrest⟩ := List.forall_mem_cons.1 ih
          rw [List.map_cons, List.map_cons, List.foldr_cons, Expr.itemLevels, hitem, ihrest hrest]
  | _ =>
      rw [expr, cost]
      rfl

end Datum

/-! ### From the expression to the value -/

section Evaluation

variable (ω : Type) [Sink ω] (room : Room) (bindings : Bindings)

/-- The expression of the data makes a value that has the tree, and keeps it whatever lists are made
later. It changes no list, and writes nothing. -/
def Datum.Built (datum : Datum) : Prop :=
  ∀ (heap : Heap) (output : ω), ∃ value after,
    eval room bindings datum.expr ⟨heap, output⟩ = .ok value ⟨after, output⟩ ∧
      heap.GrowsTo after ∧ ∀ later, after.GrowsTo later → value.Unfolds later datum

variable {ω room bindings}

theorem Datum.built_of_pure {datum : Datum} {value : Value}
    (heval : eval room bindings datum.expr = (pure value : Action ω Value))
    (h : ∀ heap, value.Unfolds heap datum) : datum.Built ω room bindings :=
  fun heap output => ⟨value, heap, by rw [heval]; rfl, .refl heap, fun later _ => h later⟩

/-- The items are built one after the other, and those that are there outlast the next ones. -/
theorem Datum.builtAll {items : List Datum} (h : ∀ item ∈ items, item.Built ω room bindings)
    (values : Array Value) (heap : Heap) (output : ω) :
    ∃ found after,
      evalAll room bindings values (items.map fun item => item.expr) ⟨heap, output⟩ =
        .ok (values.toList ++ found).toArray ⟨after, output⟩ ∧
      heap.GrowsTo after ∧
      ∀ later, after.GrowsTo later → List.Forall₂ (Value.Unfolds later) found items := by
  induction items generalizing values heap with
  | nil =>
      refine ⟨[], heap, ?_, .refl heap, fun later _ => .nil⟩
      rw [List.append_nil, Array.toArray_toList]
      rfl
  | cons item rest ih =>
      obtain ⟨hitem, hrest⟩ := List.forall_mem_cons.1 h
      obtain ⟨value, middle, heval, hfirst, hkeeps⟩ := hitem heap output
      obtain ⟨found, after, hevalAll, hsecond, hkeepsAll⟩ := ih hrest (values.push value) middle
      refine ⟨value :: found, after, ?_, hfirst.trans hsecond, fun later hlater =>
        .cons (hkeeps later (hsecond.trans hlater)) (hkeepsAll later hlater)⟩
      rw [Array.toList_push, List.append_assoc, List.singleton_append] at hevalAll
      exact bind_eq_ok.2 ⟨value, ⟨middle, output⟩, heval, hevalAll⟩

/-- A sign turns an integer into its opposite if 64 bits hold that. -/
theorem signed_neg_neg {value : Int64} (readable : value ≠ Int64.minValue) :
    signed .neg (.int (-value)) = .ok (.int value) := by
  have hopposite : -(-value).toInt = value.toInt := by rw [toInt_neg_of_ne readable, Int.neg_neg]
  show Value.int <$> checked (-(-value).toInt) = _
  rw [hopposite, checked, toInt64?_toInt]
  rfl

variable (ω room bindings)

theorem Datum.built (datum : Datum) : datum.Built ω room bindings := by
  induction datum with
  | none => exact built_of_pure (by rw [expr]; rfl) fun _ => .none
  | bool value => exact built_of_pure (by rw [expr]; rfl) fun _ => .bool value
  | str text => exact built_of_pure (by rw [expr]; rfl) fun _ => .str text
  | int value readable =>
      by_cases hnegative : value < 0
      · intro heap output
        refine ⟨.int value, heap, ?_, .refl heap, fun later _ => .int value readable⟩
        rw [expr, if_pos hnegative]
        show Action.ofExcept (signed .neg (.int (-value))) ⟨heap, output⟩ = _
        rw [signed_neg_neg readable]
        rfl
      · refine built_of_pure ?_ fun _ => .int value readable
        rw [expr, if_neg hnegative]
        rfl
  | list items ih =>
      intro heap output
      obtain ⟨found, middle, hevalAll, hgrows, hkeeps⟩ := builtAll ih #[] heap output
      have hnew := middle.growsTo_allocate found.toArray
      refine ⟨.list middle.lists.size, (middle.allocate found.toArray).1, ?_, hgrows.trans hnew,
        fun later hlater => .list ?_⟩
      · rw [expr]
        exact bind_eq_ok.2 ⟨found.toArray, ⟨middle, output⟩, hevalAll, rfl⟩
      · rw [hlater.items_eq _ (by simp [Heap.allocate]), Heap.items_allocate_self]
        exact hkeeps later (hnew.trans hlater)

end Evaluation

namespace Value

variable {heap : Heap} {value : Value}

/-- The text of plain data is read back as data with the same tree, in any environment, as long as it
costs less than the levels of nesting that there are. Where it costs as many, its tokens are too
deep for an expression. -/
theorem repr_readBack (room : Room) (hacyclic : value.Acyclic heap) (hplain : value.Plain heap) :
    ∃ datum tokens, (∀ other, value.Unfolds heap other ↔ other = datum) ∧
      tokensOf (value.repr room heap) = .ok tokens ∧
      (datum.cost ≤ 99 → ∃ expr, Expr.ofTokens tokens = .ok expr ∧
        ∀ {ω : Type} [Sink ω] (reader : Room) (bindings : Bindings) (memory : Memory ω),
          ∃ found after, eval reader bindings expr memory = .ok found ⟨after, memory.output⟩ ∧
            memory.heap.GrowsTo after ∧ found.Unfolds after datum) ∧
      (100 ≤ datum.cost → Expr.ofTokens tokens = .error .tooDeep) := by
  obtain ⟨datum, hunfolds⟩ := exists_unfolds_iff.2 ⟨hacyclic, hplain⟩
  have hderives := (datum.derives (Nat.le_refl _)).expression_of_signed
  refine ⟨datum, datum.tokens, fun other => ⟨fun hother => hother.unique hunfolds, ?_⟩,
    tokensOf_repr room hacyclic hunfolds, fun hcost => ⟨datum.expr, ?_, ?_⟩, fun hcost => ?_⟩
  · rintro rfl
    exact hunfolds
  · exact Expr.ofTokens_of_derives (hderives.mono (Nat.succ_le_succ hcost))
  · intro ω _ reader bindings memory
    obtain ⟨found, after, heval, hgrows, hkeeps⟩ :=
      datum.built ω reader bindings memory.heap memory.output
    exact ⟨found, after, heval, hgrows, hkeeps after (.refl after)⟩
  · exact Expr.ofTokens_of_levels hderives (by rw [datum.levels_expr]; exact hcost)

/-- A list that holds one and the same list twice is read back with two lists in it. -/
theorem repr_readBack_of_shared_list :
    let heap : Heap := ⟨#[#[.int (-1), .str "'\n"], #[.list 0, .list 0]]⟩
    let pair : Datum := .list [.int (-1) (by decide), .str "'\n"]
    (list 1).Acyclic heap ∧ (list 1).Plain heap ∧
      (list 1).repr .empty heap = "[[-1, '\\'\\n'], [-1, '\\'\\n']]" ∧
      ∃ tokens expr found after,
        tokensOf ((list 1).repr .empty heap) = .ok tokens ∧ Expr.ofTokens tokens = .ok expr ∧
        eval .empty ∅ expr ⟨.empty, Output.unbounded⟩ = .ok found ⟨after, Output.unbounded⟩ ∧
        found.Unfolds after (.list [pair, pair]) := by
  intro heap pair
  have hpair : (list 0).Unfolds heap pair := .list (.cons (.int _ _) (.cons (.str _) .nil))
  have hlist : (list 1).Unfolds heap (.list [pair, pair]) :=
    .list (.cons hpair (.cons hpair .nil))
  have hcost : (Datum.list [pair, pair]).cost ≤ 99 := by
    simp [pair, Datum.cost]
  obtain ⟨datum, tokens, hunique, htokens, hread, -⟩ :=
    repr_readBack .empty hlist.acyclic hlist.plain
  obtain rfl := (hunique _).1 hlist
  obtain ⟨expr, hparse, heval⟩ := hread hcost
  obtain ⟨found, after, hfound, -, hsame⟩ := heval .empty ∅ ⟨.empty, Output.unbounded⟩
  refine ⟨hlist.acyclic, hlist.plain, ?_, tokens, expr, found, after, htokens, hparse, hfound,
    hsame⟩
  decide +kernel

end Value

end Roundtable.Script
