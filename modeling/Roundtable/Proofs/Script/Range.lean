import Mathlib.Data.Set.Card
import Mathlib.Tactic.Ring
import Roundtable.Script.Evaluation
/-!
Ranges. The words of a range are made one after another until the next one is not before the bound,
or has more than 64 bits; how many they are is computed beforehand, by a division that rounds up. The
two agree, and what they count is the integers of the progression that stand before the bound.
-/

namespace Roundtable.Script

/-- The steps at which the progression from `start` stands before `stop`, seen in the direction in
which it goes. -/
def rangeSteps (start stop step : Int) : Set Nat :=
  {k | 0 < step ∧ start + k * step < stop ∨ step < 0 ∧ stop < start + k * step}

section Counting

variable {start stop step : Int64}

/-- Division that rounds up counts the multiples below a number. -/
theorem lt_ceilDiv_iff {k total stride : Nat} (hstride : 0 < stride) :
    k < (total + stride - 1) / stride ↔ k * stride < total := by
  rw [Nat.lt_iff_add_one_le, Nat.le_div_iff_mul_le hstride, Nat.add_mul]
  omega

/-- The words of a range are counted by the steps that it takes. -/
theorem lt_rangeCount_iff (hstep : step ≠ 0) (k : Nat) :
    k < rangeCount start stop step ↔ k ∈ rangeSteps start.toInt stop.toInt step.toInt := by
  have hzero : step.toInt ≠ 0 := fun h => hstep (Int64.toInt_inj.1 h)
  unfold rangeCount
  extract_lets distance stride
  have hstride : 0 < stride := Int.natAbs_pos.2 hzero
  rw [lt_ceilDiv_iff hstride, rangeSteps, Set.mem_ofPred_eq]
  have hproduct : ((k * stride : Nat) : Int) = k * |step.toInt| := by
    rw [Int.natCast_mul, Int.natCast_natAbs]
  rcases Int.lt_or_gt_of_ne hzero with hneg | hpos
  · have hdistance : distance = start.toInt - stop.toInt :=
      if_neg fun h => absurd (Int64.lt_iff_toInt_lt.1 h) (by simpa using hneg.le)
    rw [abs_of_neg hneg, mul_neg] at hproduct
    omega
  · have hdistance : distance = stop.toInt - start.toInt :=
      if_pos (Int64.lt_iff_toInt_lt.2 (by simpa using hpos))
    rw [abs_of_pos hpos] at hproduct
    omega

theorem encard_rangeSteps (hstep : step ≠ 0) :
    (rangeSteps start.toInt stop.toInt step.toInt).encard = rangeCount start stop step := by
  have hsteps : rangeSteps start.toInt stop.toInt step.toInt =
      (Finset.range (rangeCount start stop step) : Set Nat) := by
    ext k
    rw [Finset.coe_range, Set.mem_Iio, lt_rangeCount_iff hstep]
  rw [hsteps, Set.encard_coe_eq_coe_finsetCard, Finset.card_range]

end Counting

section Loop

variable {stop step current : Int64}

/-- A range that is not before its bound is empty. -/
theorem rangeCount_eq_zero (hstep : step ≠ 0)
    (hend : ¬(0 < step ∧ current < stop ∨ step < 0 ∧ stop < current)) :
    rangeCount current stop step = 0 := by
  refine Nat.eq_zero_of_not_pos fun hpos => hend ?_
  have hfirst := (lt_rangeCount_iff hstep 0).1 hpos
  simpa [rangeSteps, Int64.lt_iff_toInt_lt] using hfirst

/-- Before the bound a range has one word more than the range that begins one step later. -/
theorem rangeCount_eq_add_one {next : Int64} (hstep : step ≠ 0)
    (hbefore : 0 < step ∧ current < stop ∨ step < 0 ∧ stop < current)
    (hnext : next.toInt = current.toInt + step.toInt) :
    rangeCount current stop step = rangeCount next stop step + 1 := by
  refine eq_of_forall_lt_iff fun k => ?_
  rw [lt_rangeCount_iff hstep]
  cases k with
  | zero => simpa [rangeSteps, Int64.lt_iff_toInt_lt] using hbefore
  | succ k =>
      rw [Nat.add_lt_add_iff_right, lt_rangeCount_iff hstep]
      have hshift : current.toInt + (k + 1 : Nat) * step.toInt = next.toInt + k * step.toInt := by
        rw [hnext]
        push_cast
        ring
      rw [rangeSteps, rangeSteps, Set.mem_ofPred_eq, Set.mem_ofPred_eq, hshift]

/-- Where 64 bits hold no word after the one that is reached, the next step is beyond every bound. -/
theorem rangeCount_eq_one (hstep : step ≠ 0)
    (hbefore : 0 < step ∧ current < stop ∨ step < 0 ∧ stop < current)
    (hnext : Number.toInt64? (current.toInt + step.toInt) = none) :
    rangeCount current stop step = 1 := by
  refine eq_of_forall_lt_iff fun k => ?_
  rw [lt_rangeCount_iff hstep]
  cases k with
  | zero => simpa [rangeSteps, Int64.lt_iff_toInt_lt] using hbefore
  | succ k =>
      refine iff_of_false (fun hmem => ?_) (by omega)
      have hproduct : ((k + 1 : Nat) : Int) * step.toInt = step.toInt + k * step.toInt := by
        push_cast
        ring
      rw [rangeSteps, Set.mem_ofPred_eq, hproduct] at hmem
      have hwide := Number.toInt64?_eq_none hnext
      have hcurrent := And.intro current.le_toInt current.toInt_lt
      have hstop := And.intro stop.le_toInt stop.toInt_lt
      simp only [Int64.lt_iff_toInt_lt, Int64.toInt_zero] at hbefore
      rcases hmem with ⟨hpos, hmem⟩ | ⟨hneg, hmem⟩
      · have := Int.mul_nonneg (Int.natCast_nonneg k) hpos.le
        omega
      · have := Int.mul_nonpos_of_nonneg_of_nonpos (Int.natCast_nonneg k) hneg.le
        omega

/-- The word that a range has at a step. -/
def rangeWord (start step : Int64) (k : Nat) : Int64 :=
  Int64.ofInt (start.toInt + k * step.toInt)

theorem rangeWord_zero (start step : Int64) : rangeWord start step 0 = start := by
  rw [rangeWord, Int.natCast_zero, Int.zero_mul, Int.add_zero, Int64.ofInt_toInt]

theorem rangeWord_add_one {start next step : Int64} (hnext : next.toInt = start.toInt + step.toInt)
    (k : Nat) : rangeWord start step (k + 1) = rangeWord next step k := by
  rw [rangeWord, rangeWord, hnext]
  congr 1
  push_cast
  ring

/-- The loop finds the words of its steps, in order. -/
theorem toList_rangeFrom (hstep : step ≠ 0) (found : Array Value) (current : Int64) :
    (rangeFrom stop step found current).toList = found.toList ++
      (List.range (rangeCount current stop step)).map fun k => .int (rangeWord current step k) := by
  -- along the loop: a next word before the bound, no next word in 64 bits, and the bound reached
  fun_induction rangeFrom stop step found current with
  | case1 found current hbefore next hnext ih =>
      have hnext := Number.toInt_of_toInt64? hnext
      rw [ih, rangeCount_eq_add_one hstep hbefore hnext, List.range_succ_eq_map, List.map_cons,
        List.map_map, rangeWord_zero, Array.toList_push, List.append_assoc, List.singleton_append]
      refine congrArg (found.toList ++ .int current :: ·) (List.map_congr_left fun k _ => ?_)
      exact congrArg Value.int (rangeWord_add_one hnext k).symm
  | case2 found current hbefore hnext =>
      rw [rangeCount_eq_one hstep hbefore hnext, List.range_one, List.map_singleton,
        rangeWord_zero, Array.toList_push]
  | case3 found current hend =>
      rw [rangeCount_eq_zero hstep hend, List.range_zero, List.map_nil, List.append_nil]

/-- A word of a range is the integer of its step: none was cut to 64 bits. -/
theorem toInt_rangeWord {start : Int64} {k : Nat}
    (hk : k ∈ rangeSteps start.toInt stop.toInt step.toInt) :
    (rangeWord start step k).toInt = start.toInt + k * step.toInt := by
  have hstart := And.intro start.le_toInt start.toInt_lt
  have hstop := And.intro stop.le_toInt stop.toInt_lt
  apply Int64.toInt_ofInt_of_le
  · rcases hk with ⟨hpos, -⟩ | ⟨-, hbefore⟩
    · have := Int.mul_nonneg (Int.natCast_nonneg k) hpos.le
      omega
    · omega
  · rcases hk with ⟨-, hbefore⟩ | ⟨hneg, -⟩
    · omega
    · have := Int.mul_nonpos_of_nonneg_of_nonpos (Int.natCast_nonneg k) hneg.le
      omega

theorem size_rangeFrom {start : Int64} (hstep : step ≠ 0) :
    (rangeFrom stop step #[] start).size = rangeCount start stop step := by
  rw [← Array.length_toList, toList_rangeFrom hstep, List.nil_append, List.length_map,
    List.length_range]

theorem getElem?_rangeFrom {start : Int64} {k : Nat} (hstep : step ≠ 0)
    (hk : k < rangeCount start stop step) :
    (rangeFrom stop step #[] start)[k]? = some (.int (rangeWord start step k)) := by
  rw [← Array.getElem?_toList, toList_rangeFrom hstep, List.nil_append, List.getElem?_map,
    List.getElem?_range hk]
  rfl

end Loop

section Call

variable {ω : Type} [Sink ω]

/-- Calling a function that writes nothing places what it makes and keeps the output. -/
theorem call_builtin (room : Room) {function : Builtin} (hquiet : function ≠ .print)
    (arguments : List Value) (memory : Memory ω) :
    (Value.builtin function).call room arguments memory =
      match function.result room memory.heap arguments with
      | .ok made => Action.place made memory
      | .error fault => .error fault memory := by
  unfold Value.call
  dsimp only
  rw [if_neg hquiet]
  change (Action.ofExcept (function.result room memory.heap arguments) >>= Action.place) memory = _
  cases function.result room memory.heap arguments <;> rfl

/-- The bounds that are not given are zero and, for the step, one. -/
theorem result_range (room : Room) (heap : Heap) (start stop step : Int64) :
    Builtin.result room heap .range [.int stop] = .list <$> rangeItems 0 stop 1 ∧
    Builtin.result room heap .range [.int start, .int stop] = .list <$> rangeItems start stop 1 ∧
    Builtin.result room heap .range [.int start, .int stop, .int step] =
      .list <$> rangeItems start stop step :=
  ⟨rfl, rfl, rfl⟩

/-- A range is the integers of its progression that stand before the bound, as many as its loop finds
and as were counted beforehand, or it is too large. -/
theorem range_call (room : Room) (memory : Memory ω) {start stop step : Int64} (hstep : step ≠ 0) :
    let range (arguments : List Value) := (Value.builtin .range).call room arguments memory
    ∃ count : Nat, (rangeSteps start.toInt stop.toInt step.toInt).encard = count ∧
      rangeCount start stop step = count ∧ (rangeFrom stop step #[] start).size = count ∧
      (count ≤ 2 ^ 24 → ∃ items : Array Value,
        range [.int start, .int stop, .int step] =
          .ok (.list memory.heap.lists.size) ⟨(memory.heap.allocate items).1, memory.output⟩ ∧
        items.size = count ∧ ∀ k < count, ∃ word : Int64, items[k]? = some (.int word) ∧
          word.toInt = start.toInt + k * step.toInt) ∧
      (2 ^ 24 < count →
        range [.int start, .int stop, .int step] = .error .tooLarge memory) ∧
      range [.int stop] = range [.int 0, .int stop, .int 1] ∧
      range [.int start, .int stop] = range [.int start, .int stop, .int 1] := by
  intro range
  have hbound : maxItems = 2 ^ 24 := by norm_num [maxItems]
  have hsize : (rangeFrom stop step #[] start).size = rangeCount start stop step :=
    size_rangeFrom hstep
  have hcall (arguments : List Value) := @call_builtin ω _ room .range nofun arguments memory
  obtain ⟨honly, hpair, hthree⟩ := result_range room memory.heap start stop step
  refine ⟨_, encard_rangeSteps hstep, rfl, hsize, fun hfits => ?_, fun hlarge => ?_, ?_, ?_⟩
  · have hmade : rangeItems start stop step = .ok (rangeFrom stop step #[] start) := by
      rw [rangeItems, if_neg hstep, hbound, if_neg (Nat.not_lt.2 hfits)]
    refine ⟨rangeFrom stop step #[] start, ?_, hsize, fun k hk =>
      ⟨rangeWord start step k, ?_, ?_⟩⟩
    · refine (hcall _).trans ?_
      rw [hthree, hmade]
      rfl
    · exact getElem?_rangeFrom hstep hk
    · exact toInt_rangeWord ((lt_rangeCount_iff hstep k).1 hk)
  · have hmade : rangeItems start stop step = .error .tooLarge := by
      rw [rangeItems, if_neg hstep, hbound, if_pos hlarge]
    refine (hcall _).trans ?_
    rw [hthree, hmade]
    rfl
  · refine (hcall _).trans (.trans ?_ (hcall _).symm)
    rw [honly, (result_range room memory.heap 0 stop 1).2.2]
  · refine (hcall _).trans (.trans ?_ (hcall _).symm)
    rw [hpair, (result_range room memory.heap start stop 1).2.2]

/-- A range down to the least word. Its loop stops where 64 bits hold no third word. -/
theorem range_call_of_least :
    let start : Int64 := -9223372036854775804
    let memory : Memory Output := ⟨.empty, .unbounded⟩
    (-3 : Int64) ≠ 0 ∧ Number.toInt64? (start.toInt + 2 * (-3)) = none ∧ ∃ items : Array Value,
      (Value.builtin .range).call .empty [.int start, .int Int64.minValue, .int (-3)] memory =
        .ok (.list 0) ⟨(memory.heap.allocate items).1, memory.output⟩ ∧
      items.size = 2 ∧ items[0]? = some (.int start) ∧
      items[1]? = some (.int (-9223372036854775807)) := by
  intro start memory
  have hstep : (-3 : Int64) ≠ 0 := by decide
  have hcounted : rangeCount start Int64.minValue (-3) = 2 := by decide +kernel
  obtain ⟨count, -, hcount, -, hmade, -⟩ :=
    @range_call Output _ .empty memory start Int64.minValue (-3) hstep
  obtain rfl : count = 2 := hcount.symm.trans hcounted
  obtain ⟨items, hcall, hsize, hwords⟩ := hmade (by decide)
  obtain ⟨first, hfirst, hsame⟩ := hwords 0 (by decide)
  obtain ⟨second, hsecond, hnext⟩ := hwords 1 (by decide)
  obtain rfl : first = start := Int64.toInt_inj.1 hsame
  obtain rfl : second = -9223372036854775807 := Int64.toInt_inj.1 hnext
  exact ⟨hstep, by decide +kernel, items, hcall, hsize, hfirst, hsecond⟩

end Call

end Roundtable.Script
