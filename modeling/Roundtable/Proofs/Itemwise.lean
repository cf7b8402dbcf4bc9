import Mathlib.Data.List.Forall2
import Mathlib.Data.Option.Basic
/-!
Lists whose items are related one by one, and options whose values are: what follows of the lists
from the relation of the items.
-/

namespace Roundtable

variable {α β γ : Type} {related other : α → β → Prop} {as : List α} {bs cs : List β}

theorem option_rel_imp {x : Option α} {y : Option β} (h : Option.Rel related x y)
    (himp : ∀ a b, related a b → other a b) : Option.Rel other x y := by
  cases h with
  | none => exact .none
  | some hrelated => exact .some (himp _ _ hrelated)

theorem exists_forall₂_iff :
    (∃ bs, List.Forall₂ related as bs) ↔ ∀ a ∈ as, ∃ b, related a b := by
  induction as with
  | nil => simp
  | cons a as ih => simp [List.forall₂_cons_left_iff, ← ih]

theorem forall₂_right_unique
    (hunique : ∀ b ∈ bs, ∀ a c, related a b → related a c → b = c)
    (hbs : List.Forall₂ related as bs) (hcs : List.Forall₂ related as cs) : bs = cs := by
  induction hbs generalizing cs with
  | nil => exact (List.forall₂_nil_left_iff.1 hcs).symm
  | cons hhead _ ih =>
      cases hcs with
      | cons hother hothers =>
          obtain ⟨hfirst, hrest⟩ := List.forall_mem_cons.1 hunique
          rw [hfirst _ _ hhead hother, ih hrest hothers]

theorem forall₂_imp_of_mem
    (himp : ∀ a ∈ as, ∀ b ∈ bs, related a b → other a b) (h : List.Forall₂ related as bs) :
    List.Forall₂ other as bs := by
  induction h with
  | nil => exact .nil
  | cons hhead _ ih =>
      refine .cons (himp _ List.mem_cons_self _ List.mem_cons_self hhead) (ih fun a ha b hb => ?_)
      exact himp a (List.mem_cons_of_mem _ ha) b (List.mem_cons_of_mem _ hb)

theorem exists_mem_of_forall₂ (h : List.Forall₂ related as bs) :
    ∀ a ∈ as, ∃ b ∈ bs, related a b := by
  induction h with
  | nil => simp
  | @cons a b _ _ hhead _ ih =>
      intro c hc
      rcases List.mem_cons.1 hc with rfl | hc
      · exact ⟨b, List.mem_cons_self, hhead⟩
      · obtain ⟨d, hd, hpair⟩ := ih c hc
        exact ⟨d, List.mem_cons_of_mem b hd, hpair⟩

theorem getElem?_of_forall₂ (h : List.Forall₂ related as bs) (position : Nat) :
    Option.Rel related as[position]? bs[position]? := by
  induction h generalizing position with
  | nil => exact .none
  | cons hhead _ ih =>
      cases position with
      | zero => exact .some hhead
      | succ position => exact ih position

theorem map_eq_map_of_forall₂ {f : α → γ} {g : β → γ} (h : List.Forall₂ related as bs)
    (hmap : ∀ a b, related a b → f a = g b) : as.map f = bs.map g := by
  have hsame : List.Forall₂ Eq (as.map f) (bs.map g) := by
    rw [List.forall₂_map_left_iff, List.forall₂_map_right_iff]
    exact h.imp hmap
  rwa [List.forall₂_eq_eq_eq] at hsame

theorem forall₂_set (h : List.Forall₂ related as bs) (position : Nat) {a : α} {b : β}
    (hrelated : related a b) : List.Forall₂ related (as.set position a) (bs.set position b) := by
  induction h generalizing position with
  | nil => exact .nil
  | cons hhead hrest ih =>
      cases position with
      | zero => exact .cons hrelated hrest
      | succ position => exact .cons hhead (ih position)

end Roundtable
