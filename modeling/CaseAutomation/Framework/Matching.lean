import Mathlib.Data.Multiset.Filter
import Mathlib.Data.Multiset.AddSub
import Mathlib.Data.List.Forall2

/-! # One-to-One Matchings

    Two finite collections match if their elements can be paired off, with nothing left over, so that
    every pair is related: `Multiset.Rel`.

    * `rel_classes_iff`: a relation that keeps classes can be matched class by class.
    * `rel_sorted_iff`: if crossing pairs can be uncrossed, then sorted lists match exactly if they match
      in their order.
-/

namespace CaseAutomation.Framework

variable {α β κ : Type}

/-! ## Class by class -/

section classes
variable {R : α → β → Prop} {f : α → κ} {g : β → κ}

/-- Pairs are taken or left together. -/
theorem rel_filter {p : α → Prop} {q : β → Prop} [DecidablePred p] [DecidablePred q]
    (hpq : ∀ a b, R a b → (p a ↔ q b)) {s : Multiset α} {t : Multiset β} (h : s.Rel R t) :
    (s.filter p).Rel R (t.filter q) := by
  induction h with
  | zero => exact .zero
  | @cons a b s t hab hst ih =>
    have hsame := hpq a b hab
    by_cases hp : p a
    · rw [Multiset.filter_cons_of_pos s hp, Multiset.filter_cons_of_pos t (hsame.mp hp)]
      exact .cons hab ih
    · have hq : ¬ q b := fun hq => hp (hsame.mpr hq)
      rw [Multiset.filter_cons_of_neg s hp, Multiset.filter_cons_of_neg t hq]
      exact ih

/-- **Matching class by class.** -/
theorem rel_classes_iff [DecidableEq κ] (hR : ∀ a b, R a b → f a = g b) {s : Multiset α}
    {t : Multiset β} : s.Rel R t ↔
      ∀ k, (s.filter fun a => f a = k).Rel R (t.filter fun b => g b = k) := by
  constructor
  · intro h k
    exact rel_filter (fun a b hab => by rw [hR a b hab]) h
  · intro h
    induction s using Multiset.induction_on generalizing t with
    | empty =>
      rw [Multiset.rel_zero_left, Multiset.eq_zero_iff_forall_notMem]
      intro b hb
      have hclass := h (g b)
      rw [Multiset.filter_zero, Multiset.rel_zero_left] at hclass
      have hmem : b ∈ t.filter fun b' => g b' = g b := Multiset.mem_filter.mpr ⟨hb, rfl⟩
      rw [hclass] at hmem
      exact absurd hmem (Multiset.notMem_zero b)
    | cons a s ih =>
      -- the partner of `a` within its class
      have hclass := h (f a)
      rw [Multiset.filter_cons_of_pos (p := fun a' => f a' = f a) s rfl, Multiset.rel_cons_left] at hclass
      obtain ⟨b, bs, hab, hrest, hbs⟩ := hclass
      have hb : b ∈ t.filter fun b' => g b' = f a := by
        rw [hbs]
        exact Multiset.mem_cons_self b bs
      obtain ⟨t, rfl⟩ := Multiset.exists_cons_of_mem (Multiset.mem_filter.mp hb).1
      have hkey : g b = f a := (Multiset.mem_filter.mp hb).2
      rw [Multiset.filter_cons_of_pos (p := fun b' => g b' = f a) t hkey, Multiset.cons_inj_right] at hbs
      refine .cons hab (ih ?_)
      intro k
      by_cases hk : f a = k
      · rw [← hk, hbs]
        exact hrest
      · have hother := h k
        rwa [Multiset.filter_cons_of_neg (p := fun a' => f a' = k) s hk,
          Multiset.filter_cons_of_neg (p := fun b' => g b' = k) t
            (fun heq => hk (hkey.symm.trans heq))] at hother

end classes

/-! ## In order -/

/-- Two pairs that cross can be exchanged for two that do not. -/
def Uncrosses (le : α → α → Prop) (le' : β → β → Prop) (R : α → β → Prop) : Prop :=
  ∀ a a' b b', le a a' → le' b b' → R a b' → R a' b → R a b ∧ R a' b'

/-- **Sorted lists match in their order.** -/
theorem rel_sorted_iff {le : α → α → Prop} {le' : β → β → Prop} {R : α → β → Prop}
    (hR : Uncrosses le le' R) {as : List α} {bs : List β} (has : as.Pairwise le)
    (hbs : bs.Pairwise le') :
    Multiset.Rel R as bs ↔ List.Forall₂ R as bs := by
  constructor
  · intro h
    induction as generalizing bs with
    | nil =>
      rw [Multiset.coe_nil, Multiset.rel_zero_left, Multiset.coe_eq_zero] at h
      rw [h]
      exact .nil
    | cons a as ih =>
      obtain ⟨hfirst, has'⟩ := List.pairwise_cons.mp has
      rw [← Multiset.cons_coe, Multiset.rel_cons_left] at h
      obtain ⟨b', rest, hab', hrest, hbs'⟩ := h
      cases bs with
      | nil =>
        rw [Multiset.coe_nil] at hbs'
        exact absurd hbs'.symm (Multiset.cons_ne_zero)
      | cons b bs =>
        obtain ⟨hleast, hbs''⟩ := List.pairwise_cons.mp hbs
        rw [← Multiset.cons_coe, Multiset.cons_eq_cons] at hbs'
        rcases hbs' with ⟨rfl, rfl⟩ | ⟨-, common, hbs', rfl⟩
        · exact .cons hab' (ih has' hbs'' hrest)
        · -- the first of the one list is matched with `b'`, and `b` with some `a'`
          rw [Multiset.rel_cons_right] at hrest
          obtain ⟨a', others, ha'b, hothers, has''⟩ := hrest
          have ha' : a' ∈ as := by
            rw [← Multiset.mem_coe, has'']
            exact Multiset.mem_cons_self a' others
          have hb' : b' ∈ bs := by
            rw [← Multiset.mem_coe, hbs']
            exact Multiset.mem_cons_self b' common
          obtain ⟨hab, ha'b'⟩ := hR _ _ _ _ (hfirst a' ha') (hleast b' hb') hab' ha'b
          refine .cons hab (ih has' hbs'' ?_)
          rw [has'', hbs']
          exact .cons ha'b' hothers
  · intro h
    induction h with
    | nil => exact .zero
    | cons hab _ ih =>
      rw [← Multiset.cons_coe, ← Multiset.cons_coe]
      exact .cons hab (ih (List.pairwise_cons.mp has).2 (List.pairwise_cons.mp hbs).2)

end CaseAutomation.Framework
