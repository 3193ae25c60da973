import Mathlib.Data.List.Induction
import Mathlib.Data.List.Forall2

/-! # Hash Chains

    Each record of a chain stores a hash of itself and the hash of the record before it. What
    makes the stored hash the right one is a function of the record, `digest`.

    * `Linked h rs`: the records `rs` continue a chain whose last hash is `h`.
    * `tip h rs`: the last hash after them.
    * `linked_agree`: if no two records share a digest without agreeing, and no digest is
      the hash that starts a chain, then the last hash determines the whole chain.
-/

namespace CaseAutomation.Framework

/-- Records with a stored hash, the stored hash of their predecessor, and the hash that they
    should have. -/
structure Chaining (ρ H : Type) where
  prev : ρ → H
  stored : ρ → H
  digest : ρ → H

namespace Chaining

variable {ρ H : Type} (c : Chaining ρ H)

/-- The records continue a chain that ends in the hash `h`. -/
def Linked : H → List ρ → Prop
  | _, [] => True
  | h, r :: rs => c.prev r = h ∧ c.stored r = c.digest r ∧ Linked (c.stored r) rs

/-- The last hash of a chain that ended in `h` before these records. -/
def tip : H → List ρ → H
  | h, [] => h
  | _, r :: rs => tip (c.stored r) rs

variable {c} {h : H} {r r' : ρ} {rs rs' : List ρ}

@[simp] theorem tip_append : c.tip h (rs ++ rs') = c.tip (c.tip h rs) rs' := by
  induction rs generalizing h with
  | nil => rfl
  | cons r rs ih => exact ih

theorem linked_append : c.Linked h (rs ++ rs') ↔ c.Linked h rs ∧ c.Linked (c.tip h rs) rs' := by
  induction rs generalizing h with
  | nil => exact ⟨fun hl => ⟨trivial, hl⟩, fun hl => hl.2⟩
  | cons r rs ih =>
    simp only [List.cons_append, Linked, tip, ih, and_assoc]

/-- A record is the last of a chain. -/
theorem linked_concat : c.Linked h (rs ++ [r]) ↔
    c.Linked h rs ∧ c.prev r = c.tip h rs ∧ c.stored r = c.digest r := by
  rw [linked_append]
  simp only [Linked, and_true]

/-- The hash stored in each record of a chain is its digest. -/
theorem Linked.stored_eq (hl : c.Linked h rs) (hr : r ∈ rs) : c.stored r = c.digest r := by
  induction rs generalizing h with
  | nil => cases hr
  | cons r' rs ih =>
    obtain ⟨-, hdigest, hrest⟩ := hl
    obtain rfl | hr := List.mem_cons.mp hr
    · exact hdigest
    · exact ih hrest hr

/-- What a record of a chain stores about its predecessor: the start of the chain, or the
    digest of a record. -/
theorem Linked.tip_eq (hl : c.Linked h rs) : rs = [] ∧ c.tip h rs = h ∨
    ∃ r ∈ rs, c.tip h rs = c.digest r := by
  cases rs using List.reverseRecOn with
  | nil => exact Or.inl ⟨rfl, rfl⟩
  | append_singleton rs r _ =>
    right
    refine ⟨r, List.mem_append_right _ (List.mem_singleton.mpr rfl), ?_⟩
    rw [tip_append]
    exact (linked_concat.mp hl).2.2

/-- **The last hash determines the chain.** -/
theorem linked_agree {Agree : ρ → ρ → Prop}
    (hinj : ∀ r ∈ rs, ∀ r' ∈ rs', c.digest r = c.digest r' → Agree r r' ∧ c.prev r = c.prev r')
    (hstart : ∀ r, r ∈ rs ∨ r ∈ rs' → c.digest r ≠ h)
    (hl : c.Linked h rs) (hl' : c.Linked h rs') (htip : c.tip h rs = c.tip h rs') :
    List.Forall₂ (fun r r' => Agree r r' ∧ c.stored r = c.stored r') rs rs' := by
  -- backwards along both chains
  induction rs using List.reverseRecOn generalizing rs' with
  | nil =>
    obtain ⟨rfl, -⟩ | ⟨r', hr', hdigest⟩ := hl'.tip_eq
    · exact .nil
    · exact absurd (hdigest.symm.trans htip.symm) (hstart r' (Or.inr hr'))
  | append_singleton rs r ih =>
    cases rs' using List.reverseRecOn with
    | nil =>
      obtain ⟨-, -, hdigest⟩ := linked_concat.mp hl
      rw [tip_append] at htip
      exact absurd (hdigest.symm.trans htip) (hstart r (Or.inl (by simp)))
    | append_singleton rs' r' _ =>
      obtain ⟨hl₁, hprev, hdigest⟩ := linked_concat.mp hl
      obtain ⟨hl₁', hprev', hdigest'⟩ := linked_concat.mp hl'
      have hstored : c.stored r = c.stored r' := by simpa [tip] using htip
      obtain ⟨hagree, hprevs⟩ := hinj r (by simp) r' (by simp)
        (hdigest.symm.trans (hstored.trans hdigest'))
      have hrest := ih (fun q hq q' hq' => hinj q (by simp [hq]) q' (by simp [hq']))
        (fun q hq => hstart q (hq.imp (fun h => by simp [h]) fun h => by simp [h])) hl₁ hl₁'
        (hprev.symm.trans (hprevs.trans hprev'))
      exact List.rel_append hrest (.cons ⟨hagree, hstored⟩ .nil)

end Chaining

end CaseAutomation.Framework
