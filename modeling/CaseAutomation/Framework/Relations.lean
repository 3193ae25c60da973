import CaseAutomation.Framework.Table
import Mathlib.Data.List.Nodup
import Mathlib.Logic.Function.Basic

/-! # Tables with References

    Several tables, one for each kind of row. A row has a key, and may refer to a row of another
    table. A reference that may be null is dropped when its target is deleted (`detach`); any
    other reference prevents the deletion.

    * `insert`, `update`, `delete` : the statements; `none` stands for a constraint that is violated.
    * `Sound`                      : keys are unique, and no reference dangles. The statements keep it.
    * `find_*`                     : what each statement does to the row under a key.
-/

namespace CaseAutomation.Framework

variable {K κ : Type} {Row : K → Type}

/-- The rows of each kind, in the order in which they were inserted. -/
abbrev Tables (Row : K → Type) : Type := (k : K) → List (Row k)

structure Schema (K κ : Type) (Row : K → Type) where
  kinds : List K
  mem_kinds : ∀ k, k ∈ kinds
  key : (k : K) → Row k → κ
  ref : (k : K) → Row k → Option (K × κ)
  /-- The row with a null reference, if its column allows one. -/
  detach : (k : K) → Row k → Option (Row k)
  detach_key : ∀ k r r', detach k r = some r' → key k r' = key k r
  detach_ref : ∀ k r r', detach k r = some r' → ref k r' = none

namespace Schema

variable [DecidableEq K] [DecidableEq κ] (S : Schema K κ Row)

/-! ## Statements -/

def find (t : Tables Row) (k : K) (id : κ) : Option (Row k) := Table.select (S.key k) id (t k)

/-- The target of the reference exists. -/
def resolves (t : Tables Row) (k : K) (r : Row k) : Bool :=
  match S.ref k r with
  | none => true
  | some (p, id) => (S.find t p id).isSome

/-- `INSERT`. -/
def insert (t : Tables Row) (k : K) (r : Row k) : Option (Tables Row) :=
  if (S.find t k (S.key k r)).isSome then none
  else if S.resolves t k r then some (Function.update t k (t k ++ [r]))
  else none

/-- `UPDATE`. -/
def update (t : Tables Row) (k : K) (id : κ) (f : Row k → Row k) : Tables Row :=
  Function.update t k (Table.update (S.key k) id f (t k))

/-- The row refers to the one that is deleted, and has to. -/
def blocks (p : K) (id : κ) (k : K) (r : Row k) : Bool :=
  decide (S.ref k r = some (p, id)) && (S.detach k r).isNone

/-- The row after the deletion of another one. -/
def release (p : K) (id : κ) (k : K) (r : Row k) : Row k :=
  if S.ref k r = some (p, id) then (S.detach k r).getD r else r

/-- The row is the one that is deleted. -/
def is_target (p : K) (id : κ) (k : K) (r : Row k) : Bool := decide (k = p ∧ S.key k r = id)

/-- `DELETE`, once the references were dropped. -/
def delete (t : Tables Row) (p : K) (id : κ) : Option (Tables Row) :=
  if S.kinds.any fun k => (t k).any (S.blocks p id k) then none
  else some fun k => ((t k).filter fun r => !S.is_target p id k r).map (S.release p id k)

/-! ## Soundness -/

/-- Keys are unique, and no reference dangles. -/
structure Sound (t : Tables Row) : Prop where
  keys : ∀ k, ((t k).map (S.key k)).Nodup
  refs : ∀ k, ∀ r ∈ t k, ∀ p id, S.ref k r = some (p, id) → ∃ q ∈ t p, S.key p q = id

omit [DecidableEq K] [DecidableEq κ] in
theorem sound_empty : S.Sound (fun _ => []) := by
  refine ⟨fun _ => List.nodup_nil, ?_⟩
  intro k r hr
  cases hr

variable {S} {t t' : Tables Row} {k p : K} {r : Row k} {id : κ}

omit [DecidableEq K] in
theorem find_isSome_iff : (S.find t k id).isSome = true ↔ ∃ r ∈ t k, S.key k r = id := by
  unfold find Table.select
  rw [List.find?_isSome]
  simp

omit [DecidableEq K] in
theorem mem_of_find (h : S.find t k id = some r) : r ∈ t k ∧ S.key k r = id := by
  refine ⟨List.mem_of_find?_eq_some h, ?_⟩
  simpa using List.find?_some h

omit [DecidableEq K] in
/-- The row under its own key. -/
theorem Sound.find_of_mem (h : S.Sound t) (hr : r ∈ t k) : S.find t k (S.key k r) = some r := by
  have hsome : (S.find t k (S.key k r)).isSome = true := find_isSome_iff.mpr ⟨r, hr, rfl⟩
  obtain ⟨r', hr'⟩ := Option.isSome_iff_exists.mp hsome
  obtain ⟨hmem, hkey⟩ := mem_of_find hr'
  rw [hr', List.inj_on_of_nodup_map (h.keys k) hmem hr hkey]

/-! ### Insertion -/

theorem insert_eq (h : S.insert t k r = some t') :
    S.find t k (S.key k r) = none ∧ S.resolves t k r = true ∧
      t' = Function.update t k (t k ++ [r]) := by
  unfold insert at h
  split at h
  · cases h
  · next hnew =>
    split at h
    · next hresolves =>
      exact ⟨by simpa using hnew, hresolves, (Option.some.inj h).symm⟩
    · cases h

theorem mem_insert (h : S.insert t k r = some t') {j : K} {q : Row j} (hq : q ∈ t j) : q ∈ t' j := by
  obtain ⟨-, -, rfl⟩ := insert_eq h
  by_cases hj : j = k
  · subst hj
    rw [Function.update_self]
    exact List.mem_append_left _ hq
  · rwa [Function.update_of_ne hj]

theorem insert_sound (hsound : S.Sound t) (h : S.insert t k r = some t') : S.Sound t' := by
  obtain ⟨hnew, hresolves, ht'⟩ := insert_eq h
  refine ⟨?_, ?_⟩
  · intro j
    subst ht'
    by_cases hj : j = k
    · subst hj
      rw [Function.update_self, List.map_append, List.map_singleton, List.nodup_append]
      refine ⟨hsound.keys j, List.nodup_singleton _, ?_⟩
      intro x hx y hy hxy
      rw [List.mem_singleton] at hy
      obtain ⟨q, hq, hqx⟩ := List.mem_map.mp hx
      have hsome : (S.find t j (S.key j r)).isSome = true :=
        find_isSome_iff.mpr ⟨q, hq, hqx.trans (hxy.trans hy)⟩
      rw [hnew] at hsome
      cases hsome
    · rw [Function.update_of_ne hj]
      exact hsound.keys j
  · intro j q hq p id href
    have hold : ∃ q' ∈ t p, S.key p q' = id := by
      have hcases : q ∈ t j ∨ ∃ hj : k = j, q = hj ▸ r := by
        subst ht'
        by_cases hj : j = k
        · subst hj
          rw [Function.update_self] at hq
          rcases List.mem_append.mp hq with hq | hq
          · exact .inl hq
          · exact .inr ⟨rfl, List.mem_singleton.mp hq⟩
        · rw [Function.update_of_ne hj] at hq
          exact .inl hq
      rcases hcases with hq | ⟨rfl, rfl⟩
      · exact hsound.refs j q hq p id href
      · simp only [resolves, href] at hresolves
        exact find_isSome_iff.mp hresolves
    obtain ⟨q', hq', hkey⟩ := hold
    exact ⟨q', mem_insert h hq', hkey⟩

theorem find_insert_self (h : S.insert t k r = some t') : S.find t' k (S.key k r) = some r := by
  obtain ⟨hnew, -, rfl⟩ := insert_eq h
  have hnone : (t k).find? (fun q => decide (S.key k q = S.key k r)) = none := hnew
  unfold find Table.select
  rw [Function.update_self, List.find?_append, hnone]
  simp

theorem find_insert_other (h : S.insert t k r = some t') {j : K} {id : κ}
    (hne : j = k → id ≠ S.key k r) : S.find t' j id = S.find t j id := by
  obtain ⟨-, -, rfl⟩ := insert_eq h
  unfold find Table.select
  by_cases hj : j = k
  · subst hj
    rw [Function.update_self, List.find?_append]
    have hlast : [r].find? (fun q => decide (S.key j q = id)) = none := by
      simp [Ne.symm (hne rfl)]
    rw [hlast, Option.or_none]
  · rw [Function.update_of_ne hj]

/-! ### Update -/

/-- An update that leaves the key and the reference of a row alone. -/
structure Inner (S : Schema K κ Row) (k : K) (f : Row k → Row k) : Prop where
  key : ∀ r, S.key k (f r) = S.key k r
  ref : ∀ r, S.ref k (f r) = S.ref k r

theorem update_keys {f : Row k → Row k} (hf : Inner S k f) (j : K) :
    (S.update t k id f j).map (S.key j) = (t j).map (S.key j) := by
  unfold update
  by_cases hj : j = k
  · subst hj
    rw [Function.update_self, Table.update, List.map_map]
    refine List.map_congr_left fun q _ => ?_
    show S.key j (if S.key j q = id then f q else q) = S.key j q
    split
    · exact hf.key q
    · rfl
  · rw [Function.update_of_ne hj]

theorem mem_update {f : Row k → Row k} (hf : Inner S k f) {j : K} {q : Row j}
    (hq : q ∈ S.update t k id f j) : ∃ q₀ ∈ t j, S.key j q = S.key j q₀ ∧ S.ref j q = S.ref j q₀ := by
  unfold update at hq
  by_cases hj : j = k
  · subst hj
    rw [Function.update_self, Table.update] at hq
    obtain ⟨q₀, hq₀, rfl⟩ := List.mem_map.mp hq
    refine ⟨q₀, hq₀, ?_⟩
    split
    · exact ⟨hf.key q₀, hf.ref q₀⟩
    · exact ⟨rfl, rfl⟩
  · rw [Function.update_of_ne hj] at hq
    exact ⟨q, hq, rfl, rfl⟩

theorem update_sound {f : Row k → Row k} (hf : Inner S k f) (hsound : S.Sound t) :
    S.Sound (S.update t k id f) := by
  refine ⟨?_, ?_⟩
  · intro j
    rw [update_keys hf]
    exact hsound.keys j
  · intro j q hq p id' href
    obtain ⟨q₀, hq₀, -, href₀⟩ := mem_update hf hq
    obtain ⟨target, htarget, hkey⟩ := hsound.refs j q₀ hq₀ p id' (href₀.symm.trans href)
    have hmem : id' ∈ (S.update t k id f p).map (S.key p) := by
      rw [update_keys hf]
      exact List.mem_map.mpr ⟨target, htarget, hkey⟩
    exact List.mem_map.mp hmem

theorem find_update_self {f : Row k → Row k} (hf : Inner S k f) (hget : S.find t k id = some r) :
    S.find (S.update t k id f) k id = some (f r) := by
  unfold find Table.select at hget ⊢
  rw [update, Function.update_self, Table.update, List.find?_map]
  have hsame : ((fun q => decide (S.key k q = id)) ∘ fun q => if S.key k q = id then f q else q) =
      fun q => decide (S.key k q = id) := by
    funext q
    show decide (S.key k (if S.key k q = id then f q else q) = id) = _
    split
    · rw [hf.key]
    · rfl
  have hkey : S.key k r = id := by simpa using List.find?_some hget
  rw [hsame, hget, Option.map_some, if_pos hkey]

theorem find_update_other {f : Row k → Row k} (hf : Inner S k f) {j : K} {id' : κ}
    (hne : j = k → id' ≠ id) : S.find (S.update t k id f) j id' = S.find t j id' := by
  unfold find Table.select update
  by_cases hj : j = k
  · subst hj
    rw [Function.update_self, Table.update, List.find?_map]
    have hsame : ((fun q => decide (S.key j q = id')) ∘ fun q => if S.key j q = id then f q else q) =
        fun q => decide (S.key j q = id') := by
      funext q
      show decide (S.key j (if S.key j q = id then f q else q) = id') = _
      split
      · rw [hf.key]
      · rfl
    rw [hsame]
    cases hfind : (t j).find? fun q => decide (S.key j q = id') with
    | none => rfl
    | some q =>
      have hkey : S.key j q = id' := by simpa using List.find?_some hfind
      have hnot : ¬S.key j q = id := by
        rw [hkey]
        exact hne rfl
      rw [Option.map_some, if_neg hnot]
  · rw [Function.update_of_ne hj]

/-! ### Deletion -/

theorem delete_eq (h : S.delete t p id = some t') :
    (∀ j, ∀ q ∈ t j, S.blocks p id j q = false) ∧
      ∀ j, t' j = ((t j).filter fun q => !S.is_target p id j q).map (S.release p id j) := by
  unfold delete at h
  split at h
  · cases h
  · next hfree =>
    refine ⟨?_, ?_⟩
    · intro j q hq
      have hall : ∀ k ∈ S.kinds, ∀ q ∈ t k, S.blocks p id k q = false := by simpa using hfree
      exact hall j (S.mem_kinds j) q hq
    · intro j
      rw [← Option.some.inj h]

theorem release_key (p : K) (id : κ) (k : K) (r : Row k) : S.key k (S.release p id k r) = S.key k r := by
  unfold release
  split
  · cases hdetach : S.detach k r with
    | none => rfl
    | some r' => exact S.detach_key k r r' hdetach
  · rfl

/-- Only a reference to the deleted row is dropped. -/
theorem release_ref (hfree : S.blocks p id k r = false) :
    S.ref k (S.release p id k r) = if S.ref k r = some (p, id) then none else S.ref k r := by
  unfold release
  split
  · next href =>
    cases hdetach : S.detach k r with
    | none => simp [blocks, href, hdetach] at hfree
    | some r' => exact S.detach_ref k r r' hdetach
  · rfl

theorem delete_keys (h : S.delete t p id = some t') (j : K) :
    (t' j).map (S.key j) = ((t j).filter fun q => !S.is_target p id j q).map (S.key j) := by
  rw [(delete_eq h).2 j, List.map_map]
  exact List.map_congr_left fun q _ => release_key p id j q

theorem delete_sound (hsound : S.Sound t) (h : S.delete t p id = some t') : S.Sound t' := by
  obtain ⟨hfree, ht'⟩ := delete_eq h
  refine ⟨?_, ?_⟩
  · intro j
    rw [delete_keys h]
    exact (hsound.keys j).sublist (List.filter_sublist.map _)
  · intro j q hq p' id' href
    rw [ht' j] at hq
    obtain ⟨q₀, hq₀, rfl⟩ := List.mem_map.mp hq
    have hmem := (List.mem_filter.mp hq₀).1
    rw [release_ref (hfree j q₀ hmem)] at href
    split at href
    · cases href
    · next hother =>
      obtain ⟨target, htarget, hkey⟩ := hsound.refs j q₀ hmem p' id' href
      -- the target is not the row that was deleted
      have hkept : S.is_target p id p' target = false := by
        rw [is_target, decide_eq_false_iff_not]
        intro hdeleted
        obtain ⟨rfl, hid⟩ := hdeleted
        rw [href, ← hkey, hid] at hother
        exact hother rfl
      refine ⟨S.release p id p' target, ?_, (release_key p id p' target).trans hkey⟩
      rw [ht' p']
      exact List.mem_map_of_mem (List.mem_filter.mpr ⟨htarget, by simp [hkept]⟩)

theorem find_delete_self (h : S.delete t p id = some t') : S.find t' p id = none := by
  rw [← Option.not_isSome_iff_eq_none, find_isSome_iff]
  intro hfound
  obtain ⟨q, hq, hkey⟩ := hfound
  have hmem : id ∈ (t' p).map (S.key p) := List.mem_map.mpr ⟨q, hq, hkey⟩
  rw [delete_keys h] at hmem
  obtain ⟨q₀, hq₀, hkey₀⟩ := List.mem_map.mp hmem
  have hnot := (List.mem_filter.mp hq₀).2
  simp [is_target, hkey₀] at hnot

theorem find_delete_other (hsound : S.Sound t) (h : S.delete t p id = some t') {j : K} {id' : κ}
    (hne : j = p → id' ≠ id) :
    S.find t' j id' = (S.find t j id').map (S.release p id j) := by
  have hsound' := delete_sound hsound h
  cases hfind : S.find t j id' with
  | none =>
    rw [Option.map_none, ← Option.not_isSome_iff_eq_none, find_isSome_iff]
    intro hfound
    obtain ⟨q, hq, hkey⟩ := hfound
    have hmem : id' ∈ (t' j).map (S.key j) := List.mem_map.mpr ⟨q, hq, hkey⟩
    rw [delete_keys h] at hmem
    obtain ⟨q₀, hq₀, hkey₀⟩ := List.mem_map.mp hmem
    have hsome : (S.find t j id').isSome = true :=
      find_isSome_iff.mpr ⟨q₀, (List.mem_filter.mp hq₀).1, hkey₀⟩
    rw [hfind] at hsome
    cases hsome
  | some q =>
    obtain ⟨hq, hkey⟩ := mem_of_find hfind
    have hkept : S.is_target p id j q = false := by
      rw [is_target, decide_eq_false_iff_not]
      intro hdeleted
      obtain ⟨hj, hid⟩ := hdeleted
      exact hne hj (hkey.symm.trans hid)
    have hmem : S.release p id j q ∈ t' j := by
      rw [(delete_eq h).2 j]
      exact List.mem_map_of_mem (List.mem_filter.mpr ⟨hq, by simp [hkept]⟩)
    have hfound := hsound'.find_of_mem hmem
    rwa [release_key, hkey] at hfound

/-- A row that cannot do without the deleted one prevents the deletion, and nothing else does. -/
theorem delete_isSome_iff : (S.delete t p id).isSome = true ↔
    ∀ j, ∀ q ∈ t j, S.ref j q = some (p, id) → (S.detach j q).isSome = true := by
  constructor
  · intro hsome j q hq href
    obtain ⟨t', ht'⟩ := Option.isSome_iff_exists.mp hsome
    have hfree := (delete_eq ht').1 j q hq
    cases hdetach : S.detach j q with
    | none => simp [blocks, href, hdetach] at hfree
    | some q' => rfl
  · intro hall
    unfold delete
    have hfree : (S.kinds.any fun k => (t k).any (S.blocks p id k)) = false := by
      rw [List.any_eq_false]
      intro j _ hblocked
      obtain ⟨q, hq, hblocks⟩ := List.any_eq_true.mp hblocked
      simp only [blocks, Bool.and_eq_true, decide_eq_true_eq, Option.isNone_iff_eq_none] at hblocks
      have hdetach := hall j q hq hblocks.1
      rw [hblocks.2] at hdetach
      cases hdetach
    rw [hfree]
    rfl

end Schema

end CaseAutomation.Framework
