import Mathlib.Data.List.Nodup

/-! # Insertion-Ordered Dictionaries

    The dictionaries of the modelled language: a finite map that remembers the
    order in which its keys were first set. Setting an existing key keeps its
    place. The structure carries the proof that no key occurs twice, so
    `values` lists every bound value exactly once.
-/

namespace CaseAutomation.Framework

/-- A finite map from `κ` to `α` with its keys in insertion order. -/
structure Dict (κ α : Type) where
  entries : List (κ × α)
  nodup_keys : (entries.map Prod.fst).Nodup

namespace Dict

variable {κ α : Type} [DecidableEq κ]

/-- The empty dictionary `{}`. -/
def empty : Dict κ α := ⟨[], List.nodup_nil⟩

instance : EmptyCollection (Dict κ α) := ⟨empty⟩

/-- `d.keys()`. -/
def keys (d : Dict κ α) : List κ := d.entries.map Prod.fst

/-- `d.values()`. -/
def values (d : Dict κ α) : List α := d.entries.map Prod.snd

/-- `d.get(k)`. -/
def get? (d : Dict κ α) (k : κ) : Option α :=
  (d.entries.find? fun e => e.1 = k).map Prod.snd

/-- The entry list after `d[k] = v`. -/
def setEntries (entries : List (κ × α)) (k : κ) (v : α) : List (κ × α) :=
  if k ∈ entries.map Prod.fst then entries.map fun e => if e.1 = k then (k, v) else e
  else entries ++ [(k, v)]

theorem setEntries_keys (entries : List (κ × α)) (k : κ) (v : α) :
    (setEntries entries k v).map Prod.fst =
      if k ∈ entries.map Prod.fst then entries.map Prod.fst
      else entries.map Prod.fst ++ [k] := by
  unfold setEntries
  split
  · rw [List.map_map]
    apply List.map_congr_left
    intro e _
    by_cases h : e.1 = k <;> simp [h]
  · simp

/-- `d[k] = v`. -/
def set (d : Dict κ α) (k : κ) (v : α) : Dict κ α where
  entries := setEntries d.entries k v
  nodup_keys := by
    rw [setEntries_keys]
    split
    · exact d.nodup_keys
    · next h =>
      refine List.Nodup.append d.nodup_keys (List.nodup_singleton k) ?_
      intro x hx hxk
      rw [List.mem_singleton] at hxk
      exact h (hxk ▸ hx)

@[simp] theorem get?_empty (k : κ) : (∅ : Dict κ α).get? k = none := rfl

/-- A binding found in the dictionary is one of its entries. -/
theorem mem_entries_of_get? {d : Dict κ α} {k : κ} {v : α} (h : d.get? k = some v) :
    (k, v) ∈ d.entries := by
  simp only [get?, Option.map_eq_some_iff] at h
  obtain ⟨e, he, rfl⟩ := h
  have hmem := List.mem_of_find?_eq_some he
  have hk : e.1 = k := by simpa using List.find?_some he
  rw [← hk]
  exact hmem

/-- Keys are distinct, so every entry is what `get?` finds. -/
theorem get?_of_mem_entries {d : Dict κ α} {k : κ} {v : α} (h : (k, v) ∈ d.entries) :
    d.get? k = some v := by
  obtain ⟨entries, hnd⟩ := d
  simp only [get?] at *
  induction entries with
  | nil => cases h
  | cons e es ih =>
    rw [List.map_cons, List.nodup_cons] at hnd
    by_cases hek : e.1 = k
    · have hev : e = (k, v) := by
        rcases List.mem_cons.mp h with rfl | hmem
        · rfl
        · exact absurd (List.mem_map_of_mem hmem) (hek ▸ hnd.1)
      simp [hev]
    · have hmem : (k, v) ∈ es := by
        rcases List.mem_cons.mp h with rfl | hmem
        · exact absurd rfl hek
        · exact hmem
      rw [List.find?_cons_of_neg (by simpa using hek)]
      exact ih hnd.2 hmem

theorem get?_eq_some_iff {d : Dict κ α} {k : κ} {v : α} :
    d.get? k = some v ↔ (k, v) ∈ d.entries :=
  ⟨mem_entries_of_get?, get?_of_mem_entries⟩

theorem mem_keys_iff {d : Dict κ α} {k : κ} : k ∈ d.keys ↔ ∃ v, d.get? k = some v := by
  simp [get?_eq_some_iff, keys]

theorem mem_values_iff {d : Dict κ α} {v : α} : v ∈ d.values ↔ ∃ k, d.get? k = some v := by
  simp only [get?_eq_some_iff, values, List.mem_map, Prod.exists, exists_eq_right]

theorem get?_eq_none_iff {d : Dict κ α} {k : κ} : d.get? k = none ↔ k ∉ d.keys := by
  rw [mem_keys_iff, Option.eq_none_iff_forall_ne_some]
  exact ⟨fun h ⟨v, hv⟩ => h v hv, fun h v hv => h ⟨v, hv⟩⟩

theorem mem_set_entries {d : Dict κ α} {k k' : κ} {v v' : α} :
    (k', v') ∈ (d.set k v).entries ↔
      (k' = k ∧ v' = v) ∨ (k' ≠ k ∧ (k', v') ∈ d.entries) := by
  simp only [set, setEntries]
  split
  · next hk =>
    simp only [List.mem_map, Prod.exists]
    constructor
    · rintro ⟨a, b, hmem, heq⟩
      by_cases hak : a = k
      · rw [if_pos hak] at heq
        obtain ⟨rfl, rfl⟩ := Prod.mk.inj heq
        exact Or.inl ⟨rfl, rfl⟩
      · rw [if_neg hak] at heq
        obtain ⟨rfl, rfl⟩ := Prod.mk.inj heq
        exact Or.inr ⟨hak, hmem⟩
    · rintro (⟨rfl, rfl⟩ | ⟨hne, hmem⟩)
      · obtain ⟨⟨a, b⟩, hmem, rfl⟩ := List.mem_map.mp hk
        exact ⟨a, b, hmem, by simp⟩
      · exact ⟨k', v', hmem, by rw [if_neg hne]⟩
  · next hk =>
    simp only [List.mem_append, List.mem_singleton, Prod.mk.injEq]
    constructor
    · rintro (hmem | h)
      · have hne : k' ≠ k := by
          rintro rfl
          exact hk (List.mem_map_of_mem hmem)
        exact Or.inr ⟨hne, hmem⟩
      · exact Or.inl h
    · rintro (h | ⟨-, hmem⟩)
      · exact Or.inr h
      · exact Or.inl hmem

theorem lookup_replace (entries : List (κ × α)) (k k' : κ) (v : α) :
    (entries.map fun e => if e.1 = k then (k, v) else e).lookup k' =
      if k' = k then (entries.lookup k).map fun _ => v else entries.lookup k' := by
  induction entries with
  | nil => simp
  | cons e entries ih =>
    obtain ⟨key, x⟩ := e
    rw [List.map_cons]
    by_cases hkey : key = k
    · subst hkey
      by_cases hk : k' = key
      · simp [hk]
      · have hne : (k' == key) = false := by simp [hk]
        simp [List.lookup_cons, hne, hk, ih]
    · have hother : (k == key) = false := by simp [Ne.symm hkey]
      simp only [if_neg hkey, List.lookup_cons, ih]
      by_cases hk : k' = k
      · simp [hk, hother]
      · simp [hk]

/-- Reading an entry list after `d[k] = v`. -/
theorem lookup_setEntries (entries : List (κ × α)) (k k' : κ) (v : α) :
    (setEntries entries k v).lookup k' = if k' = k then some v else entries.lookup k' := by
  unfold setEntries
  split
  case isTrue hmem =>
    rw [lookup_replace]
    obtain ⟨e, he, hkey⟩ := List.mem_map.mp hmem
    have hsome : (entries.lookup k).isSome := by
      rw [List.lookup_isSome_iff]
      exact ⟨e, he, by simp [hkey]⟩
    obtain ⟨x, hx⟩ := Option.isSome_iff_exists.mp hsome
    rw [hx, Option.map_some]
  case isFalse hmem =>
    rw [List.lookup_append, List.lookup_cons]
    by_cases hk : k' = k
    · have hnone : entries.lookup k' = none := by
        rw [List.lookup_eq_none_iff]
        intro e he
        have hother : e.1 ≠ k := fun heq => hmem (List.mem_map.mpr ⟨e, he, heq⟩)
        simp [hk, Ne.symm hother]
      rw [hnone]
      simp [hk]
    · have hne : (k' == k) = false := by simp [hk]
      simp [hne, hk]

@[simp] theorem get?_set_self (d : Dict κ α) (k : κ) (v : α) : (d.set k v).get? k = some v := by
  rw [get?_eq_some_iff, mem_set_entries]
  exact Or.inl ⟨rfl, rfl⟩

theorem get?_set_ne (d : Dict κ α) {k k' : κ} (v : α) (h : k' ≠ k) :
    (d.set k v).get? k' = d.get? k' := by
  apply Option.ext
  intro v'
  rw [get?_eq_some_iff, get?_eq_some_iff, mem_set_entries]
  simp [h]

/-- Reading after one write. -/
@[grind =] theorem get?_set (d : Dict κ α) (k k' : κ) (v : α) :
    (d.set k v).get? k' = if k' = k then some v else d.get? k' := by
  split
  · next h => rw [h, get?_set_self]
  · next h => exact get?_set_ne d v h

/-- Reading after writing everything in a list: the last write counts. -/
theorem get?_foldl_set {γ : Type} (key : γ → κ) (value : γ → α) (xs : List γ) (d : Dict κ α) (k : κ) :
    (xs.foldl (fun d x => d.set (key x) (value x)) d).get? k =
      ((xs.reverse.find? fun x => key x = k).map value).or (d.get? k) := by
  induction xs generalizing d with
  | nil => rfl
  | cons x rest ih =>
    rw [List.foldl_cons, ih, get?_set, List.reverse_cons, List.find?_append]
    cases rest.reverse.find? fun x => key x = k with
    | some y => rfl
    | none =>
      by_cases h : k = key x
      · simp [h]
      · simp [h, Ne.symm h]

/-- The keys afterwards are those that were written, and those that were there. -/
theorem mem_keys_foldl_set {γ : Type} (key : γ → κ) (value : γ → α) (xs : List γ) (d : Dict κ α) (k : κ) :
    k ∈ (xs.foldl (fun d x => d.set (key x) (value x)) d).keys ↔ k ∈ xs.map key ∨ k ∈ d.keys := by
  rw [mem_keys_iff, mem_keys_iff, get?_foldl_set]
  cases hfound : xs.reverse.find? fun x => decide (key x = k) with
  | none =>
    have hnot : k ∉ xs.map key := by
      intro hmem
      obtain ⟨x, hx, hkey⟩ := List.mem_map.mp hmem
      have hne := List.find?_eq_none.mp hfound x (List.mem_reverse.mpr hx)
      simp [hkey] at hne
    simp [hnot]
  | some x =>
    have hmem : k ∈ xs.map key := by
      have hkey : key x = k := by simpa using List.find?_some hfound
      exact List.mem_map.mpr ⟨x, List.mem_reverse.mp (List.mem_of_find?_eq_some hfound), hkey⟩
    simp [hmem]

theorem lookup_foldl_setEntries {γ : Type} (key : γ → κ) (value : γ → α) (xs : List γ)
    (entries : List (κ × α)) (k : κ) :
    (xs.foldl (fun entries x => setEntries entries (key x) (value x)) entries).lookup k =
      ((xs.reverse.find? fun x => key x = k).map value).or (entries.lookup k) := by
  induction xs generalizing entries with
  | nil => rfl
  | cons x rest ih =>
    rw [List.foldl_cons, ih, lookup_setEntries, List.reverse_cons, List.find?_append]
    cases rest.reverse.find? fun x => key x = k with
    | some y => rfl
    | none =>
      by_cases h : k = key x
      · simp [h]
      · simp [h, Ne.symm h]

/-- Reading a dictionary is looking through its entries. -/
theorem get?_eq_lookup (d : Dict κ α) (k : κ) : d.get? k = d.entries.lookup k := by
  unfold get?
  induction d.entries with
  | nil => rfl
  | cons e rest ih =>
    rw [List.find?_cons, List.lookup_cons]
    by_cases h : k = e.1
    · simp [h]
    · have hne : (k == e.1) = false := by simp [h]
      simpa [hne, Ne.symm h] using ih

/-- What is found after one write is the new value or was there before. -/
theorem get?_set_cases {d : Dict κ α} {k k' : κ} {v v' : α} (h : (d.set k v).get? k' = some v') :
    k' = k ∧ v' = v ∨ k' ≠ k ∧ d.get? k' = some v' := by
  rw [get?_set] at h
  split at h
  · next hk => exact Or.inl ⟨hk, (Option.some.inj h).symm⟩
  · next hk => exact Or.inr ⟨hk, h⟩

/-- Setting a key to the value it has changes nothing. -/
theorem set_get?_self {d : Dict κ α} {k : κ} {v : α} (h : d.get? k = some v) : d.set k v = d := by
  have hmem : k ∈ d.entries.map Prod.fst := mem_keys_iff.mpr ⟨v, h⟩
  have hsame : setEntries d.entries k v = d.entries := by
    unfold setEntries
    rw [if_pos hmem]
    conv_rhs => rw [← List.map_id d.entries]
    apply List.map_congr_left
    rintro ⟨k', v'⟩ he
    by_cases hk : k' = k
    · subst hk
      have hv : v' = v := Option.some.inj ((get?_of_mem_entries he).symm.trans h)
      simp [hv]
    · exact if_neg hk
  obtain ⟨entries, hnd⟩ := d
  simp only [set, hsame]

/-- The keys of the dictionary only ever grow. -/
theorem mem_keys_set {d : Dict κ α} {k k' : κ} {v : α} :
    k' ∈ (d.set k v).keys ↔ k' = k ∨ k' ∈ d.keys := by
  rw [mem_keys_iff, mem_keys_iff, get?_set]
  split
  · next h => simp [h]
  · next h => simp [h]

/-- If at most one key is bound to a value that satisfies `p`, there is at most one such value. -/
theorem filter_values_length_le_one (d : Dict κ α) (p : α → Bool)
    (h : ∀ k k' v v', d.get? k = some v → d.get? k' = some v' → p v = true → p v' = true → k = k') :
    (d.values.filter p).length ≤ 1 := by
  have hfilter : d.values.filter p = (d.entries.filter fun e => p e.2).map Prod.snd := by
    unfold values
    rw [List.filter_map]
    rfl
  have hnodup : ((d.entries.filter fun e => p e.2).map Prod.fst).Nodup :=
    d.nodup_keys.sublist (List.filter_sublist.map Prod.fst)
  have hmem : ∀ e ∈ d.entries.filter fun e => p e.2, d.get? e.1 = some e.2 ∧ p e.2 = true := by
    intro e he
    obtain ⟨hentry, hp⟩ := List.mem_filter.mp he
    exact ⟨get?_of_mem_entries hentry, hp⟩
  rw [hfilter, List.length_map]
  generalize d.entries.filter (fun e => p e.2) = found at hnodup hmem
  match found, hnodup, hmem with
  | [], _, _ => exact Nat.zero_le 1
  | [e], _, _ => exact Nat.le_refl 1
  | e :: e' :: rest, hnodup, hmem =>
    obtain ⟨hget, hp⟩ := hmem e List.mem_cons_self
    obtain ⟨hget', hp'⟩ := hmem e' (List.mem_cons_of_mem _ List.mem_cons_self)
    have hkey := h e.1 e'.1 e.2 e'.2 hget hget' hp hp'
    simp [hkey] at hnodup

end Dict

end CaseAutomation.Framework
