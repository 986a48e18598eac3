import Mathlib.Data.List.Induction
import Mathlib.Data.List.Perm.Basic
import Mathlib.Tactic
import Std.Data.ExtTreeMap

/-! Ordered maps whose order tells all keys apart, seen through their look-ups: what an insertion changes,
    which entries a map built from a list has, and what the list of all values gains by an insertion. -/

namespace TrustReplica.Maps

open Std

variable {α β : Type} [Ord α] [TransOrd α] [LawfulEqOrd α]

omit [LawfulEqOrd α] in
theorem mem_iff {m : ExtTreeMap α β} {k : α} : k ∈ m ↔ ∃ v, m[k]? = some v := by
  rw [← ExtTreeMap.isSome_getElem?_iff_mem, Option.isSome_iff_exists]

theorem getElem?_insert [DecidableEq α] (m : ExtTreeMap α β) (k a : α) (v : β) :
    (m.insert k v)[a]? = if k = a then some v else m[a]? := by
  rw [ExtTreeMap.getElem?_insert]
  simp only [LawfulEqOrd.compare_eq_iff_eq]

theorem getElem?_erase [DecidableEq α] (m : ExtTreeMap α β) (k a : α) :
    (m.erase k)[a]? = if k = a then none else m[a]? := by
  rw [ExtTreeMap.getElem?_erase]
  simp only [LawfulEqOrd.compare_eq_iff_eq]

theorem getElem?_insertIfNew [DecidableEq α] (m : ExtTreeMap α β) (k a : α) (v : β) :
    (m.insertIfNew k v)[a]? = if k = a ∧ k ∉ m then some v else m[a]? := by
  rw [ExtTreeMap.getElem?_insertIfNew]
  simp only [LawfulEqOrd.compare_eq_iff_eq]

/-- Putting in again what is there changes nothing. -/
theorem insert_of_getElem? {m : ExtTreeMap α β} {k : α} {v : β} (h : m[k]? = some v) : m.insert k v = m := by
  classical
  refine ExtTreeMap.ext_getElem? fun a => ?_
  rw [getElem?_insert]
  split_ifs with hk
  · rw [← hk, h]
  · rfl

theorem insert_comm {k k' : α} (h : k ≠ k') (m : ExtTreeMap α β) (v v' : β) :
    (m.insert k v).insert k' v' = (m.insert k' v').insert k v := by
  classical
  refine ExtTreeMap.ext_getElem? fun a => ?_
  simp only [getElem?_insert]
  by_cases hk : k = a
  · rw [if_neg fun hk' => h (hk.trans hk'.symm), if_pos hk, if_pos hk]
  · rw [if_neg hk, if_neg hk]

/-- The later one of two values for a key stays. -/
theorem insert_insert (m : ExtTreeMap α β) (k : α) (v v' : β) :
    (m.insert k v).insert k v' = m.insert k v' := by
  classical
  refine ExtTreeMap.ext_getElem? fun a => ?_
  simp only [getElem?_insert]
  by_cases hk : k = a
  · rw [if_pos hk, if_pos hk]
  · rw [if_neg hk, if_neg hk, if_neg hk]

theorem insertIfNew_of_mem {m : ExtTreeMap α β} {k : α} (h : k ∈ m) (v : β) : m.insertIfNew k v = m := by
  classical
  refine ExtTreeMap.ext_getElem? fun a => ?_
  rw [getElem?_insertIfNew, if_neg fun hn => hn.2 h]

theorem insertIfNew_of_not_mem {m : ExtTreeMap α β} {k : α} (h : k ∉ m) (v : β) :
    m.insertIfNew k v = m.insert k v := by
  classical
  refine ExtTreeMap.ext_getElem? fun a => ?_
  rw [getElem?_insertIfNew, getElem?_insert]
  simp only [h, not_false_eq_true, and_true]

theorem map_insert {γ : Type} (f : α → β → γ) (m : ExtTreeMap α β) (k : α) (v : β) :
    (m.insert k v).map f = (m.map f).insert k (f k v) := by
  classical
  refine ExtTreeMap.ext_getElem? fun a => ?_
  rw [ExtTreeMap.getElem?_map, getElem?_insert, getElem?_insert, ExtTreeMap.getElem?_map]
  split_ifs with hk
  · rw [← hk, Option.map_some]
  · rfl

/-- A map is rebuilt from the list of its entries. -/
theorem ofList_toList (m : ExtTreeMap α β) : ExtTreeMap.ofList m.toList = m := by
  refine ExtTreeMap.ext_getElem? fun k => ?_
  cases hk : m[k]? with
  | some v =>
    exact ExtTreeMap.getElem?_ofList_of_mem compare_self m.distinct_keys_toList
      (ExtTreeMap.mem_toList_iff_getElem?_eq_some.mpr hk)
  | none =>
    classical
    refine ExtTreeMap.getElem?_ofList_of_contains_eq_false ?_
    rw [ExtTreeMap.map_fst_toList_eq_keys, ExtTreeMap.contains_keys, ← Bool.not_eq_true,
      ExtTreeMap.contains_iff_mem]
    simpa using hk

/-- An entry of a map built from a list is an entry of the list. -/
theorem mem_of_getElem?_ofList {l : List (α × β)} {k : α} {v : β}
    (h : (ExtTreeMap.ofList l : ExtTreeMap α β)[k]? = some v) : (k, v) ∈ l := by
  classical
  rw [ExtTreeMap.ofList_eq_foldl] at h
  induction l using List.reverseRecOn with
  | nil => simp at h
  | append_singleton l e ih =>
    rw [List.foldl_append, List.foldl_cons, List.foldl_nil, getElem?_insert] at h
    rw [List.mem_append, List.mem_singleton]
    split_ifs at h with hk
    · right; rw [← hk, ← Option.some_inj.mp h]
    · exact Or.inl (ih h)

/-- The only value that a list has for a key is the one in the map that is built from it. -/
theorem getElem?_ofList_of_unique {l : List (α × β)} {k : α} {v : β} (h : (k, v) ∈ l)
    (hunique : ∀ w, (k, w) ∈ l → w = v) : (ExtTreeMap.ofList l : ExtTreeMap α β)[k]? = some v := by
  classical
  cases hk : (ExtTreeMap.ofList l : ExtTreeMap α β)[k]? with
  | some w => rw [hunique w (mem_of_getElem?_ofList hk)]
  | none =>
    have hmem : k ∈ (ExtTreeMap.ofList l : ExtTreeMap α β) := by
      rw [ExtTreeMap.mem_ofList, List.contains_iff_mem]
      exact List.mem_map.mpr ⟨(k, v), h, rfl⟩
    exact absurd hmem (by simpa using hk)

/-- Entries put into a map one after the other: the last one for a key stays. -/
theorem getElem?_foldl_insert {ε : Type} [DecidableEq α] (key : ε → α) (value : ε → β) (l : List ε)
    (m : ExtTreeMap α β) (k : α) : (l.foldl (fun m e => m.insert (key e) (value e)) m)[k]? =
      ((l.filter fun e => key e = k).getLast?.map value).or m[k]? := by
  induction l generalizing m with
  | nil => rfl
  | cons e l ih =>
    rw [List.foldl_cons, ih, getElem?_insert, List.filter_cons]
    by_cases hk : key e = k
    · simp only [hk, if_true, decide_true, List.getLast?_cons]
      cases (l.filter fun e => key e = k).getLast? <;> rfl
    · simp [hk]

theorem nodup_toList (m : ExtTreeMap α β) : m.toList.Nodup :=
  m.distinct_keys_toList.imp fun hne heq => hne (by rw [heq, compare_self])

/-- Putting a value in the place of a key takes out the old entry and adds the new one. -/
theorem toList_insert_perm [DecidableEq α] (m : ExtTreeMap α β) (k : α) (v : β) :
    (m.insert k v).toList.Perm ((k, v) :: (m.erase k).toList) := by
  have hout : (k, v) ∉ (m.erase k).toList := by
    simp [ExtTreeMap.mem_toList_iff_getElem?_eq_some]
  refine (List.perm_ext_iff_of_nodup (nodup_toList _)
    (List.nodup_cons.mpr ⟨hout, nodup_toList _⟩)).mpr fun ⟨a, b⟩ => ?_
  rw [List.mem_cons, ExtTreeMap.mem_toList_iff_getElem?_eq_some,
    ExtTreeMap.mem_toList_iff_getElem?_eq_some, getElem?_insert, getElem?_erase,
    Prod.mk.injEq]
  by_cases hk : k = a
  · simp [hk, eq_comm]
  · simp [hk, Ne.symm hk]

/-- The entries of a map with one key apart. -/
theorem toList_perm_erase [DecidableEq α] {m : ExtTreeMap α β} {k : α} {v : β}
    (h : m[k]? = some v) : m.toList.Perm ((k, v) :: (m.erase k).toList) := by
  have hp := toList_insert_perm m k v
  rwa [insert_of_getElem? h] at hp

end TrustReplica.Maps
