import Std.Data.ExtTreeMap

/-! Lookups in tree maps, stated by `[·]?` alone. -/
namespace Std.ExtTreeMap

universe u v
variable {α : Type u} {β : Type v} {cmp : α → α → Ordering} [TransCmp cmp] {t : ExtTreeMap α β cmp}

/-- A look-up that finds nothing is about a key that is not there. -/
theorem getElem?_eq_none_iff {a : α} : t[a]? = none ↔ a ∉ t := by
  rw [← isSome_getElem?_iff_mem, Option.not_isSome_iff_eq_none]

/-- A new key is inserted. -/
theorem getElem?_insertIfNew_of_none {k a : α} {v : β} (hNew : t[k]? = none) :
    (t.insertIfNew k v)[a]? = if cmp k a = .eq then some v else t[a]? := by
  simp [getElem?_insertIfNew, getElem?_eq_none_iff.mp hNew]

/-- A key that is there keeps its value. -/
theorem getElem?_insertIfNew_of_some {k a : α} {v old : β} (hOld : t[k]? = some old) :
    (t.insertIfNew k v)[a]? = t[a]? := by
  have hMem : k ∈ t := by
    rw [← isSome_getElem?_iff_mem, hOld]
    rfl
  simp [getElem?_insertIfNew, hMem]

/-- What a key has already counts before what it is offered. -/
theorem getElem?_insertIfNew_eq_or {k a : α} {v : β} :
    (t.insertIfNew k v)[a]? = t[a]?.or (if cmp k a = .eq then some v else none) := by
  cases hOld : t[k]? with
  | none =>
      rw [getElem?_insertIfNew_of_none hOld]
      by_cases hKey : cmp k a = .eq
      · simp [hKey, ← getElem?_congr hKey, hOld]
      · simp [hKey]
  | some old =>
      rw [getElem?_insertIfNew_of_some hOld]
      by_cases hKey : cmp k a = .eq
      · simp [← getElem?_congr hKey, hOld]
      · simp [hKey]

/-- The keys of a map are distinct, so that its entries are. -/
theorem nodup_toList : t.toList.Nodup := by
  apply t.distinct_keys_toList.imp
  rintro first second hNe rfl
  exact hNe ReflCmp.compare_self

/-- A new key adds one entry. -/
theorem toList_insertIfNew_perm [LawfulEqCmp cmp] {k : α} {v : β} (hNew : t[k]? = none) :
    (t.insertIfNew k v).toList.Perm ((k, v) :: t.toList) := by
  have hOther : (k, v) ∉ t.toList := by
    rw [mem_toList_iff_getElem?_eq_some, hNew]
    simp
  apply (List.perm_ext_iff_of_nodup nodup_toList (List.nodup_cons.mpr ⟨hOther, nodup_toList⟩)).mpr
  rintro ⟨a, w⟩
  rw [mem_toList_iff_getElem?_eq_some, getElem?_insertIfNew_of_none hNew, List.mem_cons,
    mem_toList_iff_getElem?_eq_some, Prod.mk.injEq]
  by_cases hKey : k = a
  · subst hKey
    simp [hNew, ReflCmp.compare_self, eq_comm]
  · have hNe : cmp k a ≠ .eq := fun hEq => hKey (LawfulEqCmp.compare_eq_iff_eq.mp hEq)
    rw [if_neg hNe, or_iff_right (fun hSame => hKey hSame.1.symm)]

/-- The entries of one key. -/
theorem toList_filter_key [LawfulEqCmp cmp] [DecidableEq α] (k : α) :
    t.toList.filter (fun entry => entry.1 = k) = t[k]?.toList.map fun v => (k, v) := by
  have hDistinct : t.toList.Pairwise fun first second => first.1 ≠ second.1 := by
    apply t.distinct_keys_toList.imp
    intro first second hNe hSame
    exact hNe (LawfulEqCmp.compare_eq_iff_eq.mpr hSame)
  cases hValue : t[k]? with
  | none =>
      apply List.filter_eq_nil_iff.mpr
      intro entry hEntry hKey
      have hFound := mem_toList_iff_getElem?_eq_some.mp hEntry
      rw [of_decide_eq_true hKey, hValue] at hFound
      cases hFound
  | some v =>
      have hMem : (k, v) ∈ t.toList := mem_toList_iff_getElem?_eq_some.mpr hValue
      obtain ⟨before, after, hList⟩ := List.append_of_mem hMem
      rw [hList, List.pairwise_append, List.pairwise_cons] at hDistinct
      have hBefore : before.filter (fun entry => entry.1 = k) = [] := by
        simpa using fun key value hEntry => hDistinct.2.2 (key, value) hEntry (k, v) (by simp)
      have hAfter : after.filter (fun entry => entry.1 = k) = [] := by
        simpa using fun key value hEntry => (hDistinct.2.1.1 (key, value) hEntry).symm
      rw [hList, List.filter_append, hBefore, List.filter_cons, hAfter]
      simp

/-- A fold that changes one key at a time, looked at by key. -/
theorem getElem?_foldl {γ : Type u} {key : γ → α} {add : ExtTreeMap α β cmp → γ → ExtTreeMap α β cmp}
    {merge : Option β → γ → Option β}
    (hAdd : ∀ (t : ExtTreeMap α β cmp) entry a,
      (add t entry)[a]? = if cmp (key entry) a = .eq then merge t[a]? entry else t[a]?)
    (entries : List γ) (t : ExtTreeMap α β cmp) (a : α) : (entries.foldl add t)[a]? =
      (entries.filter fun entry => cmp (key entry) a = .eq).foldl merge t[a]? := by
  induction entries generalizing t with
  | nil => rfl
  | cons entry entries ih =>
      rw [List.foldl_cons, ih, hAdd, List.filter_cons]
      by_cases hKey : cmp (key entry) a = .eq
      · simp [hKey]
      · simp [hKey]

end Std.ExtTreeMap
