import DocSearch.Json.Value

/-!
# Looking up members

What a look-up finds, in terms of the members that stand in an object, and where a new one is put.
-/
namespace DocSearch.Json.Members

/-- A member that is not there is set at the end. -/
theorem insert_of_not_mem {key : String} (value : Json) {members : Members}
    (absent : key ∉ keys members) : insert key value members = members ++ [(key, value)] := by
  induction members with
  | nil => rfl
  | cons m rest ih =>
    obtain ⟨other, later⟩ := not_or.mp (mt List.mem_cons.mpr absent)
    rw [insert, if_neg (Ne.symm other), ih later, List.cons_append]

theorem find?_eq_none_iff (key : String) (members : Members) :
    find? key members = none ↔ key ∉ keys members := by
  induction members with
  | nil => simp [find?, keys]
  | cons m rest ih =>
    obtain ⟨k, v⟩ := m
    simp only [keys] at ih
    by_cases here : k = key
    · simp [find?, keys, here]
    · simp [find?, keys, here, ih, Ne.symm here]

/-- Where no key stands twice, every member is the one that is found. -/
theorem find?_eq_some_iff {members : Members} (distinct : (keys members).Nodup) (key : String)
    (v : Json) : find? key members = some v ↔ (key, v) ∈ members := by
  induction members with
  | nil => simp [find?]
  | cons m rest ih =>
    obtain ⟨k, w⟩ := m
    obtain ⟨absent, distinct⟩ := List.nodup_cons.mp distinct
    by_cases here : k = key
    · subst here
      have elsewhere : (k, v) ∉ rest := fun member =>
        absent (List.mem_map.mpr ⟨(k, v), member, rfl⟩)
      simp [find?, elsewhere, eq_comm]
    · simp [find?, here, Ne.symm here, ih distinct]

/-- The order of members matters only where a key stands twice. -/
theorem find?_eq_of_perm {xs ys : Members} (perm : xs.Perm ys) (distinct : (keys xs).Nodup)
    (key : String) : find? key xs = find? key ys := by
  have distinct' : (keys ys).Nodup := (perm.map Prod.fst).nodup_iff.mp distinct
  ext v
  rw [find?_eq_some_iff distinct, find?_eq_some_iff distinct', perm.mem_iff]

theorem find?_append (key : String) (front back : Members) :
    find? key (front ++ back) = (find? key front).or (find? key back) := by
  induction front with
  | nil => rfl
  | cons m rest ih =>
    obtain ⟨k, v⟩ := m
    by_cases here : k = key <;> simp [find?, here, ih]

/-- Members may be removed by their keys without any effect on the others. -/
theorem find?_filter (keep : String → Bool) (key : String) (members : Members) :
    find? key (members.filter fun m => keep m.1) =
      if keep key then find? key members else none := by
  induction members with
  | nil => simp [find?]
  | cons m rest ih =>
    obtain ⟨k, v⟩ := m
    by_cases here : k = key
    · subst here
      by_cases kept : keep k = true <;> simp [find?, kept, ih]
    · by_cases kept : keep k = true <;> simp [find?, kept, here, ih]

/-- Members with the same keys in the same order, under which the same is found, are the same. -/
theorem eq_of_find?_eq {xs ys : Members} (names : keys xs = keys ys) (distinct : (keys xs).Nodup)
    (found : ∀ key, find? key xs = find? key ys) : xs = ys := by
  induction xs generalizing ys with
  | nil => exact (List.map_eq_nil_iff.mp names.symm).symm
  | cons m xs ih =>
    cases ys with
    | nil => cases names
    | cons m' ys =>
      obtain ⟨k, v⟩ := m
      obtain ⟨k', v'⟩ := m'
      obtain ⟨same, later⟩ := List.cons.inj names
      obtain rfl : k = k' := same
      obtain ⟨absent, distinct⟩ := List.nodup_cons.mp distinct
      obtain rfl : v = v' := by simpa [find?] using found k
      rw [ih later distinct fun key => ?_]
      by_cases here : k = key
      · subst here
        have absent' : k ∉ keys ys := by rwa [keys, ← later]
        rw [(find?_eq_none_iff k xs).mpr absent, (find?_eq_none_iff k ys).mpr absent']
      · simpa [find?, here] using found key

end DocSearch.Json.Members
