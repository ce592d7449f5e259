import VirtualShell.Entries
/-
  Laws of keyed entries.

  What is found under a key after `put`, `modify` and `erase`, which keys there are
  then, and that pairs with distinct keys are their own entries.
-/

namespace VirtualShell.Entries

variable {α : Type}

@[simp] theorem keys_nil : keys ([] : Entries α) = [] := rfl

@[simp] theorem keys_cons (p : Text × α) (entries : Entries α) :
    keys (p :: entries) = p.1 :: keys entries := rfl

theorem mem_of_get? {key : Text} {v : α} {entries : Entries α} (h : entries.get? key = some v) :
    (key, v) ∈ entries := by
  induction entries with
  | nil => simp [get?] at h
  | cons p rest ih =>
    by_cases hk : p.1 = key
    · simp [get?, hk] at h
      subst h hk
      exact List.mem_cons_self
    · simp only [get?, hk, if_false] at h
      exact List.mem_cons_of_mem _ (ih h)

theorem mem_keys_of_mem {p : Text × α} {entries : Entries α} (h : p ∈ entries) :
    p.1 ∈ keys entries := List.mem_map_of_mem h

theorem has_iff {key : Text} {entries : Entries α} :
    has key entries = true ↔ key ∈ keys entries := by
  induction entries with
  | nil => simp [has, get?]
  | cons p rest ih =>
    by_cases hk : p.1 = key
    · simp [has, get?, hk]
    · have hne : key ≠ p.1 := fun e => hk e.symm
      simp only [has, get?, hk, if_false, keys_cons, List.mem_cons, hne, false_or] at ih ⊢
      exact ih

theorem get?_eq_none_iff {key : Text} {entries : Entries α} :
    entries.get? key = none ↔ key ∉ keys entries := by
  rw [← has_iff]
  simp [has]

/-- Where no key is there twice, every entry is found under its key. -/
theorem get?_of_mem {key : Text} {v : α} {entries : Entries α} (hd : (keys entries).Nodup)
    (h : (key, v) ∈ entries) : entries.get? key = some v := by
  induction entries with
  | nil => simp at h
  | cons p rest ih =>
    rw [keys_cons, List.nodup_cons] at hd
    rcases List.mem_cons.mp h with rfl | h
    · simp [get?]
    · have hne : p.1 ≠ key := fun e => hd.1 (e ▸ mem_keys_of_mem h)
      rw [get?, if_neg hne]
      exact ih hd.2 h

/-! ## `put` -/

theorem get?_put_self (key : Text) (v : α) (entries : Entries α) :
    (put key v entries).get? key = some v := by
  induction entries with
  | nil => simp [put, get?]
  | cons p rest ih =>
    by_cases hk : p.1 = key
    · simp [put, get?, hk]
    · simp [put, get?, hk, ih]

theorem get?_put_of_ne {key other : Text} (h : other ≠ key) (v : α) (entries : Entries α) :
    (put key v entries).get? other = entries.get? other := by
  induction entries with
  | nil => simp [put, get?, h.symm]
  | cons p rest ih =>
    by_cases hk : p.1 = key
    · simp [put, get?, hk, h.symm]
    · simp [put, get?, hk, ih]

theorem put_of_not_mem {key : Text} (v : α) {entries : Entries α} (h : key ∉ keys entries) :
    put key v entries = entries ++ [(key, v)] := by
  induction entries with
  | nil => rfl
  | cons p rest ih =>
    rw [keys_cons, List.mem_cons, not_or] at h
    have hne : p.1 ≠ key := fun e => h.1 e.symm
    simp [put, hne, ih h.2]

theorem mem_put {key : Text} {v : α} {entries : Entries α} {p : Text × α}
    (h : p ∈ put key v entries) : p ∈ entries ∨ p = (key, v) := by
  induction entries with
  | nil => simpa [put] using h
  | cons q rest ih =>
    by_cases hk : q.1 = key
    · simp only [put, hk, if_true, List.mem_cons] at h
      rcases h with rfl | h
      · exact Or.inr rfl
      · exact Or.inl (List.mem_cons_of_mem _ h)
    · simp only [put, hk, if_false, List.mem_cons] at h
      rcases h with rfl | h
      · exact Or.inl List.mem_cons_self
      · rcases ih h with h | h
        · exact Or.inl (List.mem_cons_of_mem _ h)
        · exact Or.inr h

theorem keys_put_of_mem {key : Text} (v : α) {entries : Entries α} (h : key ∈ keys entries) :
    keys (put key v entries) = keys entries := by
  induction entries with
  | nil => simp at h
  | cons p rest ih =>
    by_cases hk : p.1 = key
    · simp [put, hk]
    · rw [keys_cons, List.mem_cons] at h
      have hr : key ∈ keys rest := h.resolve_left fun e => hk e.symm
      simp [put, hk, ih hr]

theorem nodup_keys_put (key : Text) (v : α) {entries : Entries α} (h : (keys entries).Nodup) :
    (keys (put key v entries)).Nodup := by
  by_cases hk : key ∈ keys entries
  · rwa [keys_put_of_mem v hk]
  · rw [put_of_not_mem v hk]
    simp only [keys, List.map_append, List.map_cons, List.map_nil]
    rw [List.nodup_append]
    refine ⟨h, by simp, ?_⟩
    intro a ha b hb
    rw [List.mem_singleton] at hb
    subst hb
    exact fun e => hk (e ▸ ha)

/-! ## `modify` -/

theorem get?_modify_self (key : Text) (f : α → α) (entries : Entries α) :
    (modify key f entries).get? key = (entries.get? key).map f := by
  induction entries with
  | nil => rfl
  | cons p rest ih =>
    by_cases hk : p.1 = key
    · simp [modify, get?, hk]
    · simp [modify, get?, hk, ih]

theorem get?_modify_of_ne {key other : Text} (h : other ≠ key) (f : α → α) (entries : Entries α) :
    (modify key f entries).get? other = entries.get? other := by
  induction entries with
  | nil => rfl
  | cons p rest ih =>
    by_cases hk : p.1 = key
    · simp [modify, get?, hk, h.symm]
    · simp [modify, get?, hk, ih]

@[simp] theorem keys_modify (key : Text) (f : α → α) (entries : Entries α) :
    keys (modify key f entries) = keys entries := by
  induction entries with
  | nil => rfl
  | cons p rest ih =>
    by_cases hk : p.1 = key
    · simp [modify, hk]
    · simp [modify, hk, ih]

theorem modify_modify (key : Text) (f g : α → α) (entries : Entries α) :
    modify key f (modify key g entries) = modify key (fun v => f (g v)) entries := by
  induction entries with
  | nil => rfl
  | cons p rest ih =>
    by_cases hk : p.1 = key
    · simp [modify, hk]
    · simp [modify, hk, ih]

theorem mem_modify {key : Text} {f : α → α} {entries : Entries α} {p : Text × α}
    (h : p ∈ modify key f entries) : p ∈ entries ∨ ∃ v, (key, v) ∈ entries ∧ p = (key, f v) := by
  induction entries with
  | nil => simp [modify] at h
  | cons q rest ih =>
    by_cases hk : q.1 = key
    · simp only [modify, hk, if_true, List.mem_cons] at h
      rcases h with rfl | h
      · exact Or.inr ⟨q.2, by simp [← hk], rfl⟩
      · exact Or.inl (List.mem_cons_of_mem _ h)
    · simp only [modify, hk, if_false, List.mem_cons] at h
      rcases h with rfl | h
      · exact Or.inl List.mem_cons_self
      · rcases ih h with h | ⟨v, hv, hp⟩
        · exact Or.inl (List.mem_cons_of_mem _ h)
        · exact Or.inr ⟨v, List.mem_cons_of_mem _ hv, hp⟩

/-! ## `erase` -/

theorem get?_erase_of_ne {key other : Text} (h : other ≠ key) (entries : Entries α) :
    (erase key entries).get? other = entries.get? other := by
  induction entries with
  | nil => rfl
  | cons p rest ih =>
    by_cases hk : p.1 = key
    · simp [erase, get?, hk, h.symm]
    · simp [erase, get?, hk, ih]

theorem erase_sublist (key : Text) (entries : Entries α) :
    List.Sublist (erase key entries) entries := by
  induction entries with
  | nil => exact List.Sublist.refl _
  | cons p rest ih =>
    by_cases hk : p.1 = key
    · simp only [erase, hk, if_true]
      exact List.sublist_cons_self _ _
    · simp only [erase, hk, if_false]
      exact ih.cons_cons _

theorem keys_erase (key : Text) (entries : Entries α) :
    keys (erase key entries) = (keys entries).erase key := by
  induction entries with
  | nil => rfl
  | cons p rest ih =>
    by_cases hk : p.1 = key
    · simp [erase, hk]
    · simp [erase, hk, ih]

theorem nodup_keys_erase (key : Text) {entries : Entries α} (h : (keys entries).Nodup) :
    (keys (erase key entries)).Nodup :=
  ((erase_sublist key entries).map _).nodup h

/-- Where no key is there twice, nothing is left under one that was taken out. -/
theorem get?_erase_self (key : Text) {entries : Entries α} (h : (keys entries).Nodup) :
    (erase key entries).get? key = none := by
  rw [get?_eq_none_iff, keys_erase]
  exact h.not_mem_erase

/-! ## Values changed in their places -/

theorem get?_map {β : Type} (key : Text) (f : α → β) (entries : Entries α) :
    get? key (entries.map fun e => (e.1, f e.2)) = (entries.get? key).map f := by
  induction entries with
  | nil => rfl
  | cons p rest ih =>
    by_cases hk : p.1 = key
    · simp [get?, hk]
    · simp only [List.map_cons, get?, hk, if_false, ih]

/-! ## Entries made from pairs -/

theorem foldl_put_eq_append (pairs : List (Text × α)) :
    ∀ entries : Entries α, (keys (entries ++ pairs)).Nodup →
      pairs.foldl (fun entries p => entries.put p.1 p.2) entries = entries ++ pairs := by
  induction pairs with
  | nil => intro entries _; simp
  | cons p rest ih =>
    intro entries hd
    have hp : p.1 ∉ keys entries := by
      simp only [keys, List.map_append, List.map_cons, List.nodup_append] at hd
      exact fun hm => hd.2.2 p.1 hm p.1 List.mem_cons_self rfl
    have hd' : (keys (entries ++ [p] ++ rest)).Nodup := by simpa using hd
    rw [List.foldl_cons, put_of_not_mem p.2 hp, ih _ hd']
    simp

/-- Pairs whose keys are distinct are the entries made from them. -/
theorem ofPairs_eq {pairs : List (Text × α)} (h : (keys pairs).Nodup) : ofPairs pairs = pairs :=
  foldl_put_eq_append pairs [] h

theorem put_map {β : Type} (f : α → β) (key : Text) (value : α) (entries : Entries α) :
    put key (f value) (entries.map fun p => (p.1, f p.2)) =
      (put key value entries).map fun p => (p.1, f p.2) := by
  induction entries with
  | nil => rfl
  | cons p rest ih =>
    simp only [List.map_cons, put, ih]
    split <;> rfl

/-- Values may be changed before the entries are made or after. -/
theorem ofPairs_map {β : Type} (f : α → β) (pairs : List (Text × α)) :
    ofPairs (pairs.map fun p => (p.1, f p.2)) = (ofPairs pairs).map fun p => (p.1, f p.2) := by
  have general : ∀ entries : Entries α,
      (pairs.map fun p => (p.1, f p.2)).foldl (fun entries p => put p.1 p.2 entries)
          (entries.map fun p => (p.1, f p.2)) =
        (pairs.foldl (fun entries p => put p.1 p.2 entries) entries).map
          fun p => (p.1, f p.2) := by
    induction pairs with
    | nil => intro entries; rfl
    | cons p rest ih =>
      intro entries
      rw [List.map_cons, List.foldl_cons, List.foldl_cons, put_map f, ih]
  exact general []

end VirtualShell.Entries
