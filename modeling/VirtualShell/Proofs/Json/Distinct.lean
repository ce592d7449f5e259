import VirtualShell.Json.Reader
import VirtualShell.Proofs.Entries
/-
  What the reader gives has distinct keys.

  A repeated key in a text keeps its last value, so however often a key is written, an
  object that was read has it once, and so has every object inside it.
-/

namespace VirtualShell

/-- Two steps, one after the other, succeed when both do. -/
theorem bind_eq_ok {ε α β : Type} {first : Except ε α} {next : α → Except ε β} {b : β} :
    first >>= next = .ok b ↔ ∃ a, first = .ok a ∧ next a = .ok b := by
  cases first <;> simp [bind, Except.bind]

/-- Of two steps, one after the other, the first or the second fails. -/
theorem bind_eq_error {ε α β : Type} {first : Except ε α} {next : α → Except ε β} {e : ε} :
    first >>= next = .error e ↔ first = .error e ∨ ∃ a, first = .ok a ∧ next a = .error e := by
  cases first <;> simp [bind, Except.bind]

theorem unit_bind_eq_ok {ε β : Type} {first : Except ε Unit} {next : Except ε β} {b : β} :
    (first >>= fun _ => next) = .ok b ↔ first = .ok () ∧ next = .ok b := by
  cases first <;> simp [bind, Except.bind]

namespace Entries

variable {α : Type}

theorem nodup_keys_foldl_put (pairs : List (Text × α)) :
    ∀ {entries : Entries α}, (keys entries).Nodup →
      (keys (pairs.foldl (fun entries p => entries.put p.1 p.2) entries)).Nodup := by
  induction pairs with
  | nil => intro entries h; exact h
  | cons p rest ih => intro entries h; exact ih (nodup_keys_put p.1 p.2 h)

theorem mem_foldl_put {e : Text × α} (pairs : List (Text × α)) :
    ∀ {entries : Entries α},
      e ∈ pairs.foldl (fun entries p => entries.put p.1 p.2) entries → e ∈ entries ∨ e ∈ pairs := by
  induction pairs with
  | nil => intro entries h; exact Or.inl h
  | cons p rest ih =>
    intro entries h
    rcases ih h with h | h
    · rcases mem_put h with h | rfl
      · exact Or.inl h
      · exact Or.inr List.mem_cons_self
    · exact Or.inr (List.mem_cons_of_mem _ h)

theorem nodup_keys_ofPairs (pairs : List (Text × α)) : (keys (ofPairs pairs)).Nodup :=
  nodup_keys_foldl_put pairs List.nodup_nil

theorem mem_ofPairs {e : Text × α} {pairs : List (Text × α)} (h : e ∈ ofPairs pairs) :
    e ∈ pairs := by
  rcases mem_foldl_put pairs h with h | h
  · simp at h
  · exact h

end Entries

namespace Json

/-- A value in which no object has a key twice. -/
inductive IsDistinct : Json → Prop
  | null : IsDistinct .null
  | boolean (b : Bool) : IsDistinct (.boolean b)
  | number (n : Number) : IsDistinct (.number n)
  | text (t : Text) : IsDistinct (.text t)
  | array {items : List Json} : (∀ v ∈ items, IsDistinct v) → IsDistinct (.array items)
  | object {fields : List (Text × Json)} : (Entries.keys fields).Nodup →
    (∀ p ∈ fields, IsDistinct p.2) → IsDistinct (.object fields)

theorem isDistinct_ofPairs {pairs : List (Text × Json)} (h : ∀ p ∈ pairs, IsDistinct p.2) :
    IsDistinct (.object (Entries.ofPairs pairs)) :=
  .object (Entries.nodup_keys_ofPairs pairs) fun p hp => h p (Entries.mem_ofPairs hp)

theorem eq_of_expectWord {word t rest : Text} {v w : Json}
    (h : expectWord word v t = .ok (w, rest)) : w = v := by
  rw [expectWord] at h
  split at h
  · cases h
    rfl
  · cases h

theorem isDistinct_of_readUnsignedNumber {negative : Bool} {t rest : Text} {v : Json}
    (h : readUnsignedNumber negative t = .ok (v, rest)) : v.IsDistinct := by
  unfold readUnsignedNumber at h
  repeat' split at h
  all_goals
    cases h
    try exact .number _

theorem isDistinct_of_readAtom {t rest : Text} {v : Json} (h : readAtom t = .ok (v, rest)) :
    v.IsDistinct := by
  unfold readAtom at h
  split at h
  · cases h
  repeat' split at h
  all_goals first
    | exact eq_of_expectWord h ▸ .null
    | exact eq_of_expectWord h ▸ .boolean _
    | exact eq_of_expectWord h ▸ .number _
    | exact isDistinct_of_readUnsignedNumber h
    | cases h

/-- What the calls with one bound give is made of distinct keys. -/
structure ReadsDistinct (n : Nat) : Prop where
  value : ∀ {t rest : Text} {v : Json}, readValue n t = .ok (v, rest) → v.IsDistinct
  items : ∀ {t rest : Text} {items : List Json}, readItems n t = .ok (items, rest) →
    ∀ v ∈ items, v.IsDistinct
  pairs : ∀ {t rest : Text} {pairs : List (Text × Json)}, readPairs n t = .ok (pairs, rest) →
    ∀ p ∈ pairs, p.2.IsDistinct

theorem ReadsDistinct.value_succ {n : Nat} (h : ReadsDistinct n) {t rest : Text} {v : Json}
    (hv : readValue (n + 1) t = .ok (v, rest)) : v.IsDistinct := by
  cases t with
  | nil => simp [readValue] at hv
  | cons c more =>
    rw [readValue] at hv
    split at hv
    · obtain ⟨⟨t, r⟩, -, hv⟩ := bind_eq_ok.mp hv
      cases hv
      exact .text t
    split at hv
    · split at hv
      · split at hv
        · cases hv
          exact .array (by simp)
        · obtain ⟨⟨items, r⟩, hi, hv⟩ := bind_eq_ok.mp hv
          cases hv
          exact .array (h.items hi)
      · cases hv
    split at hv
    · split at hv
      · split at hv
        · cases hv
          exact .object (by simp) (by simp)
        · obtain ⟨⟨pairs, r⟩, hp, hv⟩ := bind_eq_ok.mp hv
          cases hv
          exact isDistinct_ofPairs (h.pairs hp)
      · cases hv
    · exact isDistinct_of_readAtom hv

theorem ReadsDistinct.items_succ {n : Nat} (h : ReadsDistinct n) {t rest : Text}
    {items : List Json} (hi : readItems (n + 1) t = .ok (items, rest)) :
    ∀ v ∈ items, v.IsDistinct := by
  rw [readItems] at hi
  obtain ⟨⟨v, r⟩, hv, hi⟩ := bind_eq_ok.mp hi
  dsimp only at hi
  split at hi
  · split at hi
    · cases hi
      simpa using h.value hv
    · split at hi
      · obtain ⟨⟨more, r⟩, hm, hi⟩ := bind_eq_ok.mp hi
        cases hi
        simpa using ⟨h.value hv, h.items hm⟩
      · cases hi
  · cases hi

theorem ReadsDistinct.pairs_succ {n : Nat} (h : ReadsDistinct n) {t rest : Text}
    {pairs : List (Text × Json)} (hp : readPairs (n + 1) t = .ok (pairs, rest)) :
    ∀ p ∈ pairs, p.2.IsDistinct := by
  cases t with
  | nil => simp [readPairs] at hp
  | cons c more =>
    rw [readPairs] at hp
    split at hp
    · obtain ⟨⟨key, r⟩, -, hp⟩ := bind_eq_ok.mp hp
      dsimp only at hp
      split at hp
      · split at hp
        · obtain ⟨⟨v, r⟩, hv, hp⟩ := bind_eq_ok.mp hp
          dsimp only at hp
          split at hp
          · split at hp
            · cases hp
              simpa using h.value hv
            · split at hp
              · obtain ⟨⟨more, r⟩, hm, hp⟩ := bind_eq_ok.mp hp
                cases hp
                intro p hmem
                rcases List.mem_cons.mp hmem with rfl | hmem
                · exact h.value hv
                · exact h.pairs hm p hmem
              · cases hp
          · cases hp
        · cases hp
      · cases hp
    · cases hp

theorem readsDistinct (n : Nat) : ReadsDistinct n := by
  -- each reader calls the others with the bound below its own
  induction n with
  | zero =>
    refine ⟨fun h => ?_, fun h => ?_, fun h => ?_⟩
    · simp [readValue] at h
    · simp [readItems] at h
    · simp [readPairs] at h
  | succ n ih => exact ⟨ih.value_succ, ih.items_succ, ih.pairs_succ⟩

/-- However often a text repeats a key, each object read from it has the key once. -/
theorem isDistinct_of_read {t : Text} {v : Json} (h : read t = .ok v) : v.IsDistinct := by
  rw [read] at h
  split at h
  · cases h
  · rename_i w rest hv
    split at h
    · cases h
      exact (readsDistinct _).value hv
    · cases h

end Json

end VirtualShell
