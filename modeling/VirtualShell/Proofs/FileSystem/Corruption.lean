import VirtualShell.FileSystem.Corruption
import VirtualShell.Proofs.Tree.Edit
/-
  Damage keeps a tree consistent.

  The damage is to the contents, the names and the number of the nodes, not to the tree: names
  are made of letters and digits and drawn again until no sibling has them, and the paths are
  made to fit at the end. This holds for every source of random numbers.
-/

namespace VirtualShell.Corruption

variable {σ : Type}

/-- Two draws one after the other end with a result when both do. -/
theorem bind_eq_some {α β : Type} {first : Draw σ α} {next : α → Draw σ β} {s : σ} {r : β × σ} :
    (first >>= next) s = some r ↔ ∃ a s', first s = some (a, s') ∧ next a s' = some r := by
  show (first s >>= fun p => next p.1 p.2) = some r ↔ _
  rw [Option.bind_eq_bind, Option.bind_eq_some_iff]
  constructor
  · rintro ⟨⟨a, s'⟩, hf, hn⟩
    exact ⟨a, s', hf, hn⟩
  · rintro ⟨a, s', hf, hn⟩
    exact ⟨(a, s'), hf, hn⟩

theorem ite_bind_eq_some {α β : Type} {c : Prop} [Decidable c] {first second : Draw σ α}
    {next : α → Draw σ β} {s : σ} {r : β × σ} :
    (if c then first >>= next else second >>= next) s = some r ↔
      ∃ a s', (if c then first else second) s = some (a, s') ∧ next a s' = some r := by
  split <;> exact bind_eq_some

theorem pure_eq_some {α : Type} {a : α} {s : σ} {r : α × σ} :
    (pure a : Draw σ α) s = some r ↔ r = (a, s) := by
  show some (a, s) = some r ↔ _
  rw [Option.some.injEq, eq_comm]

/-! ## Random names -/

theorem mem_alphabet_getD (i : Nat) : alphabet.getD i (CodePoint.ofChar 'a') ∈ alphabet := by
  rw [List.getD_eq_getElem?_getD]
  cases h : alphabet[i]? with
  | none => decide
  | some c => exact List.mem_of_getElem? h

theorem mem_alphabet_of_mem_token {source : Source σ} {c : CodePoint} (n : Nat) :
    ∀ {s : σ}, c ∈ (token source n s).1 → c ∈ alphabet := by
  induction n with
  | zero => intro s h; simp [token] at h
  | succ n ih =>
    intro s h
    rcases List.mem_cons.mp h with rfl | h
    · exact mem_alphabet_getD _
    · exact ih h

/-- A random name of some length, whatever is put after it. -/
def IsToken (t : Text) : Prop := t ≠ [] ∧ ∀ c ∈ t, c ∈ alphabet

theorem isToken_of_shortToken {source : Source σ} {s s' : σ} {t : Text}
    (h : shortToken source s = some (t, s')) : IsToken t := by
  have ht : t = (token source 5 s).1 := by
    cases h
    rfl
  subst ht
  exact ⟨List.cons_ne_nil _ _, fun c hc => mem_alphabet_of_mem_token 5 hc⟩

/-- An ending without a slash makes no proper name of a random one improper, for a random
name does not start with a dot. -/
theorem IsToken.isProper_append {t ending : Text} (h : IsToken t)
    (he : CodePoint.ofChar '/' ∉ ending) : Name.IsProper (t ++ ending) := by
  obtain ⟨hne, ha⟩ := h
  cases t with
  | nil => exact absurd rfl hne
  | cons c rest =>
    have hdot : c ≠ CodePoint.ofChar '.' := by
      rintro rfl
      exact absurd (ha _ List.mem_cons_self) (by decide)
    refine ⟨by simp, ?_, ?_, ?_⟩
    · rw [List.mem_append, not_or]
      refine ⟨fun hs => ?_, he⟩
      exact absurd (ha _ hs) (by decide)
    · intro e
      exact hdot (List.cons.inj e).1
    · intro e
      exact hdot (List.cons.inj e).1

theorem slash_not_mem_ending (n : Node) : CodePoint.ofChar '/' ∉ ending n := by
  rw [ending]
  split <;> decide

/-- A free name is a proper one that no sibling has. -/
theorem freeName_spec {source : Source σ} {taken : List (Text × Node)} {ending : Text}
    (he : CodePoint.ofChar '/' ∉ ending) (attempts : Nat) :
    ∀ {name new : Text} {s s' : σ}, Name.IsProper name →
      freeName source taken ending attempts name s = some (new, s') →
      Name.IsProper new ∧ new ∉ Entries.keys taken := by
  induction attempts with
  | zero =>
    intro name new s s' hn h
    rw [freeName] at h
    split at h
    · cases h
    · rename_i hk
      cases h
      rw [Entries.has_iff] at hk
      exact ⟨hn, hk⟩
  | succ attempts ih =>
    intro name new s s' hn h
    rw [freeName] at h
    split at h
    · obtain ⟨t, s₁, ht, h⟩ := bind_eq_some.mp h
      exact ih ((isToken_of_shortToken ht).isProper_append he) h
    · rename_i hk
      cases h
      rw [Entries.has_iff] at hk
      exact ⟨hn, hk⟩

/-! ## Worthless content -/

theorem utf8Length?_isSome_of_ascii {t : Text} (h : ∀ c ∈ t, c.val < 0x80) :
    t.utf8Length?.isSome = true := by
  induction t with
  | nil => rfl
  | cons c rest ih =>
    have hc := h c List.mem_cons_self
    obtain ⟨n, hn⟩ := Option.isSome_iff_exists.mp (ih fun d hd => h d (List.mem_cons_of_mem _ hd))
    have hs : c.isSurrogate = false := by
      simp [CodePoint.isSurrogate]
      omega
    simp [Text.utf8Length?, CodePoint.utf8Width?, hs, hc, hn]

theorem isSome_contentSize? {t : Text} (h : ∀ c ∈ t, c.val < 0x80) :
    (contentSize? t).isSome = true := by
  rw [contentSize?]
  split
  · rfl
  · exact utf8Length?_isSome_of_ascii h

theorem ascii_of_mem_alphabet {c : CodePoint} (h : c ∈ alphabet) : c.val < 0x80 := by
  revert c
  decide

/-! ## Scrambled nodes -/

/-- A node that goes by a proper name, with everything below it in order. -/
def IsOrderly (n : Node) : Prop := Name.IsProper n.name ∧ n.IsNamed n.name

theorem isOrderly_of_isNamed {n : Node} {name : Text} (hp : Name.IsProper name)
    (hn : n.IsNamed name) : IsOrderly n := by
  rw [IsOrderly, hn.name_eq]
  exact ⟨hp, hn⟩

theorem isOrderly_file {source : Source σ} {attempts : Nat} {now : Float} {s s' : σ}
    {name path : Text} {mtime : Float} {content : Text} {size : Nat} {m : Node}
    (h : scramble source attempts now (.file name path mtime content size) s = some (m, s')) :
    IsOrderly m := by
  rw [scramble] at h
  obtain ⟨t, s₁, ht, h⟩ := bind_eq_some.mp h
  obtain ⟨junk, s₂, hj, h⟩ := bind_eq_some.mp h
  cases pure_eq_some.mp h
  refine ⟨(isToken_of_shortToken ht).isProper_append (by decide), rfl, ?_⟩
  have hs : (contentSize? ("CORRUPTED_DATA_" ++ junk)).isSome = true := by
    refine isSome_contentSize? fun c hc => ?_
    rcases List.mem_append.mp hc with hc | hc
    · have : ∀ c ∈ Text.ofString "CORRUPTED_DATA_", c.val < 0x80 := by decide
      exact this c hc
    · exact ascii_of_mem_alphabet ((isToken_of_shortToken hj).2 c hc)
  obtain ⟨size, hs⟩ := Option.isSome_iff_exists.mp hs
  rw [hs, Option.getD_some]

/-- A visit adds each child, scrambled or as it was, under a name that is free, so the
survivors keep what makes them children of a consistent directory. -/
theorem areNamed_visit {source : Source σ} {attempts : Nat} {now : Float}
    {children : List (Text × Node)}
    (hscramble : ∀ e ∈ children, ∀ {s s' : σ} {m : Node},
      scramble source attempts now e.2 s = some (m, s') → IsOrderly m) :
    ∀ {survivors out : List (Text × Node)} {s s' : σ}, Node.AreNamed survivors →
      (∀ e ∈ children, Name.IsProper e.1 ∧ e.2.IsNamed e.1) →
      visit source attempts now children survivors s = some (out, s') → Node.AreNamed out := by
  induction children with
  | nil =>
    intro survivors out s s' hs _ h
    rw [visit] at h
    cases pure_eq_some.mp h
    exact hs
  | cons e rest ih =>
    intro survivors out s s' hs hc h
    have ih := @ih fun e' he => hscramble e' (List.mem_cons_of_mem _ he)
    have hrest : ∀ e' ∈ rest, Name.IsProper e'.1 ∧ e'.2.IsNamed e'.1 :=
      fun e' he => hc e' (List.mem_cons_of_mem _ he)
    rw [visit] at h
    obtain ⟨b, s₁, -, h⟩ := bind_eq_some.mp h
    obtain ⟨node, s₂, hnode, h⟩ := ite_bind_eq_some.mp h
    -- what goes on is orderly, whether it was scrambled or not
    have horderly : IsOrderly node := by
      split at hnode
      · exact hscramble e List.mem_cons_self hnode
      · cases pure_eq_some.mp hnode
        obtain ⟨hp, hn⟩ := hc e List.mem_cons_self
        exact isOrderly_of_isNamed hp hn
    obtain ⟨dropped, s₃, -, h⟩ := bind_eq_some.mp h
    split at h
    · exact ih hs hrest h
    · obtain ⟨name, s₄, hname, h⟩ := bind_eq_some.mp h
      obtain ⟨hproper, hfree⟩ := freeName_spec (slash_not_mem_ending node) attempts
        horderly.1 hname
      -- a free name goes to the end of the survivors
      have hput := hs.put hproper (horderly.2.withName name)
      rw [Entries.put_of_not_mem _ hfree] at hput
      exact ih hput hrest h

theorem isOrderly_of_scramble {source : Source σ} {attempts : Nat} {now : Float} {n : Node} :
    ∀ {name : Text} {s s' : σ} {m : Node}, n.IsNamed name →
      scramble source attempts now n s = some (m, s') → IsOrderly m := by
  induction n using Node.induction with
  | file => intro name s s' m _ h; exact isOrderly_file h
  | directory nm path mtime children ih =>
    intro name s s' m hn h
    rw [Node.isNamed_directory] at hn
    rw [scramble] at h
    obtain ⟨t, s₁, ht, h⟩ := bind_eq_some.mp h
    obtain ⟨out, s₂, hout, h⟩ := bind_eq_some.mp h
    cases pure_eq_some.mp h
    have hproper := (isToken_of_shortToken ht).isProper_append (List.not_mem_nil)
    rw [List.append_nil] at hproper
    have hnamed := areNamed_visit (fun e he => ih e he (hn.2.2 e he).2) Node.areNamed_nil hn.2.2 hout
    exact ⟨hproper, Node.isNamed_directory.mpr ⟨rfl, hnamed⟩⟩

/-- Damage that comes to an end leaves a consistent tree consistent. -/
theorem isConsistent_damage {source : Source σ} {attempts : Nat} {now : Float} {s s' : σ}
    {root new : Node} (h : root.IsConsistent)
    (hd : damage source attempts now root s = some (new, s')) : new.IsConsistent := by
  rw [Node.isConsistent_iff] at h
  cases root with
  | file => exact absurd h.1 (by simp [Node.isDirectory])
  | directory name path mtime children =>
    rw [damage] at hd
    obtain ⟨out, s₁, hout, hd⟩ := bind_eq_some.mp hd
    cases pure_eq_some.mp hd
    obtain ⟨-, hn, -⟩ := h
    rw [Node.isNamed_directory] at hn
    have hnamed := areNamed_visit (fun e he => isOrderly_of_scramble (hn.2.2 e he).2)
      Node.areNamed_nil hn.2.2 hout
    have hnew : (Node.directory name path mtime out).IsNamed [] :=
      Node.isNamed_directory.mpr ⟨hn.1, hnamed⟩
    rw [Node.isConsistent_iff]
    exact ⟨rfl, hnew.relabel none _, hnew.isPlaced_relabel none Path.root⟩

end VirtualShell.Corruption
