import VirtualShell.Proofs.FileSystem.Corruption
import VirtualShell.Proofs.FileSystem.Volume
/-
  What damage does to a tree, and what it cannot do.

  `Thinned` is the law of a visited directory: its children after the visit are some of those
  before, in their order, and none that is spared is missing. `Survives` says what became of one
  that is still there: it was left as it was with all below it, or it was scrambled, which is
  worthless content for a file and a visit for a directory. The names say which of the two it was:
  one that was left alone is called what it was called, unless a sibling before it has that name by
  now.

  The laws hold of the result for every source of random numbers, so no draw lets two children
  share a name, or one take the place of another.
-/

namespace VirtualShell

namespace Corruption

variable {σ : Type}

/-- Five letters and digits. -/
def IsShortToken (t : Text) : Prop := t.length = 5 ∧ ∀ c ∈ t, c ∈ alphabet

/-- A name drawn at random that is not among those taken. -/
structure IsFreshName (taken : List Text) (ending name : Text) : Prop where
  free : name ∉ taken
  random : ∃ t, IsShortToken t ∧ name = t ++ ending

/-- The name of a node that was not scrambled: the old one, and one drawn only if that is taken. -/
def IsKeptName (taken : List Text) (old ending name : Text) : Prop :=
  (name = old ∧ name ∉ taken) ∨ (old ∈ taken ∧ IsFreshName taken ending name)

mutual

/-- The node `new` is what became of `old` in a visit, where the siblings before it took the names
`taken`. -/
inductive Survives (now : Float) : List Text → Node → Node → Prop
  | keptFile {taken : List Text} {old path : Text} {mtime : Float} {content : Text} {size : Nat}
      {name newPath : Text} :
    IsKeptName taken old ".dat" name →
    Survives now taken (.file old path mtime content size) (.file name newPath mtime content size)
  | keptDirectory {taken : List Text} {old path : Text} {mtime : Float}
      {children : List (Text × Node)} {name newPath : Text} :
    IsKeptName taken old [] name →
    Survives now taken (.directory old path mtime children)
      (.directory name newPath mtime (Node.relabelAll newPath none children))
  | spoiledFile {taken : List Text} {old path : Text} {mtime : Float} {content : Text} {size : Nat}
      {name newPath junk : Text} {newSize : Nat} :
    IsFreshName taken ".dat" name → IsShortToken junk →
    Survives now taken (.file old path mtime content size)
      (.file name newPath now ("CORRUPTED_DATA_" ++ junk) newSize)
  | visitedDirectory {taken : List Text} {old path : Text} {mtime : Float}
      {children out : List (Text × Node)} {name newPath : Text} :
    IsFreshName taken [] name → Thinned now [] children out →
    Survives now taken (.directory old path mtime children) (.directory name newPath mtime out)

/-- The entries `out` are what a visit left of `children`, where the siblings before them took the
names `taken`. -/
inductive Thinned (now : Float) : List Text → List (Text × Node) → List (Text × Node) → Prop
  | nil {taken : List Text} : Thinned now taken [] []
  | dropped {taken : List Text} {key : Text} {child : Node} {rest out : List (Text × Node)} :
    isSpared key = false → Thinned now taken rest out → Thinned now taken ((key, child) :: rest) out
  | kept {taken : List Text} {key : Text} {child new : Node} {rest out : List (Text × Node)} :
    Survives now taken child new → Thinned now (taken ++ [new.name]) rest out →
    Thinned now taken ((key, child) :: rest) ((new.name, new) :: out)

end

/-! ## What the laws say -/

variable {now : Float} {taken : List Text} {old new : Node} {children out : List (Text × Node)}

/-- What a node that is still there has in common with what it was. -/
structure IsRemnant (now : Float) (old new : Node) : Prop where
  isDirectory : new.isDirectory = old.isDirectory
  mtime : old.isDirectory = true → new.mtime = old.mtime
  content : old.isDirectory = false →
    (new.content? = old.content? ∧ new.mtime = old.mtime) ∨
      ∃ junk, IsShortToken junk ∧ new.content? = some ("CORRUPTED_DATA_" ++ junk) ∧ new.mtime = now
  children : new.children = Node.relabelAll new.path none old.children ∨
    Thinned now [] old.children new.children

theorem Survives.isRemnant (h : Survives now taken old new) : IsRemnant now old new := by
  cases h with
  | keptFile => exact ⟨rfl, fun _ => rfl, fun _ => .inl ⟨rfl, rfl⟩, .inl rfl⟩
  | keptDirectory => exact ⟨rfl, fun _ => rfl, nofun, .inl rfl⟩
  | spoiledFile _ hjunk =>
    exact ⟨rfl, nofun, fun _ => .inr ⟨_, hjunk, rfl, rfl⟩, .inl rfl⟩
  | visitedDirectory _ hout => exact ⟨rfl, fun _ => rfl, nofun, .inr hout⟩

/-- What a visit leaves goes one by one with some of the children, none of the spared missing. -/
theorem Thinned.exists_sublist (h : Thinned now taken children out) :
    ∃ kept, kept.Sublist children ∧ (∀ e ∈ children, isSpared e.1 = true → e ∈ kept) ∧
      List.Forall₂ (fun before after => after.1 = after.2.name ∧ IsRemnant now before.2 after.2)
        kept out := by
  induction children generalizing taken out with
  | nil =>
    cases h
    exact ⟨[], .slnil, by simp, .nil⟩
  | cons e rest ih =>
    cases h with
    | dropped hkey hrest =>
      obtain ⟨kept, hsub, hspared, hpaired⟩ := ih hrest
      refine ⟨kept, hsub.cons _, fun e' he' hs => ?_, hpaired⟩
      rcases List.mem_cons.mp he' with rfl | he'
      · rw [hkey] at hs
        cases hs
      · exact hspared e' he' hs
    | kept hnew hrest =>
      obtain ⟨kept, hsub, hspared, hpaired⟩ := ih hrest
      refine ⟨_ :: kept, hsub.cons_cons _, fun e' he' hs => ?_, .cons ⟨rfl, hnew.isRemnant⟩ hpaired⟩
      rcases List.mem_cons.mp he' with rfl | he'
      · exact List.mem_cons_self
      · exact List.mem_cons_of_mem _ (hspared e' he' hs)

/-! ## The draws -/

theorem length_token (source : Source σ) (n : Nat) (s : σ) : (token source n s).1.length = n := by
  induction n generalizing s with
  | zero => rfl
  | succ n ih => exact congrArg Nat.succ (ih _)

theorem isShortToken_of_shortToken {source : Source σ} {s s' : σ} {t : Text}
    (h : shortToken source s = some (t, s')) : IsShortToken t := by
  refine ⟨?_, (isToken_of_shortToken h).2⟩
  cases h
  exact length_token source 5 s

/-- The search for a free name ends with the first one, or with one drawn because that is taken. -/
theorem isKeptName_of_freeName {source : Source σ} {siblings : List (Text × Node)} {ending : Text}
    (attempts : Nat) : ∀ {first name : Text} {s s' : σ},
      freeName source siblings ending attempts first s = some (name, s') →
      IsKeptName (Entries.keys siblings) first ending name := by
  induction attempts with
  | zero =>
    intro first name s s' h
    rw [freeName] at h
    split at h
    · cases h
    · rename_i hfree
      cases h
      rw [Entries.has_iff] at hfree
      exact .inl ⟨rfl, hfree⟩
  | succ attempts ih =>
    intro first name s s' h
    rw [freeName] at h
    split at h
    · rename_i htaken
      rw [Entries.has_iff] at htaken
      obtain ⟨t, s₁, ht, h⟩ := bind_eq_some.mp h
      -- whether the next one drawn was free or not, the name is a random one
      rcases ih h with ⟨rfl, hfree⟩ | ⟨-, hfresh⟩
      · exact .inr ⟨htaken, hfree, t, isShortToken_of_shortToken ht, rfl⟩
      · exact .inr ⟨htaken, hfresh⟩
    · rename_i hfree
      cases h
      rw [Entries.has_iff] at hfree
      exact .inl ⟨rfl, hfree⟩

/-- Of a random name the search makes a random name. -/
theorem IsKeptName.isFreshName {ending t name : Text} (ht : IsShortToken t)
    (h : IsKeptName taken (t ++ ending) ending name) : IsFreshName taken ending name := by
  rcases h with ⟨rfl, hfree⟩ | ⟨-, hfresh⟩
  · exact ⟨hfree, t, ht, rfl⟩
  · exact hfresh

/-! ## The visit -/

/-- What a visit makes of one child: `node` is the child, scrambled or not, and `name` the name that
it gets in the end. -/
def IsLeftOf (now : Float) (child node : Node) : Prop :=
  ∀ {siblings : List (Text × Node)} {name : Text} (path : Text),
    IsKeptName (Entries.keys siblings) node.name (ending node) name →
    Survives now (Entries.keys siblings) child ((node.withName name).relabel path none)

theorem isLeftOf_self (now : Float) (child : Node) : IsLeftOf now child child := by
  intro siblings name path hname
  cases child with
  | file => exact .keptFile hname
  | directory => exact .keptDirectory hname

theorem name_withName_relabel (node : Node) (name path : Text) :
    ((node.withName name).relabel path none).name = name := by
  cases node <;> rfl

/-- The survivors of a visit are those that there were, and what is left of the children. -/
theorem thinned_visit {source : Source σ} {attempts : Nat} {now : Float}
    {children : List (Text × Node)}
    (hscramble : ∀ e ∈ children, ∀ {s s' : σ} {m : Node},
      scramble source attempts now e.2 s = some (m, s') → IsLeftOf now e.2 m) :
    ∀ {survivors out : List (Text × Node)} {s s' : σ},
      visit source attempts now children survivors s = some (out, s') →
      ∃ more, out = survivors ++ more ∧
        ∀ path, Thinned now (Entries.keys survivors) children (Node.relabelAll path none more) := by
  induction children with
  | nil =>
    intro survivors out s s' h
    rw [visit] at h
    cases pure_eq_some.mp h
    exact ⟨[], (List.append_nil _).symm, fun path => .nil⟩
  | cons e rest ih =>
    intro survivors out s s' h
    have ih := @ih fun e' he => hscramble e' (List.mem_cons_of_mem _ he)
    rw [visit] at h
    obtain ⟨b, s₁, -, h⟩ := bind_eq_some.mp h
    obtain ⟨node, s₂, hnode, h⟩ := ite_bind_eq_some.mp h
    have hleft : IsLeftOf now e.2 node := by
      split at hnode
      · exact hscramble e List.mem_cons_self hnode
      · cases pure_eq_some.mp hnode
        exact isLeftOf_self now e.2
    obtain ⟨dropped, s₃, -, h⟩ := bind_eq_some.mp h
    split at h
    · rename_i hdropped
      obtain ⟨more, rfl, hmore⟩ := ih h
      simp only [Bool.and_eq_true, Bool.not_eq_eq_eq_not, Bool.not_true] at hdropped
      exact ⟨more, rfl, fun path => .dropped hdropped.2 (hmore path)⟩
    · obtain ⟨name, s₄, hname, h⟩ := bind_eq_some.mp h
      obtain ⟨more, rfl, hmore⟩ := ih h
      refine ⟨(name, node.withName name) :: more, by rw [List.append_assoc]; rfl, fun path => ?_⟩
      have hnew := hleft path (isKeptName_of_freeName attempts hname)
      have hrest := hmore path
      rw [Entries.keys, List.map_append, ← name_withName_relabel node name path] at hrest
      have hkept : Thinned now (Entries.keys survivors) (e :: rest) ((_, _) ::
        Node.relabelAll path none more) := .kept hnew hrest
      rw [name_withName_relabel] at hkept
      exact hkept

theorem isLeftOf_scramble {source : Source σ} {attempts : Nat} {now : Float} {n : Node} :
    ∀ {s s' : σ} {m : Node}, scramble source attempts now n s = some (m, s') →
      IsLeftOf now n m := by
  induction n using Node.induction with
  | file =>
    intro s s' m h siblings name path hname
    rw [scramble] at h
    obtain ⟨t, s₁, ht, h⟩ := bind_eq_some.mp h
    obtain ⟨junk, s₂, hj, h⟩ := bind_eq_some.mp h
    cases pure_eq_some.mp h
    exact .spoiledFile (hname.isFreshName (isShortToken_of_shortToken ht))
      (isShortToken_of_shortToken hj)
  | directory nm p mtime children ih =>
    intro s s' m h siblings name path hname
    rw [scramble] at h
    obtain ⟨t, s₁, ht, h⟩ := bind_eq_some.mp h
    obtain ⟨out, s₂, hout, h⟩ := bind_eq_some.mp h
    cases pure_eq_some.mp h
    obtain ⟨more, rfl, hmore⟩ := thinned_visit ih hout
    have hname : IsKeptName (Entries.keys siblings) (t ++ []) [] name := by
      rw [List.append_nil]
      exact hname
    exact .visitedDirectory (hname.isFreshName (isShortToken_of_shortToken ht)) (hmore _)

/-- Damage that comes to an end visits the root and leaves its own labels alone. -/
theorem thinned_damage {source : Source σ} {attempts : Nat} {now : Float} {s s' : σ}
    {root new : Node} (h : root.IsConsistent)
    (hd : damage source attempts now root s = some (new, s')) :
    new.mtime = root.mtime ∧ Thinned now [] root.children new.children := by
  cases root with
  | file => exact absurd h.isDirectory (by simp [Node.isDirectory])
  | directory name path mtime children =>
    rw [damage] at hd
    obtain ⟨out, s₁, hout, hd⟩ := bind_eq_some.mp hd
    cases pure_eq_some.mp hd
    obtain ⟨more, rfl, hmore⟩ := thinned_visit (fun e _ => isLeftOf_scramble) hout
    exact ⟨rfl, hmore _⟩

end Corruption

namespace Volume

open Corruption (Thinned IsRemnant isSpared)

theorem corruptWithin_of_damage {σ : Type} {attempts : Nat} {source : Source σ} {now : Float}
    {v : Volume} {draws later : σ} {root : Node}
    (h : Corruption.damage source attempts now v.root draws = some (root, later)) :
    corruptWithin attempts source now (v, draws) =
      ((v.replacing root true).outcome, (v.replacing root true).saved, later) := by
  rw [corruptWithin_eq, h]
  rfl

/-- Damage to a consistent tree that comes to an end leaves a consistent one. The root keeps its
time and is visited: its children afterwards go one by one with some of those before, in their
order, among them all that are spared, and so on below each directory that was scrambled. The mark
is put up, and what is stored is the damaged tree, if the one write of it succeeds. -/
theorem thinned_of_corrupt {σ : Type} {v : Volume} (h : v.root.IsConsistent) (attempts : Nat)
    (source : Source σ) (now : Float) (draws : σ)
    (hend : (corruptWithin attempts source now (v, draws)).1 ≠ .error .unfinished) :
    let r := corruptWithin attempts source now (v, draws)
    let after := r.2.1
    after.root.IsConsistent ∧ after.root.mtime = v.root.mtime ∧
      Thinned now [] v.root.children after.root.children ∧
      (∃ kept, kept.Sublist v.root.children ∧
        (∀ e ∈ v.root.children, isSpared e.1 = true → e ∈ kept) ∧
        List.Forall₂ (fun before after => after.1 = after.2.name ∧ IsRemnant now before.2 after.2)
          kept after.root.children) ∧
      (after.corrupted = true ∧ after.lastError = none ∧ after.key = v.key) ∧
      r.1 = (v.store.write v.key after.toJson).1.mapError .store ∧
      after.store = (v.store.write v.key after.toJson).2 := by
  intro r after
  cases hdamage : Corruption.damage source attempts now v.root draws with
  | none =>
    rw [corruptWithin_eq, hdamage] at hend
    exact absurd rfl hend
  | some result =>
    obtain ⟨root, later⟩ := result
    have hr := corruptWithin_of_damage hdamage
    have hafter : after = (v.replacing root true).saved := congrArg (fun r => r.2.1) hr
    obtain ⟨hmtime, hthinned⟩ := Corruption.thinned_damage h hdamage
    rw [hafter, show r.1 = _ from congrArg Prod.fst hr]
    exact ⟨Corruption.isConsistent_damage h hdamage, hmtime, hthinned, hthinned.exists_sublist,
      ⟨rfl, rfl, rfl⟩, rfl, rfl⟩

/-- Two directories are given one name at first, and so are the two files in the second; the later
one gets another each time. The system directory is drawn to be dropped, and stays. -/
theorem thinned_of_corrupt_with_collisions :
    let v : Volume := ⟨Node.defaultTree 0, false, none, Store.empty, defaultKey⟩
    let picks := fun n (i : Int) => List.replicate n i
    let script : Script := ⟨0, List.replicate 8 0.3 ++ [0.9, 0.9, 0.9, 0.1], none,
      picks 15 0 ++ picks 5 1 ++ picks 5 0 ++ picks 5 1 ++ picks 5 2 ++ picks 5 3, []⟩
    let r := corruptWithin 1 Script.source 7 (v, script)
    let after := r.2.1
    r.1 ≠ .error .unfinished ∧ Thinned 7 [] v.root.children after.root.children ∧
      Entries.keys after.root.children =
        [Text.ofString "aaaaa", "ddddd", "Downloads", "System"] ∧
      (after.node? "/ddddd").map (fun d => Entries.keys d.children) =
        some [Text.ofString "aaaaa.dat", "ccccc.dat"] ∧
      after.content? "/ddddd/ccccc.dat" = some (Text.ofString "CORRUPTED_DATA_bbbbb") := by
  intro v picks script r after
  -- the damage itself is computed, the write of the snapshot is not
  have hdamage : (Corruption.damage Script.source 1 7 v.root script).map (fun d =>
      (Entries.keys d.1.children,
        (d.1.lookup "/ddddd").map (fun d => Entries.keys d.children),
        (d.1.lookup "/ddddd/ccccc.dat").bind Node.content?)) =
      some ([Text.ofString "aaaaa", "ddddd", "Downloads", "System"],
        some [Text.ofString "aaaaa.dat", "ccccc.dat"],
        some (Text.ofString "CORRUPTED_DATA_bbbbb")) := by decide +kernel
  obtain ⟨⟨root, later⟩, hd, hfound⟩ := Option.map_eq_some_iff.mp hdamage
  have hr : r = _ := corruptWithin_of_damage hd
  have hresult : r.1 = (v.replacing root true).outcome := congrArg Prod.fst hr
  have hend : r.1 ≠ .error .unfinished := by
    rw [hresult]
    rcases (v.replacing root true).outcome_cases with ho | ⟨f, ho⟩ <;> rw [ho] <;> nofun
  have hafter : after.root = root := congrArg (fun r => r.2.1.root) hr
  have hc : v.root.IsConsistent := Node.isConsistent_defaultTree 0
  have hlaws := thinned_of_corrupt hc 1 Script.source 7 script hend
  rw [corruptWithin_of_damage hd] at hlaws
  obtain ⟨-, -, hthinned, -⟩ := hlaws
  rw [Prod.mk.injEq, Prod.mk.injEq] at hfound
  obtain ⟨hkeys, hdirectory, hfile⟩ := hfound
  refine ⟨hend, ?_, ?_, ?_, ?_⟩
  · rw [hafter]
    exact hthinned
  · rw [hafter]
    exact hkeys
  · rw [node?, hafter]
    exact hdirectory
  · rw [content?, node?, hafter]
    exact hfile

end Volume

end VirtualShell
