import VirtualShell.Proofs.FileSystem.Guard
import VirtualShell.Proofs.Session.Restored
/-
  What is put at a protected path.

  In a reachable state nothing is, as long as the protected directory is there. A tree that was
  stored without it can be opened, and then one change can put another node in its place: a
  rename, a move or a copy, of which the guard does not ask for the path that comes out.
-/

namespace VirtualShell

namespace Volume

variable {v : Volume} {now : Float} {m : Mutation}

/-- A call for a change makes it or leaves the tree as it was. -/
theorem effect_or_root_eq (now : Float) (m : Mutation) (v : Volume) :
    Mutation.Effect now v.root m (apply now m v).2.root ∨ (apply now m v).2.root = v.root := by
  rw [root_apply]
  cases hm : m.verdict now v.root with
  | accepted root => exact .inl (Mutation.effect_of_accepted hm)
  | refused | guarded | unencodable => exact .inr rfl

/-- A change that is answered with yes has been made. -/
theorem effect_of_apply (h : (apply now m v).1 = .ok true) :
    Mutation.Effect now v.root m (apply now m v).2.root := by
  have happly : apply now m v = settle (m.verdict now v.root) v := rfl
  rw [root_apply]
  rw [happly] at h
  cases hm : m.verdict now v.root with
  | accepted root => exact Mutation.effect_of_accepted hm
  | refused reason =>
    rw [hm, settle_refused] at h
    cases h
  | guarded =>
    rw [hm, settle_guarded] at h
    cases ho : v.marked.outcome <;> rw [ho] at h <;> cases h
  | unencodable content =>
    rw [hm, settle_unencodable] at h
    cases h

end Volume

namespace Session

variable {ω : Type}

/-- A change that is answered with yes puts its node where nothing was, and there the node is found,
with the place as its path. The place is protected only if it is that of the protected directory
itself and the change is no creation; and whatever is answered, no protected path comes into being
in any other way. -/
theorem protected_only_where_missing {s : Session ω} (h : Reachable s) (m : Mutation) :
    let before := s.volume
    let after := (change m s).2.volume
    ((change m s).1 = .ok true → ∀ parent name, m.place? before.root = some (parent, name) →
      before.node? (Path.join parent name) = none ∧
      (∃ n, after.node? (Path.join parent name) = some n ∧ n.path = Path.join parent name) ∧
      (isProtected (Path.join parent name) = true →
        Path.join parent name = protectedDirectory ∧ m.isCreation = false)) ∧
    ∀ path, isProtected (Path.normalize path) = true →
      before.has path = false → after.has path = true →
      m.place? before.root = some (Path.root, protectedKey) ∧ m.isCreation = false ∧
        before.node? protectedDirectory = none := by
  intro before after
  obtain ⟨first, hopened, hsteps⟩ := h
  have hc : before.root.IsConsistent :=
    Volume.Run.isConsistent hsteps.leads (isConsistent_of_isOpened hopened)
  constructor
  · intro hmade parent name hplace
    exact (Volume.effect_of_apply hmade).at_place hc hplace
  · intro path hg hbefore hafter
    rw [Volume.has, Option.isSome_eq_false_iff, Option.isNone_iff_eq_none] at hbefore
    rw [Volume.has, Option.isSome_iff_ne_none] at hafter
    rcases Volume.effect_or_root_eq s.now m before with heffect | hsame
    · exact heffect.place?_eq_of_protected hc hg hbefore hafter
    · have hroot : after.root = before.root := hsame
      rw [Volume.node?, hroot] at hafter
      exact absurd hbefore hafter

/-- A file is moved in the starting tree, and the path it gets is not protected. -/
theorem protected_only_where_missing_after_move :
    let s := start ⟨Node.defaultTree 0, false, none, Store.empty, Volume.defaultKey⟩ {}
      History.usualLimit 0 ()
    let m : Mutation := .move "Documents//welcome.txt" "/Desktop/."
    Reachable s ∧ (change m s).1 = .ok true ∧
      m.place? s.volume.root = some (Text.ofString "/Desktop", Text.ofString "welcome.txt") ∧
      s.volume.node? "/Desktop/welcome.txt" = none ∧
      ∃ n, (change m s).2.volume.node? "/Desktop/welcome.txt" = some n ∧
        n.path = "/Desktop/welcome.txt" := by
  intro s m
  have hload : Volume.load 0 Store.empty Volume.defaultKey = .ok s.volume := rfl
  have h : Reachable s := ⟨s, .load hload, Relation.ReflTransGen.refl⟩
  have hmade : (change m s).1 = .ok true := rfl
  have hplace :
      m.place? s.volume.root = some (Text.ofString "/Desktop", Text.ofString "welcome.txt") := by
    decide +kernel
  obtain ⟨hnone, hfound, -⟩ := (protected_only_where_missing h m).1 hmade _ _ hplace
  exact ⟨h, hmade, hplace, hnone, hfound⟩

/-- A directory of a tree that was stored without the protected directory can be renamed to it. -/
theorem renamed_to_protectedDirectory :
    let root : Node := .directory [] "/" 0 [("a", .directory "a" "/a" 0 [])]
    let s := start ⟨root, false, none, Store.empty, Volume.defaultKey⟩ {} History.usualLimit 0 ()
    let m : Mutation := .rename "/a" "System"
    Reachable s ∧ (change m s).1 = .ok true ∧ isProtected "/System" = true ∧
      s.volume.has "/System" = false ∧ (change m s).2.volume.has "/System" = true := by
  intro root s m
  have hnamed : root.IsNamed [] :=
    ⟨rfl, by decide, ⟨Name.isValid_iff.mp (by decide), rfl, List.nodup_nil, trivial⟩, trivial⟩
  have hc : root.IsConsistent := Node.isConsistent_iff.mpr ⟨rfl, hnamed, rfl, ⟨rfl, trivial⟩, trivial⟩
  have hl : root.IsLegible := ⟨by decide +kernel, by decide +kernel, by decide +kernel⟩
  have hread := Volume.ofText_toJson (v := s.volume) hc hl 0 Store.empty Volume.defaultKey
  have hopened : s.volume.IsOpened := .ofText hread
  exact ⟨⟨s, hopened, Relation.ReflTransGen.refl⟩, rfl, by decide, by decide +kernel,
    by decide +kernel⟩

end Session

end VirtualShell
