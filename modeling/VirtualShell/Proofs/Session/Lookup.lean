import VirtualShell.Proofs.Session.Reachable
import VirtualShell.Proofs.Tree.Lookup
/-
  What a session finds is what is there.

  Every reachable tree is consistent, and in a consistent tree looking up agrees with walking.
  `lookup_eq_walked` says so for all ways of looking something up in a volume: a path leads to the
  one walked node that has its normal form for a path, and nowhere if there is none.
-/

namespace VirtualShell

namespace Volume

variable {v : Volume}

theorem has_iff (h : v.root.IsConsistent) {path : Text} :
    v.has path = true ↔ ∃ n ∈ v.root.walk, n.path = Path.normalize path := by
  rw [has, Option.isSome_iff_exists]
  exact exists_congr fun n => h.lookup_eq_some_iff

theorem directory?_eq_some_iff (h : v.root.IsConsistent) {path : Text} {n : Node} :
    v.directory? path = some n ↔
      n ∈ v.root.walk ∧ n.path = Path.normalize path ∧ n.isDirectory = true := by
  rw [directory?, Node.directoryAt, Option.filter_eq_some_iff, h.lookup_eq_some_iff, and_assoc]

theorem content?_eq_some_iff (h : v.root.IsConsistent) {path content : Text} :
    v.content? path = some content ↔
      ∃ n ∈ v.root.walk, n.path = Path.normalize path ∧ n.content? = some content := by
  rw [content?, Option.bind_eq_some_iff]
  refine exists_congr fun n => ?_
  rw [node?, h.lookup_eq_some_iff, and_assoc]

/-- Two paths lead to the same node if they are spellings of one path that leads somewhere, and
otherwise not. -/
theorem same_node_iff (h : v.root.IsConsistent) {path other : Text} :
    (∃ n, v.node? path = some n ∧ v.node? other = some n) ↔
      Path.normalize path = Path.normalize other ∧ v.has path = true := by
  constructor
  · rintro ⟨n, hn, hn'⟩
    have hpath := (h.lookup_eq_some_iff.mp hn).2
    have hother := (h.lookup_eq_some_iff.mp hn').2
    exact ⟨hpath.symm.trans hother, by rw [has, hn]; rfl⟩
  · rintro ⟨heq, hhas⟩
    obtain ⟨n, hn⟩ := Option.isSome_iff_exists.mp hhas
    refine ⟨n, hn, ?_⟩
    rw [node?, Node.lookup, ← heq]
    exact hn

end Volume

namespace Session

variable {ω : Type}

/-- In every reachable tree the walked nodes have distinct paths, all of them normal, and each path
leads to its node. Whatever is asked for, in whatever spelling, the answer is about the walked node
whose path is the normal form of what was asked for, and there is none if no walked node has it. -/
theorem lookup_eq_walked {s : Session ω} (h : Reachable s) :
    let v := s.volume
    (v.root.walk.map Node.path).Nodup ∧
    (∀ n ∈ v.root.walk, Path.normalize n.path = n.path ∧ v.node? n.path = some n) ∧
    (∀ path n, v.node? path = some n ↔ n ∈ v.root.walk ∧ n.path = Path.normalize path) ∧
    (∀ path, v.node? path = none ↔ ∀ n ∈ v.root.walk, n.path ≠ Path.normalize path) ∧
    (∀ path other, (∃ n, v.node? path = some n ∧ v.node? other = some n) ↔
      Path.normalize path = Path.normalize other ∧ v.has path = true) ∧
    (∀ path, v.has path = true ↔ ∃ n ∈ v.root.walk, n.path = Path.normalize path) ∧
    (∀ path n, v.directory? path = some n ↔
      n ∈ v.root.walk ∧ n.path = Path.normalize path ∧ n.isDirectory = true) ∧
    ∀ path content, v.content? path = some content ↔
      ∃ n ∈ v.root.walk, n.path = Path.normalize path ∧ n.content? = some content := by
  intro v
  obtain ⟨first, hopened, hsteps⟩ := h
  have hc : v.root.IsConsistent :=
    Volume.Run.isConsistent hsteps.leads (isConsistent_of_isOpened hopened)
  refine ⟨hc.nodup_path_walk, fun n hn => ?_, fun path n => hc.lookup_eq_some_iff,
    fun path => hc.lookup_eq_none_iff, fun path other => Volume.same_node_iff hc,
    fun path => Volume.has_iff hc, fun path n => Volume.directory?_eq_some_iff hc,
    fun path content => Volume.content?_eq_some_iff hc⟩
  obtain ⟨hnormal, hl⟩ := hc.lookup_path hn
  exact ⟨hnormal.normalize_eq, hl⟩

/-- A new file is found under a roundabout spelling of its path, and nothing is found below it. -/
theorem lookup_eq_walked_after_creation :
    let first := start ⟨Node.defaultTree 0, false, none, Store.empty, Volume.defaultKey⟩ {}
      History.usualLimit 0 ()
    let s := (change (.createFile "/Downloads" "a" "A") first).2
    Reachable s ∧ (s.volume.root.walk.map Node.path).Nodup ∧
      (∃ n, s.volume.node? "/Downloads/a" = some n ∧
        s.volume.node? "Desktop/..//Downloads/./a" = some n) ∧
      (∃ n ∈ s.volume.root.walk, n.path = "/Downloads/a" ∧ n.content? = some "A") ∧
      ∀ n ∈ s.volume.root.walk, n.path ≠ "/Downloads/a/b" := by
  intro first s
  have hload : Volume.load 0 Store.empty Volume.defaultKey = .ok first.volume := rfl
  have h : Reachable s := ⟨first, .load hload, Relation.ReflTransGen.single (.change _ _)⟩
  obtain ⟨hdistinct, -, -, hnone, hsame, -, -, hcontent⟩ := lookup_eq_walked h
  have hnormal : Path.normalize "/Downloads/a" = "/Downloads/a" := by decide +kernel
  have hbelow : Path.normalize "/Downloads/a/b" = "/Downloads/a/b" := by decide +kernel
  refine ⟨h, hdistinct, (hsame _ _).mpr ⟨by decide +kernel, by decide +kernel⟩, ?_, ?_⟩
  · have := (hcontent "/Downloads/a" "A").mp (by decide +kernel)
    rwa [hnormal] at this
  · have := (hnone "/Downloads/a/b").mp rfl
    rwa [hbelow] at this

end Session

end VirtualShell
