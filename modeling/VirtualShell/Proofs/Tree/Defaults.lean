import VirtualShell.Tree.Defaults
import VirtualShell.Proofs.Tree.Consistent
/-
  The starting tree is consistent.

  It is a literal, so its names, paths and contents are looked at one by one; its times do
  not matter.
-/

namespace VirtualShell.Node

theorem isNamed_startingFile (parent : Text) {name content : Text} (mtime : Float)
    (h : (contentSize? content).isSome = true) :
    (startingFile parent name mtime content).2.IsNamed name := by
  obtain ⟨size, hs⟩ := Option.isSome_iff_exists.mp h
  refine ⟨rfl, ?_⟩
  rw [hs, Option.getD_some]

theorem isNamed_defaultTree (now : Float) : (defaultTree now).IsNamed [] := by
  have proper : ∀ {name : Text}, Name.isValid name = true → Name.IsProper name :=
    fun h => Name.isValid_iff.mp h
  refine ⟨rfl, ?_, ⟨proper (by decide), rfl, List.nodup_nil, trivial⟩,
    ⟨proper (by decide), rfl, ?_, ⟨proper (by decide), ?_⟩, ⟨proper (by decide), ?_⟩, trivial⟩,
    ⟨proper (by decide), rfl, List.nodup_nil, trivial⟩,
    ⟨proper (by decide), rfl, ?_, ⟨proper (by decide), ?_⟩, ⟨proper (by decide), ?_⟩, trivial⟩,
    trivial⟩
  · show List.Nodup [Text.ofString "Desktop", "Documents", "Downloads", "System"]
    decide
  · show List.Nodup [Text.ofString "welcome.txt", "photo.png"]
    decide
  · exact isNamed_startingFile _ _ (by decide)
  · exact isNamed_startingFile _ _ (by decide)
  · show List.Nodup [Text.ofString "kernel.bin", "config.sys"]
    decide
  · exact isNamed_startingFile _ _ (by decide)
  · exact isNamed_startingFile _ _ (by decide)

theorem isPlaced_defaultTree (now : Float) : (defaultTree now).IsPlaced Path.root :=
  ⟨rfl, ⟨rfl, trivial⟩, ⟨rfl, rfl, rfl, trivial⟩, ⟨rfl, trivial⟩, ⟨rfl, rfl, rfl, trivial⟩,
    trivial⟩

theorem isConsistent_defaultTree (now : Float) : (defaultTree now).IsConsistent :=
  isConsistent_iff.mpr ⟨rfl, isNamed_defaultTree now, isPlaced_defaultTree now⟩

end VirtualShell.Node
