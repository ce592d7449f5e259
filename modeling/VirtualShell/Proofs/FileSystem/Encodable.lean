import VirtualShell.Proofs.FileSystem.Decision
import VirtualShell.Proofs.Tree.Encodable
/-
  Changes without surrogates.

  A change that names no surrogate, asked of a tree without surrogates, leaves it one, and the
  content that it brings always has a size.
-/

namespace VirtualShell

theorem isUnsized_eq_false {content : Text} (h : content.IsEncodable) :
    isUnsized content = false := by
  rw [isUnsized, Text.any_isSurrogate_eq_false h, Bool.and_false]

namespace Mutation

variable {now : Float} {root new : Node} {m : Mutation}

/-- No text in the change holds a surrogate. -/
def IsEncodable : Mutation → Prop
  | write path content => path.IsEncodable ∧ content.IsEncodable
  | createFile parent name content =>
    parent.IsEncodable ∧ name.IsEncodable ∧ content.IsEncodable
  | createDirectory parent name => parent.IsEncodable ∧ name.IsEncodable
  | delete path => path.IsEncodable
  | rename path newName => path.IsEncodable ∧ newName.IsEncodable
  | move source newParent => source.IsEncodable ∧ newParent.IsEncodable
  | copy source newParent => source.IsEncodable ∧ newParent.IsEncodable

theorem IsEncodable.isUnsized_eq_false (h : m.IsEncodable) : m.isUnsized = false := by
  cases m with
  | write => exact VirtualShell.isUnsized_eq_false h.2
  | createFile => exact VirtualShell.isUnsized_eq_false h.2.2
  | _ => rfl

theorem isEncodable_addChild {keys : List Text} {name : Text} {child : Node}
    (h : root.IsEncodable) (hn : name.IsEncodable) (hc : child.IsEncodable) :
    (root.addChild now keys name child).IsEncodable := by
  refine Node.IsEncodable.updateAt (fun n hn' => hn'.withChildren fun children hall e he => ?_) _ h
  rcases Entries.mem_put he with he | rfl
  · exact hall e he
  · exact ⟨hn, hc⟩

theorem isEncodable_removeChild {keys : List Text} {name : Text} (h : root.IsEncodable) :
    (root.removeChild now keys name).IsEncodable := by
  refine Node.IsEncodable.updateAt (fun n hn => hn.withChildren fun children hall e he => ?_) _ h
  exact hall e ((Entries.erase_sublist name children).subset he)

theorem isEncodable_childAt {parent name : Text} {child : Node} (h : root.IsEncodable)
    (hc : root.childAt parent name = some child) : child.IsEncodable := by
  obtain ⟨dirName, p, mtime, children, hl, hc⟩ := Node.childAt_eq_some hc
  exact ((h.lookup hl).of_mem_children _ (Entries.mem_of_get? hc)).2

theorem Effect.isEncodable (h : Effect now root m new) (hr : root.IsEncodable)
    (hm : m.IsEncodable) : new.IsEncodable := by
  cases h with
  | write hg hl hs => exact Node.IsEncodable.updateAt (fun n hn => hn.withContent hm.2) _ hr
  | createFile hn hg hl hk hs =>
    have hpath := Path.isEncodable_join (Path.isEncodable_normalize hm.1) hm.2.1
    exact isEncodable_addChild hr hm.2.1 ⟨hm.2.1, hpath, hm.2.2⟩
  | createDirectory hn hg hl hk =>
    have hpath := Path.isEncodable_join (Path.isEncodable_normalize hm.1) hm.2
    exact isEncodable_addChild hr hm.2 ⟨hm.2, hpath, trivial⟩
  | delete => exact isEncodable_removeChild hr
  | @rename path newName parent name node hg hs hne hproper hc hfree =>
    have hparent : parent.IsEncodable := by
      have hsplit := (Path.isEncodable_split (Path.isEncodable_normalize hm.1)).1
      rwa [hs] at hsplit
    have hrenamed : ((node.withName newName).relabel parent (some now)).IsEncodable :=
      ((isEncodable_childAt hr hc).withName hm.2).relabel hparent
    refine Node.IsEncodable.updateAt (fun n hn => hn.withChildren fun children hall e he => ?_) _ hr
    rcases Entries.mem_put he with he | rfl
    · exact hall e ((Entries.erase_sublist _ children).subset he)
    · exact ⟨hm.2, hrenamed⟩
  | @move source newParent oldParent name _ _ _ _ node hg hg' hsource hl hcycle hs hne hk =>
    have hname : name.IsEncodable := by
      have hsplit := (Path.isEncodable_split (Path.isEncodable_normalize hm.1)).2
      rwa [hs] at hsplit
    have hmoved : (node.relabel (Path.normalize newParent) (some now)).IsEncodable :=
      (hr.lookup hsource).relabel (Path.isEncodable_normalize hm.2)
    exact isEncodable_addChild (isEncodable_removeChild hr) hname hmoved
  | @copy source newParent _ _ _ children node hg hsource hl hcycle =>
    have hnode := hr.lookup hsource
    have hname := Name.isEncodable_forCopy hnode.isEncodable_name (Entries.keys children)
    exact isEncodable_addChild hr hname
      ((hnode.withName hname).relabel (Path.isEncodable_normalize hm.2))

theorem verdict_ne_unencodable (hm : m.IsEncodable) (content : Text) :
    m.verdict now root ≠ .unencodable content := by
  intro h
  have hdecision := decision_verdict now root m
  rw [h, decision] at hdecision
  split at hdecision
  · cases hdecision
  · rw [hm.isUnsized_eq_false] at hdecision
    cases hdecision

/-- The tree that a change leaves, whatever comes of it. -/
theorem isEncodable_tree_verdict (hr : root.IsEncodable) (hm : m.IsEncodable) :
    ((m.verdict now root).tree root).IsEncodable := by
  cases hv : m.verdict now root with
  | accepted new => exact (effect_of_accepted hv).isEncodable hr hm
  | refused | guarded | unencodable => exact hr

end Mutation

end VirtualShell
