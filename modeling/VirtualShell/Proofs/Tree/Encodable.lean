import VirtualShell.Tree.Defaults
import VirtualShell.Proofs.Text.Encodable
import VirtualShell.Proofs.Tree.Edit
/-
  Trees without surrogates.

  No name, path or content in such a tree holds a surrogate. Edits that bring none in keep it that
  way. In a consistent tree the paths are made of the names, so for the names and the contents
  alone the same can be said node by node.
-/

namespace VirtualShell.Node

mutual

/-- No text in the tree holds a surrogate. -/
def IsEncodable : Node → Prop
  | file name path _ content _ => name.IsEncodable ∧ path.IsEncodable ∧ content.IsEncodable
  | directory name path _ children =>
    name.IsEncodable ∧ path.IsEncodable ∧ AllEncodable children

/-- The same for each child of a directory and its key. -/
def AllEncodable : List (Text × Node) → Prop
  | [] => True
  | (key, child) :: rest => (key.IsEncodable ∧ IsEncodable child) ∧ AllEncodable rest

end

variable {n root : Node} {name path parent dirName p content : Text} {mtime now : Float}
  {size : Nat} {children : List (Text × Node)}

theorem allEncodable_iff :
    AllEncodable children ↔ ∀ e ∈ children, e.1.IsEncodable ∧ IsEncodable e.2 := by
  induction children with
  | nil => simp [AllEncodable]
  | cons e rest ih => simp [AllEncodable, ih]

theorem isEncodable_directory :
    IsEncodable (.directory name path mtime children) ↔
      name.IsEncodable ∧ path.IsEncodable ∧
        ∀ e ∈ children, e.1.IsEncodable ∧ IsEncodable e.2 := by
  rw [IsEncodable, allEncodable_iff]

theorem IsEncodable.isEncodable_name (h : n.IsEncodable) : n.name.IsEncodable := by
  cases n with
  | file => exact h.1
  | directory => exact h.1

theorem IsEncodable.isEncodable_path (h : n.IsEncodable) : n.path.IsEncodable := by
  cases n with
  | file => exact h.2.1
  | directory => exact h.2.1

theorem IsEncodable.isEncodable_content (h : n.IsEncodable) (hc : n.content? = some content) :
    content.IsEncodable := by
  cases n with
  | file =>
    cases hc
    exact h.2.2
  | directory => cases hc

theorem IsEncodable.of_mem_children (h : n.IsEncodable) :
    ∀ e ∈ n.children, e.1.IsEncodable ∧ e.2.IsEncodable := by
  cases n with
  | file => exact fun e he => nomatch he
  | directory => exact (isEncodable_directory.mp h).2.2

theorem IsEncodable.at? {keys : List Text} :
    ∀ {n m : Node}, n.IsEncodable → n.at? keys = some m → m.IsEncodable := by
  induction keys with
  | nil =>
    intro n m h hm
    rw [at?_nil] at hm
    cases hm
    exact h
  | cons key rest ih =>
    intro n m h hm
    cases n with
    | file => cases hm
    | directory name path mtime children =>
      obtain ⟨child, hchild, hm⟩ := Option.bind_eq_some_iff.mp hm
      exact ih (h.of_mem_children _ (Entries.mem_of_get? hchild)).2 hm

theorem IsEncodable.lookup (h : root.IsEncodable) {found : Node}
    (hl : root.lookup path = some found) : found.IsEncodable := h.at? hl

/-! ## Edits -/

theorem IsEncodable.updateAt {f : Node → Node} (hf : ∀ n : Node, n.IsEncodable → (f n).IsEncodable)
    (keys : List Text) : ∀ {n : Node}, n.IsEncodable → (n.updateAt keys f).IsEncodable := by
  induction keys with
  | nil => exact fun h => hf _ h
  | cons key rest ih =>
    intro n h
    cases n with
    | file => exact h
    | directory name path mtime children =>
      rw [isEncodable_directory] at h
      rw [Node.updateAt, isEncodable_directory]
      refine ⟨h.1, h.2.1, fun e he => ?_⟩
      rcases Entries.mem_modify he with he | ⟨child, hc, rfl⟩
      · exact h.2.2 e he
      · exact ⟨(h.2.2 _ hc).1, ih (h.2.2 _ hc).2⟩

theorem IsEncodable.withContent (h : n.IsEncodable) (hc : content.IsEncodable) :
    (n.withContent now content size).IsEncodable := by
  cases n with
  | file => exact ⟨h.1, h.2.1, hc⟩
  | directory => exact h

theorem IsEncodable.withChildren {f : List (Text × Node) → List (Text × Node)} (h : n.IsEncodable)
    (hf : ∀ children, (∀ e ∈ children, e.1.IsEncodable ∧ IsEncodable e.2) →
      ∀ e ∈ f children, e.1.IsEncodable ∧ IsEncodable e.2) :
    (n.withChildren now f).IsEncodable := by
  cases n with
  | file => exact h
  | directory name path mtime children =>
    rw [isEncodable_directory] at h
    rw [Node.withChildren, isEncodable_directory]
    exact ⟨h.1, h.2.1, hf children h.2.2⟩

theorem IsEncodable.withName (h : n.IsEncodable) (hname : name.IsEncodable) :
    (n.withName name).IsEncodable := by
  cases n with
  | file => exact ⟨hname, h.2⟩
  | directory => exact ⟨hname, h.2⟩

theorem IsEncodable.relabel {time : Option Float} :
    ∀ {parent : Text}, n.IsEncodable → parent.IsEncodable →
      (n.relabel parent time).IsEncodable := by
  induction n using induction with
  | file => exact fun h hp => ⟨h.1, Path.isEncodable_join hp h.1, h.2.2⟩
  | directory name path mtime children ih =>
    intro parent h hp
    rw [isEncodable_directory] at h
    have hpath := Path.isEncodable_join hp h.1
    rw [Node.relabel, isEncodable_directory]
    refine ⟨h.1, hpath, fun e he => ?_⟩
    rw [relabelAll_eq_map, List.mem_map] at he
    obtain ⟨e, he, rfl⟩ := he
    exact ⟨(h.2.2 e he).1, ih e he (h.2.2 e he).2 hpath⟩

/-! ## Names and contents -/

end VirtualShell.Node
