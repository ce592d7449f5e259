import VirtualShell.Proofs.Json.Distinct
import VirtualShell.Proofs.Json.Quotation
import VirtualShell.Proofs.Text
import VirtualShell.Proofs.Tree.Consistent
/-
  The tree that comes back from a text.

  A surrogate pair that stands in a name, a path or a content in two halves comes back as the code
  point that it encodes, and sizes are worked out anew. Names that differed may then be one; in
  that case the first of them gives the place in the directory and the last the node.
  `Node.merged` is the tree after all this. It is consistent if the tree was
  (`Node.IsConsistent.merged`), because slashes and dots are no halves of anything.
-/

namespace VirtualShell

/-! ## Merged texts -/

theorem CodePoint.le_val_ofPair {c d : CodePoint} (hc : c.IsHighSurrogate)
    (hd : d.IsLowSurrogate) : 0x10000 ≤ (ofPair c d).val := by
  have hhigh := hc.2
  have hlow := hd.2
  rw [ofPair, ofNat, dif_pos (by omega)]
  simp only
  omega

namespace Text

theorem merged_cons {c : CodePoint} (hc : ¬ c.IsHighSurrogate) (t : Text) :
    merged (c :: t) = c :: merged t := by
  cases t with
  | nil => rfl
  | cons d rest => rw [merged, if_neg fun hpair => hc hpair.1]

theorem merged_append {s : Text} (hs : ∀ c ∈ s, c.val < 0xD800) (t : Text) :
    merged (s ++ t) = s ++ merged t := by
  induction s with
  | nil => rfl
  | cons c rest ih =>
    obtain ⟨hc, hrest⟩ := List.forall_mem_cons.mp hs
    rw [List.cons_append, merged_cons (CodePoint.not_isHighSurrogate hc), ih hrest,
      List.cons_append]

/-- A code point below the surrogates keeps what stands before it from what stands after it. -/
theorem merged_append_cons (s : Text) {c : CodePoint} (hc : c.val < 0xD800) (t : Text) :
    merged (s ++ c :: t) = merged s ++ c :: merged t := by
  have hplain : merged (c :: t) = c :: merged t := merged_cons (CodePoint.not_isHighSurrogate hc) t
  fun_induction merged s with
  | case1 => exact hplain
  | case2 d =>
    have hpair : ¬ (d.IsHighSurrogate ∧ c.IsLowSurrogate) := fun hpair => by
      have := hpair.2.1
      omega
    rw [List.singleton_append, merged, if_neg hpair, hplain]
    rfl
  | case3 d e rest hpair ih =>
    rw [List.cons_append, List.cons_append, merged, if_pos hpair, ih]
    rfl
  | case4 d e rest hpair ih =>
    rw [List.cons_append, List.cons_append, merged, if_neg hpair, ← List.cons_append, ih]
    rfl

/-- What lies in the first plane has not been made by merging. -/
theorem mem_of_mem_merged {t : Text} {c : CodePoint} (h : c ∈ t.merged) (hc : c.val < 0x10000) :
    c ∈ t := by
  fun_induction merged t with
  | case1 | case2 => exact h
  | case3 d e rest hpair ih =>
    rcases List.mem_cons.mp h with heq | h
    · have hval := CodePoint.le_val_ofPair hpair.1 hpair.2
      rw [← heq] at hval
      omega
    · exact List.mem_cons_of_mem _ (List.mem_cons_of_mem _ (ih h))
  | case4 d e rest hpair ih =>
    rcases List.mem_cons.mp h with rfl | h
    · exact List.mem_cons_self
    · exact List.mem_cons_of_mem _ (ih h)

theorem merged_eq_self_of_forall_lt {t : Text} (h : ∀ c ∈ t.merged, c.val < 0x10000) :
    t.merged = t := by
  fun_induction merged t with
  | case1 | case2 => rfl
  | case3 c d rest hpair =>
    exact absurd (CodePoint.le_val_ofPair hpair.1 hpair.2)
      (Nat.not_le.mpr (h _ List.mem_cons_self))
  | case4 c d rest hpair ih => rw [ih fun e he => h e (List.mem_cons_of_mem _ he)]

/-- Text that becomes one of the first plane was that text. -/
theorem merged_eq_iff {t u : Text} (hu : ∀ c ∈ u, c.val < 0xD800) : t.merged = u ↔ t = u := by
  constructor
  · rintro rfl
    exact (merged_eq_self_of_forall_lt fun c hc => by have := hu c hc; omega).symm
  · rintro rfl
    exact (isUnpaired_of_forall_lt hu).merged_eq_self

end Text

theorem Name.IsProper.merged {name : Text} (h : IsProper name) : IsProper name.merged := by
  obtain ⟨hempty, hslash, hdot, hdots⟩ := h
  refine ⟨mt (Text.merged_eq_iff (by simp)).mp hempty, fun hm => ?_,
    mt (Text.merged_eq_iff (by decide)).mp hdot, mt (Text.merged_eq_iff (by decide)).mp hdots⟩
  exact hslash (Text.mem_of_mem_merged hm (by decide))

theorem Path.merged_join (parent name : Text) :
    (join parent name).merged = join parent.merged name.merged := by
  have hslash : (CodePoint.ofChar '/').val < 0xD800 := by decide
  have hroot : parent.merged = root ↔ parent = root := Text.merged_eq_iff (by decide)
  rw [join, join, List.append_assoc, List.append_assoc]
  show Text.merged (_ ++ CodePoint.ofChar '/' :: name) = _ ++ CodePoint.ofChar '/' :: name.merged
  rw [Text.merged_append_cons _ hslash]
  by_cases hp : parent = root
  · rw [if_pos hp, if_pos (hroot.mpr hp)]
    rfl
  · rw [if_neg hp, if_neg (mt hroot.mp hp)]

/-- Content with a size has one when it is merged: only of an image may it hold surrogates. -/
theorem isSome_contentSize?_merged {content : Text} (h : (contentSize? content).isSome) :
    (contentSize? content.merged).isSome := by
  by_cases himage : imageMark.isPrefixOf content = true
  · obtain ⟨rest, rfl⟩ := List.isPrefixOf_iff_prefix.mp himage
    have hmark : ∀ c ∈ imageMark, c.val < 0xD800 := by decide
    have hmerged : imageMark.isPrefixOf (imageMark ++ Text.merged rest) = true :=
      List.isPrefixOf_iff_prefix.mpr (List.prefix_append _ _)
    rw [Text.merged_append hmark, contentSize?, if_pos hmerged]
    rfl
  · have hunpaired : content.IsUnpaired := by
      rw [contentSize?, if_neg himage, Option.isSome_iff_ne_none, Ne,
        Text.utf8Length?_eq_none_iff] at h
      refine Text.isUnpaired_of_forall_not_high fun c hc hhigh => h ?_
      refine List.any_eq_true.mpr ⟨c, hc, ?_⟩
      rw [CodePoint.isSurrogate, Bool.and_eq_true, decide_eq_true_eq, decide_eq_true_eq]
      exact ⟨hhigh.1, hhigh.2.trans (by decide)⟩
    rw [hunpaired.merged_eq_self]
    exact h

namespace Node

mutual

/-- The tree that comes back where this one was written. -/
def merged : Node → Node
  | .file name path mtime content _ =>
    .file name.merged path.merged mtime content.merged ((contentSize? content.merged).getD 0)
  | .directory name path mtime children =>
    .directory name.merged path.merged mtime (Entries.ofPairs (mergedAll children))

/-- The same for each child of a directory, under its merged name. -/
def mergedAll : List (Text × Node) → List (Text × Node)
  | [] => []
  | (key, child) :: rest => (key.merged, merged child) :: mergedAll rest

end

theorem mergedAll_eq_map (children : List (Text × Node)) :
    mergedAll children = children.map fun e => (e.1.merged, e.2.merged) := by
  induction children with
  | nil => rfl
  | cons e rest ih => rw [mergedAll, ih, List.map_cons]

/-- A child that comes back was a child. -/
theorem exists_of_mem_merged {e : Text × Node} {children : List (Text × Node)}
    (h : e ∈ Entries.ofPairs (mergedAll children)) :
    ∃ e' ∈ children, e = (e'.1.merged, e'.2.merged) := by
  have hm := Entries.mem_ofPairs h
  rw [mergedAll_eq_map] at hm
  obtain ⟨e', he', rfl⟩ := List.mem_map.mp hm
  exact ⟨e', he', rfl⟩

theorem IsNamed.merged {n : Node} :
    ∀ {name : Text}, n.IsNamed name → n.merged.IsNamed name.merged := by
  induction n using induction with
  | file name path mtime content size =>
    intro nm h
    obtain ⟨rfl, hsize⟩ := h
    obtain ⟨size', hsize'⟩ :=
      Option.isSome_iff_exists.mp (isSome_contentSize?_merged (Option.isSome_of_eq_some hsize))
    rw [Node.merged, hsize']
    exact ⟨rfl, hsize'⟩
  | directory name path mtime children ih =>
    intro nm h
    rw [isNamed_directory] at h
    obtain ⟨rfl, -, hchildren⟩ := h
    rw [Node.merged, isNamed_directory]
    refine ⟨rfl, Entries.nodup_keys_ofPairs _, fun e he => ?_⟩
    obtain ⟨e', he', rfl⟩ := exists_of_mem_merged he
    obtain ⟨hproper, hnamed⟩ := hchildren e' he'
    exact ⟨hproper.merged, ih e' he' hnamed⟩

theorem IsPlaced.merged {n : Node} :
    ∀ {path : Text}, n.IsPlaced path → n.merged.IsPlaced path.merged := by
  induction n using induction with
  | file name path mtime content size =>
    intro p h
    obtain rfl : path = p := h
    rw [Node.merged]
    rfl
  | directory name path mtime children ih =>
    intro p h
    rw [isPlaced_directory] at h
    obtain ⟨rfl, hchildren⟩ := h
    rw [Node.merged, isPlaced_directory]
    refine ⟨rfl, fun e he => ?_⟩
    obtain ⟨e', he', rfl⟩ := exists_of_mem_merged he
    have hplaced := ih e' he' (hchildren e' he')
    rwa [Path.merged_join] at hplaced

/-- What comes back of a consistent tree is a consistent tree. -/
theorem IsConsistent.merged {root : Node} (h : root.IsConsistent) : root.merged.IsConsistent := by
  obtain ⟨hdirectory, hn, hp⟩ := isConsistent_iff.mp h
  refine isConsistent_iff.mpr ⟨?_, hn.merged, hp.merged⟩
  cases root with
  | file => cases hdirectory
  | directory => rfl

end Node

end VirtualShell
