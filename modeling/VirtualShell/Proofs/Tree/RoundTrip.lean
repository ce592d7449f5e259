import VirtualShell.Proofs.Json.RoundTrip
import VirtualShell.Proofs.Tree.Draft
import VirtualShell.Proofs.Tree.Merged
import VirtualShell.Tree.Snapshot
/-
  A snapshot gives the tree back.

  The decoder works out sizes and checks names and paths. In a consistent tree the sizes are
  what it works out and the check finds nothing, so what is decoded is the tree that was
  encoded, whatever the time. The text in between merges surrogate pairs that stand in the tree
  in two halves, and no size may have more digits than a number that is read may have. What is
  read is then the merged tree with the same mark (`Snapshot.read_write_merged`), and for a
  legible tree the tree itself (`Snapshot.read_write`).
-/

namespace VirtualShell

/-! ## The draft of a tree -/

mutual

/-- The draft that says of a tree what it is. -/
def Draft.ofNode : Node → Draft
  | .file name path mtime content size => .file (.text name) (.text path) mtime content size
  | .directory name path mtime children =>
    .directory (.text name) (.text path) mtime (Draft.ofEntries children)

/-- The same for each child of a directory. -/
def Draft.ofEntries : List (Text × Node) → List (Text × Draft)
  | [] => []
  | (key, child) :: rest => (key, Draft.ofNode child) :: Draft.ofEntries rest

end

namespace Draft

theorem ofEntries_eq_map (children : List (Text × Node)) :
    ofEntries children = children.map fun e => (e.1, ofNode e.2) := by
  induction children with
  | nil => rfl
  | cons e rest ih => rw [ofEntries, ih, List.map_cons]

@[simp] theorem name_ofNode (n : Node) : (ofNode n).name = .text n.name := by
  cases n <;> simp [ofNode, name, Node.name]

@[simp] theorem path_ofNode (n : Node) : (ofNode n).path = .text n.path := by
  cases n <;> simp [ofNode, path, Node.path]

/-- The check finds nothing in the draft of a tree whose labels fit. -/
theorem checkBelow_ofNode {n : Node} :
    ∀ {name path : Text}, n.IsNamed name → n.IsPlaced path →
      checkBelow path (ofNode n) = .ok () := by
  induction n using Node.induction with
  | file name path mtime content size =>
    intro nm p _ _
    rw [ofNode, checkBelow]
  | directory name path mtime children ih =>
    intro nm p hn hp
    rw [Node.isNamed_directory] at hn
    rw [Node.isPlaced_directory] at hp
    rw [ofNode, ofEntries_eq_map, checkBelow_directory_eq_ok]
    constructor
    · intro d hd
      obtain ⟨e, he, rfl⟩ := List.mem_map.mp hd
      obtain ⟨hproper, hnamed⟩ := hn.2.2 e he
      rw [name_ofNode, path_ofNode, hnamed.name_eq, (hp.2 e he).path_eq]
      exact ⟨rfl, hproper, rfl⟩
    · intro d hd
      obtain ⟨e, he, rfl⟩ := List.mem_map.mp hd
      exact ih e he (hn.2.2 e he).2 (hp.2 e he)

theorem check_ofNode {root : Node} (h : root.IsConsistent) : (ofNode root).check = .ok () := by
  obtain ⟨hdirectory, hn, hp⟩ := Node.isConsistent_iff.mp h
  cases root with
  | file => cases hdirectory
  | directory name path mtime children =>
    obtain rfl := hn.1
    obtain rfl := hp.1
    exact check_eq_ok.mpr ⟨mtime, ofEntries children, by rw [ofNode], checkBelow_ofNode hn hp⟩

/-- The tree made of its draft is the tree. -/
theorem place_ofNode {n : Node} :
    ∀ {name path : Text}, n.IsNamed name → n.IsPlaced path → (ofNode n).place name path = n := by
  induction n using Node.induction with
  | file name path mtime content size =>
    intro nm p hn hp
    obtain rfl := hn.1
    obtain rfl : path = p := hp
    rw [ofNode, place]
  | directory name path mtime children ih =>
    intro nm p hn hp
    rw [Node.isNamed_directory] at hn
    rw [Node.isPlaced_directory] at hp
    obtain ⟨rfl, -, hn⟩ := hn
    obtain ⟨rfl, hp⟩ := hp
    have hchildren : children.map (fun e =>
        (e.1, place e.1 (Path.join path e.1) (ofNode e.2))) = children := by
      refine (List.map_congr_left fun e he => ?_).trans (List.map_id children)
      rw [ih e he (hn e he).2 (hp e he)]
      rfl
    rw [ofNode, place, ofEntries_eq_map, placeAll_eq_map, List.map_map]
    exact congrArg (Node.directory name path mtime) hchildren

end Draft

namespace Snapshot

/-! ## Decoding -/

theorem encodeAll_eq_map (children : List (Text × Node)) :
    encodeAll children = children.map fun e => (e.1, encodeNode e.2) := by
  induction children with
  | nil => rfl
  | cons e rest ih => rw [encodeAll, ih, List.map_cons]

theorem decodeEach_map {α : Type} {now : Float} {entries : List (Text × α)} {f : α → Json}
    {g : α → Draft} (h : ∀ e ∈ entries, decodeNode now (f e.2) = .ok (g e.2)) :
    decodeEach now (entries.map fun e => (e.1, f e.2)) =
      .ok (entries.map fun e => (e.1, g e.2)) := by
  induction entries with
  | nil => rfl
  | cons e rest ih =>
    rw [List.map_cons, decodeEach, h e List.mem_cons_self,
      ih fun e' he => h e' (List.mem_cons_of_mem _ he)]
    rfl

theorem decodeFile_of_fields {mtime : Float} {fields : Entries Json} {name path : Json}
    {content : Text} {size : Nat}
    (hcontent : Json.fieldOr (.text []) "content" fields = .text content)
    (hname : require "name" fields = .ok name) (hpath : require "path" fields = .ok path)
    (hsize : contentSize? content = some size) :
    decodeFile mtime fields = .ok (.file name path mtime content size) := by
  rw [decodeFile, hcontent]
  dsimp only
  rw [hname, hpath]
  dsimp only [bind, Except.bind]
  rw [hsize]
  rfl

/-- An object whose keys are the given ones, all plain and no two the same, keeps them. -/
theorem merged_object (keys : List Text) {fields : List (Text × Json)}
    (hkeys : Entries.keys fields = keys) (hnodup : keys.Nodup)
    (hplain : ∀ key ∈ keys, ∀ c ∈ key, c.val < 0xD800) :
    (Json.object fields).merged = .object (fields.map fun p => (p.1, p.2.merged)) := by
  subst hkeys
  have hfields : fields.map Json.mergedField = fields.map fun p => (p.1, p.2.merged) := by
    refine List.map_congr_left fun p hp => ?_
    rw [Json.mergedField, Text.IsUnpaired.merged_eq_self
      (Text.isUnpaired_of_forall_lt (hplain p.1 (Entries.mem_keys_of_mem hp)))]
  rw [Json.merged, Json.mergedFields_eq_map, hfields, Entries.ofPairs_eq]
  simpa [Entries.keys, Function.comp_def] using hnodup

theorem mergedFields_encodeAll (children : List (Text × Node)) :
    Json.mergedFields (encodeAll children) =
      children.map fun e => (e.1.merged, (encodeNode e.2).merged) := by
  rw [encodeAll_eq_map, Json.mergedFields_eq_map, List.map_map]
  rfl

/-- What is decoded is the draft of the merged tree, whatever the time: every node has its own. -/
theorem decodeNode_merged (now : Float) {n : Node} :
    ∀ {name : Text}, n.IsNamed name →
      decodeNode now (encodeNode n).merged = .ok (Draft.ofNode n.merged) := by
  induction n using Node.induction with
  | file name path mtime content size =>
    intro nm hn
    have hfile : decodeFile mtime [
        ("type", .text "file"), ("name", .text name.merged), ("path", .text path.merged),
        ("size", .number (.integer size)), ("mtime", .number (.real mtime)),
        ("content", .text content.merged)] = .ok (.file (.text name.merged) (.text path.merged)
          mtime content.merged ((contentSize? content.merged).getD 0)) :=
      decodeFile_of_fields rfl rfl rfl hn.merged.2
    have hfields : (encodeNode (.file name path mtime content size)).merged = .object [
        ("type", .text "file"), ("name", .text name.merged), ("path", .text path.merged),
        ("size", .number (.integer size)), ("mtime", .number (.real mtime)),
        ("content", .text content.merged)] := by
      rw [encodeNode, merged_object ["type", "name", "path", "size", "mtime", "content"] rfl
        (by decide) (by decide)]
      rfl
    rw [hfields, decodeNode, Node.merged, Draft.ofNode]
    exact hfile
  | directory name path mtime children ih =>
    intro nm hn
    rw [Node.isNamed_directory] at hn
    -- which children count is told by the keys alone, so the values may be merged afterwards
    have hkept : ∀ {α : Type} (f : Node → α),
        Entries.ofPairs (children.map fun e => (e.1.merged, f e.2)) =
          (Entries.ofPairs (children.map fun e => (e.1.merged, e.2))).map
            fun e => (e.1, f e.2) := by
      intro α f
      rw [← Entries.ofPairs_map, List.map_map]
      rfl
    have heach : decodeEach now (Entries.ofPairs (Json.mergedFields (encodeAll children))) =
        .ok (Draft.ofEntries (Entries.ofPairs (Node.mergedAll children))) := by
      rw [mergedFields_encodeAll, Node.mergedAll_eq_map, hkept fun n => (encodeNode n).merged,
        hkept Node.merged, Draft.ofEntries_eq_map, List.map_map]
      refine decodeEach_map (f := fun n => (encodeNode n).merged)
        (g := fun n => Draft.ofNode n.merged) fun e he => ?_
      obtain ⟨e', he', rfl⟩ := List.mem_map.mp (Entries.mem_ofPairs he)
      exact ih e' he' (hn.2.2 e' he').2
    -- the children are looked for field by field, and are in the last one
    have hchildren : decodeChildren now [
        ("type", .text "directory"), ("name", .text name.merged), ("path", .text path.merged),
        ("size", .number (.integer 0)), ("mtime", .number (.real mtime)),
        ("children", .object (Entries.ofPairs (Json.mergedFields (encodeAll children))))] =
        .ok (Draft.ofEntries (Entries.ofPairs (Node.mergedAll children))) := by
      rw [decodeChildren, if_neg (by decide), decodeChildren, if_neg (by decide), decodeChildren,
        if_neg (by decide), decodeChildren, if_neg (by decide), decodeChildren,
        if_neg (by decide), decodeChildren, if_pos rfl, decodeMapping, heach]
    have hfields : (encodeNode (.directory name path mtime children)).merged = .object [
        ("type", .text "directory"), ("name", .text name.merged), ("path", .text path.merged),
        ("size", .number (.integer 0)), ("mtime", .number (.real mtime)),
        ("children", .object (Entries.ofPairs (Json.mergedFields (encodeAll children))))] := by
      rw [encodeNode, merged_object ["type", "name", "path", "size", "mtime", "children"] rfl
        (by decide) (by decide)]
      rfl
    rw [hfields, decodeNode, Node.merged, Draft.ofNode, hchildren]
    rfl

/-- A snapshot of a consistent tree is decoded as the merged tree with the same mark. -/
theorem decode_merged (now : Float) {s : Snapshot} (h : s.root.IsConsistent) :
    decode now s.encode.merged = .ok ⟨s.root.merged, s.corrupted⟩ := by
  obtain ⟨-, hn, hp⟩ := Node.isConsistent_iff.mp h.merged
  have hnode := decodeNode_merged now (Node.isConsistent_iff.mp h).2.1
  have hfields : s.encode.merged = .object [("version", .number (.integer version)),
      ("corrupted", .boolean s.corrupted), ("root", (encodeNode s.root).merged)] := by
    rw [encode, merged_object ["version", "corrupted", "root"] rfl (by decide) (by decide)]
    rfl
  have hroot : require "root" [("version", .number (.integer version)),
      ("corrupted", .boolean s.corrupted), ("root", (encodeNode s.root).merged)] =
      .ok (encodeNode s.root).merged := rfl
  rw [hfields, decode, hroot]
  dsimp only [bind, Except.bind]
  rw [hnode]
  dsimp only
  rw [Draft.check_ofNode h.merged]
  dsimp only
  rw [Draft.place_ofNode hn hp]
  rfl

/-! ## The text in between -/

theorem isReadable_size {size : Nat} (h : size < 10 ^ Text.digitLimit) :
    (Number.integer size).IsReadable := by
  show (Text.ofNat size).length ≤ Text.digitLimit
  rw [Text.ofNat, List.length_map, Nat.length_toDigits_le_iff (by decide) (by decide)]
  exact h

theorem hasReadableNumbers_encodeNode {n : Node}
    (h : ∀ m ∈ n.walk, m.size < 10 ^ Text.digitLimit) : (encodeNode n).HasReadableNumbers := by
  induction n using Node.induction with
  | file name path mtime content size =>
    have hsize := h _ (Node.mem_walk_self _)
    rw [encodeNode]
    refine .object ?_
    simp only [List.forall_mem_cons]
    exact ⟨.text _, .text _, .text _, .number (isReadable_size hsize), .number trivial, .text _,
      by simp⟩
  | directory name path mtime children ih =>
    have hchildren : (Json.object (encodeAll children)).HasReadableNumbers := by
      rw [encodeAll_eq_map]
      refine .object fun p hp => ?_
      obtain ⟨e, he, rfl⟩ := List.mem_map.mp hp
      exact ih e he fun m hm => h m (Node.mem_walk_directory.mpr (Or.inr ⟨e, he, hm⟩))
    rw [encodeNode]
    refine .object ?_
    simp only [List.forall_mem_cons]
    exact ⟨.text _, .text _, .text _, .number (isReadable_size (by decide +kernel)),
      .number trivial, hchildren, by simp⟩

theorem hasReadableNumbers_encode {s : Snapshot}
    (h : ∀ m ∈ s.root.walk, m.size < 10 ^ Text.digitLimit) : s.encode.HasReadableNumbers := by
  rw [encode]
  refine .object ?_
  simp only [List.forall_mem_cons]
  exact ⟨.number (isReadable_size (by decide +kernel)), .boolean _,
    hasReadableNumbers_encodeNode h, by simp⟩

/-- The text of a snapshot is read as the merged tree with the same mark, at any time. -/
theorem read_write_merged (now : Float) {s : Snapshot} (hc : s.root.IsConsistent)
    (h : ∀ m ∈ s.root.walk, m.size < 10 ^ Text.digitLimit) :
    read now s.write = .ok ⟨s.root.merged, s.corrupted⟩ := by
  rw [read, write, Json.read_write_merged (hasReadableNumbers_encode h)]
  exact decode_merged now hc

end Snapshot

/-! ## Legible trees -/

/-- No surrogate pair stands in two halves in a name or a content, and no size has more digits
than a number that is read may have. -/
structure Node.IsLegible (root : Node) : Prop where
  name : ∀ n ∈ root.walk, n.name.IsUnpaired
  content : ∀ n ∈ root.walk, ∀ content ∈ n.content?, content.IsUnpaired
  size : ∀ n ∈ root.walk, n.size < 10 ^ Text.digitLimit

theorem Path.isUnpaired_join {parent name : Text} (hp : parent.IsUnpaired)
    (hn : name.IsUnpaired) : (Path.join parent name).IsUnpaired := by
  have hslash : (CodePoint.ofChar '/').val < 0xD800 := by decide
  have hparent : Text.IsUnpaired (if parent = Path.root then [] else parent) := by
    split
    · exact List.isChain_nil
    · exact hp
  rw [Path.join, List.append_assoc]
  exact hparent.append_cons hslash hn

theorem Node.IsLegible.child {name path : Text} {mtime : Float} {children : List (Text × Node)}
    (h : IsLegible (.directory name path mtime children)) {e : Text × Node} (he : e ∈ children) :
    e.2.IsLegible :=
  have hwalk : ∀ n ∈ e.2.walk, n ∈ walk (.directory name path mtime children) :=
    fun _ hn => mem_walk_directory.mpr (Or.inr ⟨e, he, hn⟩)
  ⟨fun n hn => h.name n (hwalk n hn), fun n hn => h.content n (hwalk n hn),
    fun n hn => h.size n (hwalk n hn)⟩

/-- A legible node comes back as it was. -/
theorem Node.IsLegible.merged_eq_self_of_isPlaced {n : Node} : ∀ {name path : Text}, n.IsNamed name →
    n.IsPlaced path → path.IsUnpaired → n.IsLegible → n.merged = n := by
  induction n using Node.induction with
  | file name path mtime content size =>
    intro nm p hn hp hpath hl
    obtain rfl : path = p := hp
    have hself := Node.mem_walk_self (.file name path mtime content size)
    have hname : name.IsUnpaired := hl.name _ hself
    have hcontent : content.IsUnpaired := hl.content _ hself content rfl
    rw [Node.merged, hname.merged_eq_self, hpath.merged_eq_self,
      hcontent.merged_eq_self, hn.2]
    rfl
  | directory name path mtime children ih =>
    intro nm p hn hp hpath hl
    have hself := Node.mem_walk_self (.directory name path mtime children)
    have hname : name.IsUnpaired := hl.name _ hself
    rw [Node.isNamed_directory] at hn
    rw [Node.isPlaced_directory] at hp
    obtain ⟨-, hdistinct, hn⟩ := hn
    obtain ⟨rfl, hp⟩ := hp
    have hchildren : Node.mergedAll children = children := by
      rw [Node.mergedAll_eq_map]
      refine (List.map_congr_left fun e he => ?_).trans (List.map_id children)
      -- a key is the name of a node, and with a slash before it keeps a path unpaired
      have hkey : e.1.IsUnpaired := by
        rw [← (hn e he).2.name_eq]
        exact (hl.child he).name _ (Node.mem_walk_self e.2)
      rw [hkey.merged_eq_self, ih e he (hn e he).2 (hp e he) (Path.isUnpaired_join hpath hkey)
        (hl.child he)]
      rfl
    rw [Node.merged, hname.merged_eq_self, hpath.merged_eq_self, hchildren,
      Entries.ofPairs_eq hdistinct]

/-- A legible tree comes back as it was. -/
theorem Node.IsLegible.merged_eq_self {root : Node} (hl : root.IsLegible)
    (hc : root.IsConsistent) : root.merged = root := by
  obtain ⟨-, hn, hp⟩ := Node.isConsistent_iff.mp hc
  exact merged_eq_self_of_isPlaced hn hp (Text.isUnpaired_of_forall_lt (by decide)) hl

namespace Snapshot

/-- An object is readable whose keys are the given ones, all plain and no two the same. -/
theorem isReadable_object (keys : List Text) {fields : List (Text × Json)}
    (hkeys : Entries.keys fields = keys) (hnodup : keys.Nodup)
    (hplain : ∀ key ∈ keys, ∀ c ∈ key, c.val < 0xD800) (hfields : ∀ p ∈ fields, p.2.IsReadable) :
    (Json.object fields).IsReadable := by
  subst hkeys
  exact .object hnodup
    (fun p hp => Text.isUnpaired_of_forall_lt (hplain p.1 (Entries.mem_keys_of_mem hp))) hfields

/-- The text of a snapshot is read as the snapshot, at any time. -/
theorem read_write (now : Float) {s : Snapshot} (hc : s.root.IsConsistent)
    (hl : s.root.IsLegible) : read now s.write = .ok s := by
  rw [read_write_merged now hc hl.size, hl.merged_eq_self hc]

end Snapshot

end VirtualShell
