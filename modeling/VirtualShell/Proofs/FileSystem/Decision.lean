import VirtualShell.Proofs.FileSystem.Volume
/-
  How a change is decided.

  `Mutation.objections` is a table: what stands against a change, as conditions on paths and on
  what is found at them, each with the reason that it gives. The first condition that holds
  decides, and a change that nothing stands against is made, unless it brings content without a
  size. A verdict is reached otherwise: some of it on the text of paths, some on the entries of
  directories and some by way of the parent of a path; `decision_verdict` says that it comes to
  the same for every tree and every spelling.

  `isCarriedOut_apply` is the result for the call as a whole: what it answers, what it leaves
  as the reason, when the volume is written, and that a change that is not made leaves the tree
  as it is.
-/

namespace VirtualShell

/-! ## Content without a size -/

/-- Content that has no size: it holds a surrogate and is no image. -/
def isUnsized (content : Text) : Bool :=
  !imageMark.isPrefixOf content && content.any CodePoint.isSurrogate

theorem isUnsized_eq_isNone (content : Text) :
    isUnsized content = (contentSize? content).isNone := by
  rw [Bool.eq_iff_iff, Option.isNone_iff_eq_none, contentSize?, isUnsized]
  split
  · rename_i h
    simp [h]
  · rename_i h
    rw [Text.utf8Length?_eq_none_iff]
    simp [h]

/-! ## The table -/

/-- How a change is decided. -/
inductive Decision where
  | made
  | refused (reason : Refusal)
  /-- The change would be made, but its content has no size. -/
  | unsized
  deriving DecidableEq, Repr

namespace Node

/-- Whether there is a node at a path. -/
def holds (root : Node) (path : Text) : Bool := (root.lookup path).isSome

/-- Whether there is a file at a path. -/
def holdsFile (root : Node) (path : Text) : Bool := (root.lookup path).any fun n => !n.isDirectory

/-- Whether there is a directory at a path. -/
def holdsDirectory (root : Node) (path : Text) : Bool := (root.lookup path).any isDirectory

end Node

namespace Mutation

/-- What may stand against a new node called `name` in the directory at `parent`. -/
def creationObjections (root : Node) (parent name : Text) : List (Bool × Refusal) :=
  let parent := Path.normalize parent
  [(!Name.isValid name, .invalidName),
   (isProtected (Path.join parent name), .protectedPath),
   (!root.holds parent, .notFound),
   (root.holdsFile parent, .typeMismatch),
   (root.holds (Path.join parent name), .alreadyExists)]

/-- What may stand against a change, in the order in which it counts. -/
def objections (root : Node) : Mutation → List (Bool × Refusal)
  | write path _ =>
    let path := Path.normalize path
    [(isProtected path, .protectedPath),
     (!root.holds path, .notFound),
     (root.holdsDirectory path, .typeMismatch)]
  | createFile parent name _ => creationObjections root parent name
  | createDirectory parent name => creationObjections root parent name
  | delete path =>
    let path := Path.normalize path
    [(isProtected path, .protectedPath),
     (path = Path.root, .invalidName),
     (!root.holds path, .notFound)]
  | rename path newName =>
    let path := Path.normalize path
    [(isProtected path, .protectedPath),
     (path = Path.root || !Name.isValid newName, .invalidName),
     (!root.holds path, .notFound),
     (root.holds (Path.join (Path.split path).1 newName), .alreadyExists)]
  | move source newParent =>
    let source := Path.normalize source
    let newParent := Path.normalize newParent
    [(isProtected source || isProtected newParent, .protectedPath),
     (!root.holds source || !root.holds newParent, .notFound),
     (root.holdsFile newParent, .typeMismatch),
     ((Path.segments source).isPrefixOf (Path.segments newParent), .cycle),
     ((Path.split source).1 = newParent, .sameParent),
     (root.holds (Path.join newParent (Path.split source).2), .alreadyExists)]
  | copy source newParent =>
    let source := Path.normalize source
    let newParent := Path.normalize newParent
    [(isProtected newParent, .protectedPath),
     (!root.holds source || !root.holds newParent, .notFound),
     (root.holdsFile newParent, .typeMismatch),
     ((Path.segments source).isPrefixOf (Path.segments newParent), .cycle)]

/-- Whether the change brings content that has no size. -/
def isUnsized : Mutation → Bool
  | write _ content => VirtualShell.isUnsized content
  | createFile _ _ content => VirtualShell.isUnsized content
  | _ => false

/-- The first objection that holds decides. -/
def decision (root : Node) (m : Mutation) : Decision :=
  match (m.objections root).find? (·.1) with
  | some objection => .refused objection.2
  | none => if m.isUnsized then .unsized else .made

end Mutation

/-! ## Verdicts and the table -/

/-- The decision that a verdict comes to. -/
def Verdict.decision : Verdict → Decision
  | accepted _ => .made
  | refused reason => .refused reason
  | guarded => .refused .protectedPath
  | unencodable _ => .unsized

namespace Node

variable {root : Node}

/-- What is an entry of a directory is at the path that its name makes. -/
theorem has_eq_holds {parent name dirName p : Text} {mtime : Float} {children : List (Text × Node)}
    (hp : Path.IsNormal parent) (hn : Name.IsProper name)
    (hl : root.lookup parent = some (.directory dirName p mtime children)) :
    Entries.has name children = root.holds (Path.join parent name) := by
  rw [holds, ← root.childAt_eq_lookup hp hn, childAt, directoryAt, hl]
  rfl

end Node

namespace Mutation

variable {now : Float} {root : Node}

/-- The one proof for the two kinds of new nodes. Making the node fails just if the content that
the change brings has no size. -/
theorem decision_create {m : Mutation} {parent name : Text} {make : Text → Except Text Node}
    (hobjections : m.objections root = creationObjections root parent name)
    (hmake : ∀ path, (make path).isOk = !m.isUnsized) :
    (create now root parent name make).decision = m.decision root := by
  have hp := Path.isNormal_normalize parent
  rw [decision, hobjections]
  simp only [create, creationObjections]
  by_cases hn : Name.isValid name = true
  · by_cases hg : isProtected (Path.join (Path.normalize parent) name) = true
    · simp [hn, hg, Verdict.decision]
    · cases hl : root.lookup (Path.normalize parent) with
      | none => simp [hn, hg, hl, Node.holds, Verdict.decision]
      | some n =>
        cases n with
        | file => simp [hn, hg, hl, Node.holds, Node.holdsFile, Node.isDirectory, Verdict.decision]
        | directory dirName p mtime children =>
          have hhas := Node.has_eq_holds hp (Name.isValid_iff.mp hn) hl
          have hmade := hmake (Path.join (Path.normalize parent) name)
          have hdir : root.holdsFile (Path.normalize parent) = false := by
            simp [Node.holdsFile, hl, Node.isDirectory]
          have hheld : root.holds (Path.normalize parent) = true := by simp [Node.holds, hl]
          by_cases hk : root.holds (Path.join (Path.normalize parent) name) = true
          · simp [hn, hg, hhas, hheld, hdir, hk, Verdict.decision]
          · cases hmk : make (Path.join (Path.normalize parent) name) <;>
              simp_all [Verdict.decision, Except.isOk, Except.toBool]
  · simp [hn, Verdict.decision]

theorem decision_write (path content : Text) :
    ((write path content).verdict now root).decision = (write path content).decision root := by
  simp only [verdict, decision, objections, isUnsized]
  by_cases hg : isProtected (Path.normalize path) = true
  · simp [hg, Verdict.decision]
  · cases hl : root.lookup (Path.normalize path) with
    | none => simp [hg, hl, Node.holds, Verdict.decision]
    | some n =>
      cases n with
      | directory =>
        simp [hg, hl, Node.holds, Node.holdsDirectory, Node.isDirectory, Verdict.decision]
      | file =>
        have hu := isUnsized_eq_isNone content
        cases hs : contentSize? content <;> rw [hs] at hu <;>
          simp [hg, hl, hu, Node.holds, Node.holdsDirectory, Node.isDirectory, Verdict.decision]

/-- Only the root has no name. -/
theorem name_eq_nil_iff {path parent name : Text}
    (hs : Path.split (Path.normalize path) = (parent, name)) :
    name = [] ↔ Path.normalize path = Path.root := by
  rcases (Path.isNormal_normalize path).split_cases with
    ⟨hroot, hsplit⟩ | ⟨p, nm, -, hproper, hsplit, hsegs, -⟩
  · rw [hsplit, Prod.mk.injEq] at hs
    exact iff_of_true hs.2.symm hroot
  · rw [hsplit, Prod.mk.injEq] at hs
    refine iff_of_false (hs.2 ▸ hproper.1) fun hroot => ?_
    rw [hroot, Path.segments_root] at hsegs
    simp at hsegs

theorem decision_delete (path : Text) :
    ((delete path).verdict now root).decision = (delete path).decision root := by
  simp only [verdict, decision, objections, isUnsized]
  generalize hs : Path.split (Path.normalize path) = parts
  obtain ⟨parent, name⟩ := parts
  by_cases hg : isProtected (Path.normalize path) = true
  · simp [hg, Verdict.decision]
  · by_cases hname : name = []
    · have hroot := (name_eq_nil_iff hs).mp hname
      rw [hroot] at hg ⊢
      simp [hg, hname, Verdict.decision]
    · have hroot : Path.normalize path ≠ Path.root := fun e => hname ((name_eq_nil_iff hs).mpr e)
      have hchild := root.childAt_of_split hs hname
      cases hl : root.lookup path <;>
        simp [hg, hname, hroot, hchild, hl, Node.holds, Verdict.decision]

theorem decision_rename (path newName : Text) :
    ((rename path newName).verdict now root).decision = (rename path newName).decision root := by
  simp only [verdict, decision, objections, isUnsized]
  generalize hs : Path.split (Path.normalize path) = parts
  obtain ⟨parent, name⟩ := parts
  by_cases hg : isProtected (Path.normalize path) = true
  · simp [hg, Verdict.decision]
  · by_cases hname : name = []
    · have hroot := (name_eq_nil_iff hs).mp hname
      rw [hroot] at hg ⊢
      simp [hg, hname, Verdict.decision]
    · have hroot : Path.normalize path ≠ Path.root := fun e => hname ((name_eq_nil_iff hs).mpr e)
      by_cases hnew : Name.isValid newName = true
      · have hchild := root.childAt_of_split hs hname
        have hsibling := root.childAt_eq_lookup (Path.isNormal_split hs) (Name.isValid_iff.mp hnew)
        cases hl : root.lookup path <;> cases hl' : root.lookup (Path.join parent newName) <;>
          simp [hg, hname, hroot, hnew, hchild, hsibling, hl, hl', Node.holds, Verdict.decision]
      · simp [hg, hname, hroot, hnew, Verdict.decision]

/-- Lying within on the text of paths is being a beginning on their names. -/
theorem isWithin_eq_isPrefixOf (path above : Text) :
    Path.isWithin (Path.normalize path) (Path.normalize above) =
      (Path.segments (Path.normalize above)).isPrefixOf (Path.segments (Path.normalize path)) := by
  rw [Bool.eq_iff_iff, List.isPrefixOf_iff_prefix]
  exact (Path.isNormal_normalize path).isWithin_iff (Path.isNormal_normalize above)

theorem decision_move (source newParent : Text) :
    ((move source newParent).verdict now root).decision = (move source newParent).decision root := by
  simp only [verdict, decision, objections, isUnsized]
  generalize hs : Path.split (Path.normalize source) = parts
  obtain ⟨oldParent, name⟩ := parts
  by_cases hg : (isProtected (Path.normalize source) || isProtected (Path.normalize newParent)) = true
  · simp [hg, Verdict.decision]
  cases hsource : root.lookup source with
  | none => simp [hg, hsource, Node.holds, Verdict.decision]
  | some node =>
    cases hdest : root.lookup newParent with
    | none => simp [hg, hsource, hdest, Node.holds, Verdict.decision]
    | some d =>
      cases d with
      | file =>
        simp [hg, hsource, hdest, Node.holds, Node.holdsFile, Node.isDirectory, Verdict.decision]
      | directory dirName p mtime children =>
        have hfile : root.holdsFile (Path.normalize newParent) = false := by
          simp [Node.holdsFile, hdest, Node.isDirectory]
        have hheld : (!root.holds (Path.normalize source) ||
            !root.holds (Path.normalize newParent)) = false := by
          simp [Node.holds, hsource, hdest]
        have hwithin := isWithin_eq_isPrefixOf newParent source
        by_cases hw : Path.isWithin (Path.normalize newParent) (Path.normalize source) = true
        · have hprefix := hwithin.symm.trans hw
          simp [hg, hsource, hdest, hheld, hfile, hw, hprefix, Verdict.decision]
        · rw [Bool.not_eq_true] at hw
          have hprefix := hwithin.symm.trans hw
          by_cases hsame : oldParent = Path.normalize newParent
          · simp [hg, hsource, hdest, hheld, hfile, hw, hprefix, hsame, Verdict.decision]
          · -- the source is not the root, so it is a child of the directory that it lies in
            have hname := isProper_of_isWithin_eq_false hs hw
            have hchild := (root.childAt_of_split hs hname.1).trans hsource
            have hdirectory := (root.lookup_normalize newParent).trans hdest
            have hhas := Node.has_eq_holds (Path.isNormal_normalize newParent) hname hdirectory
            by_cases hk : root.holds (Path.join (Path.normalize newParent) name) = true <;>
              simp [hg, hsource, hdest, hheld, hfile, hw, hprefix, hsame, hchild, hhas, hk,
                Verdict.decision]

theorem decision_copy (source newParent : Text) :
    ((copy source newParent).verdict now root).decision = (copy source newParent).decision root := by
  simp only [verdict, decision, objections, isUnsized]
  by_cases hg : isProtected (Path.normalize newParent) = true
  · simp [hg, Verdict.decision]
  cases hsource : root.lookup source with
  | none => simp [hg, hsource, Node.holds, Verdict.decision]
  | some node =>
    cases hdest : root.lookup newParent with
    | none => simp [hg, hsource, hdest, Node.holds, Verdict.decision]
    | some d =>
      cases d with
      | file =>
        simp [hg, hsource, hdest, Node.holds, Node.holdsFile, Node.isDirectory, Verdict.decision]
      | directory dirName p mtime children =>
        have hwithin := isWithin_eq_isPrefixOf newParent source
        cases hw : Path.isWithin (Path.normalize newParent) (Path.normalize source) <;>
          rw [hw] at hwithin <;>
          simp [hg, hsource, hdest, ← hwithin, Node.holds, Node.holdsFile, Node.isDirectory,
            Verdict.decision]

/-- Whatever the tree and however the paths are spelt, a verdict comes to what the table says. -/
theorem decision_verdict (now : Float) (root : Node) (m : Mutation) :
    (m.verdict now root).decision = m.decision root := by
  cases m with
  | write path content => exact decision_write path content
  | createFile parent name content =>
    rw [verdict]
    refine decision_create rfl fun path => ?_
    rw [Node.newFile?, isUnsized, isUnsized_eq_isNone]
    cases contentSize? content <;> rfl
  | createDirectory parent name =>
    rw [verdict]
    exact decision_create rfl fun path => rfl
  | delete path => exact decision_delete path
  | rename path newName => exact decision_rename path newName
  | move source newParent => exact decision_move source newParent
  | copy source newParent => exact decision_copy source newParent

end Mutation

/-! ## Calls -/

namespace Volume

variable {v w : Volume}

/-- A volume whose next snapshot is taken by the store, whatever it says. -/
def IsWritable (v : Volume) : Prop := ∀ s : Snapshot, (v.store.write v.key s.write).1 = .ok ()

theorem outcome_of_isWritable (h : v.IsWritable) (hstore : w.store = v.store)
    (hkey : w.key = v.key) : w.outcome = .ok () := by
  rw [outcome, hstore, hkey, toJson, h w.snapshot]
  rfl

/-- The volume is under the key of the other and its store is that of the other with the volume
written to it, once. -/
def IsWrittenFrom (v w : Volume) : Prop :=
  w.key = v.key ∧ w.store = (v.store.write v.key w.toJson).2

/-- What a decision on a change means for the call that asks for it: its answer, and what is
afterwards where `v` was. A change that is made is written, and so is the mark for damage that goes
with a refusal over the protected directory; any other refusal touches nothing but the reason, and
content without a size nothing at all. -/
def IsCarriedOut (now : Float) (m : Mutation) (v : Volume) (reply : Except Fault Bool × Volume) :
    Decision → Prop
  | .made => reply.1 = .ok true ∧ Mutation.Effect now v.root m reply.2.root ∧
      reply.2.corrupted = v.corrupted ∧ reply.2.lastError = none ∧ v.IsWrittenFrom reply.2
  | .refused .protectedPath => reply.1 = .ok false ∧ reply.2.root = v.root ∧
      reply.2.corrupted = true ∧ reply.2.lastError = some .protectedPath ∧
      v.IsWrittenFrom reply.2
  | .refused reason => reply.1 = .ok false ∧ reply.2 = { v with lastError := some reason }
  | .unsized => (∃ content, reply.1 = .error (.unencodable content)) ∧ reply.2 = v

/-- Every call for a change ends as the table says, as long as the store takes what is written: it
is made, written and answered with yes, or it is refused for the first reason that there is against
it and the tree stays; content without a size is a fault, and then all stays. -/
theorem isCarriedOut_apply (now : Float) (m : Mutation) (h : v.IsWritable) :
    IsCarriedOut now m v (apply now m v) (m.decision v.root) := by
  have happly : apply now m v = settle (m.verdict now v.root) v := rfl
  rw [happly, ← Mutation.decision_verdict now]
  cases hm : m.verdict now v.root with
  | accepted root =>
    have heffect := Mutation.effect_of_accepted hm
    have hwritten := outcome_of_isWritable h (w := v.accepting root) rfl rfl
    rw [settle_accepted, hwritten]
    exact ⟨rfl, heffect, rfl, rfl, rfl, rfl⟩
  | refused reason =>
    have hne := Mutation.ne_protectedPath_of_refused hm
    rw [settle_refused]
    cases reason with
    | protectedPath => exact absurd rfl hne
    | _ => exact ⟨rfl, rfl⟩
  | guarded =>
    have hwritten := outcome_of_isWritable h (w := v.marked) rfl rfl
    rw [settle_guarded, hwritten]
    exact ⟨rfl, rfl, rfl, rfl, rfl, rfl⟩
  | unencodable content =>
    rw [settle_unencodable]
    exact ⟨⟨content, rfl⟩, rfl⟩

/-- A directory does not go below itself, however that is spelt, a copy beside its source finds a
name, and what is protected stays; all are asked of a volume over a store in memory. -/
theorem isCarriedOut_apply_at_documents :
    let v : Volume := ⟨Node.defaultTree 0, false, none, Store.empty, defaultKey⟩
    let below : Mutation := .move "/Documents/." "Desktop/../Documents"
    let beside : Mutation := .copy "/Documents/welcome.txt" "//Documents"
    let guarded : Mutation := .delete "/System/kernel.bin"
    v.IsWritable ∧
      (apply 1 below v).1 = .ok false ∧ (apply 1 below v).2.lastError = some .cycle ∧
      (apply 1 below v).2.root = v.root ∧ (apply 1 below v).2.store = v.store ∧
      (apply 1 beside v).1 = .ok true ∧ (apply 1 beside v).2.lastError = none ∧
      (apply 1 guarded v).1 = .ok false ∧ (apply 1 guarded v).2.corrupted = true ∧
      (apply 1 guarded v).2.store.writes = 1 := by
  intro v below beside guarded
  have h : v.IsWritable := fun _ => rfl
  have hbelow := isCarriedOut_apply 1 below h
  rw [show below.decision v.root = .refused .cycle by decide +kernel] at hbelow
  have hbeside := isCarriedOut_apply 1 beside h
  rw [show beside.decision v.root = .made by decide +kernel] at hbeside
  have hguarded := isCarriedOut_apply 1 guarded h
  rw [show guarded.decision v.root = .refused .protectedPath by decide +kernel] at hguarded
  obtain ⟨hno, hsame⟩ := hbelow
  obtain ⟨hyes, -, -, hnone, -⟩ := hbeside
  obtain ⟨hheld, -, hmark, -, -, hstore⟩ := hguarded
  refine ⟨h, hno, ?_, ?_, ?_, hyes, hnone, hheld, hmark, ?_⟩
  · rw [hsame]
  · rw [hsame]
  · rw [hsame]
  · rw [hstore]
    rfl

/-- Half a surrogate pair as the content of a file that is there: nothing stands against the
change, and yet the call does not come back with an answer. -/
theorem not_made_of_lone_surrogate :
    let v : Volume := ⟨Node.defaultTree 0, false, none, Store.empty, defaultKey⟩
    let content : Text := [CodePoint.ofNat 0xD800]
    let m : Mutation := .write "/Documents/welcome.txt" content
    load 0 Store.empty defaultKey = .ok v ∧ v.IsWritable ∧
      (m.objections v.root).find? (·.1) = none ∧
      apply 1 m v = (.error (.unencodable content), v) := by
  intro v content m
  exact ⟨rfl, fun _ => rfl, by decide +kernel, rfl⟩

end Volume

end VirtualShell
