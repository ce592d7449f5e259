import VirtualShell.Proofs.FileSystem.Decision
import VirtualShell.Proofs.FileSystem.Edited
/-
  Putting output into a file, by what stands at its path.

  The file is overwritten if it is there and created if not, so two kinds of changes are at work.
  `Node.redirection` says for every path what it comes to, in five cases, by looking at the path and
  at the directory that it is in; `isRuled_output` says that the verdict on the change is the one
  that the case stands for, whichever of the two kinds it is.
-/

namespace VirtualShell

/-- What putting output into a file comes to. -/
inductive Redirection where
  | writeProtected
  | isDirectory
  | overwritten
  | created
  | noDirectory
  deriving DecidableEq, Repr

namespace Redirection

/-- Whether it is tried to write a snapshot. -/
def writes : Redirection → Bool
  | isDirectory | noDirectory => false
  | _ => true

/-- Whether the output becomes the content of a file. -/
def storesOutput : Redirection → Bool
  | overwritten | created => true
  | _ => false

/-- What becomes of the tree. -/
def Edits (now : Float) (path content : Text) (before after : Node) : Redirection → Prop
  | overwritten => ∃ size, contentSize? content = some size ∧
      Node.IsRewriting now before path content size after
  | created => ∃ size, contentSize? content = some size ∧
      Node.IsAddition now before (Path.split path).1 (Path.split path).2
        ⟨false, (Path.split path).2, path, now, size, some content, []⟩ after
  | _ => after = before

/-- The verdicts that the change may get. -/
inductive IsRuled (now : Float) (path content : Text) (root : Node) : Redirection → Verdict → Prop
  | guarded : IsRuled now path content root .writeProtected .guarded
  | refused {d : Redirection} {reason : Refusal} :
    d.writes = false → reason ≠ .protectedPath → IsRuled now path content root d (.refused reason)
  | accepted {d : Redirection} {new : Node} :
    d.storesOutput = true → d.Edits now path content root new →
    IsRuled now path content root d (.accepted new)
  | unsized {d : Redirection} {t : Text} :
    d.storesOutput = true → isUnsized content = true →
    IsRuled now path content root d (.unencodable t)

end Redirection

/-- What it comes to for the file at a path. -/
def Node.redirection (root : Node) (path : Text) : Redirection :=
  if isProtected path then .writeProtected
  else match root.lookup path with
    | some (.directory ..) => .isDirectory
    | some (.file ..) => .overwritten
    | none => if root.holdsDirectory (Path.split path).1 then .created else .noDirectory

theorem Node.isSome_directoryAt (root : Node) (path : Text) :
    (root.directoryAt path).isSome = root.holdsDirectory path := by
  rw [directoryAt, holdsDirectory]
  cases root.lookup path with
  | none => rfl
  | some n => cases n <;> rfl

/-- The change that puts output into the file at a path. -/
def Mutation.output (root : Node) (path content : Text) : Mutation :=
  if (root.lookup path).isSome then .write path content
  else .createFile (Path.split path).1 (Path.split path).2 content

namespace Mutation

variable {now : Float} {root : Node} {m : Mutation} {path content : Text}

/-! ## What a decision says of the verdict -/

theorem verdict_of_refused {reason : Refusal} (h : m.decision root = .refused reason) :
    m.verdict now root = if reason = .protectedPath then .guarded else .refused reason := by
  rw [← decision_verdict now] at h
  cases hv : m.verdict now root with
  | accepted | unencodable =>
    rw [hv] at h
    cases h
  | guarded =>
    rw [hv] at h
    cases h
    rfl
  | refused r =>
    rw [hv] at h
    cases h
    rw [if_neg (ne_protectedPath_of_refused hv)]

theorem verdict_of_made (h : m.decision root = .made) :
    ∃ new, m.verdict now root = .accepted new ∧ Effect now root m new := by
  rw [← decision_verdict now] at h
  cases hv : m.verdict now root with
  | accepted new => exact ⟨new, rfl, effect_of_accepted hv⟩
  | refused | guarded | unencodable =>
    rw [hv] at h
    cases h

theorem verdict_of_unsized (h : m.decision root = .unsized) :
    ∃ t, m.verdict now root = .unencodable t := by
  rw [← decision_verdict now] at h
  cases hv : m.verdict now root with
  | unencodable t => exact ⟨t, rfl⟩
  | accepted | refused | guarded =>
    rw [hv] at h
    cases h

/-! ## The verdict on output -/

theorem decision_write_of_lookup (hp : Path.IsNormal path) {n : Node}
    (hl : root.lookup path = some n) : (write path content).decision root =
      if isProtected path then .refused .protectedPath
      else if n.isDirectory then .refused .typeMismatch
      else if VirtualShell.isUnsized content then .unsized
      else .made := by
  have hobjections : (write path content).objections root =
      [(isProtected path, .protectedPath), (false, .notFound), (n.isDirectory, .typeMismatch)] := by
    simp [objections, hp.normalize_eq, Node.holds, Node.holdsDirectory, hl]
  rw [decision, hobjections]
  cases isProtected path <;> cases n.isDirectory <;> rfl

/-- Where nothing is at a path, it is not the root, and its last part is a name. -/
theorem eq_join_of_lookup_eq_none (hp : Path.IsNormal path) (hl : root.lookup path = none) :
    Path.IsNormal (Path.split path).1 ∧ Name.IsProper (Path.split path).2 ∧
      path = Path.join (Path.split path).1 (Path.split path).2 := by
  rcases hp.split_cases with ⟨rfl, -⟩ | ⟨parent, name, hparent, hname, hs, -, hjoin⟩
  · rw [Node.lookup_eq_at? root hp, Path.segments_root, Node.at?_nil] at hl
    cases hl
  · rw [hs]
    exact ⟨hparent, hname, hjoin⟩

theorem decision_createFile_of_lookup (hp : Path.IsNormal path) (hl : root.lookup path = none) :
    (createFile (Path.split path).1 (Path.split path).2 content).decision root =
      if isProtected path then .refused .protectedPath
      else if root.holdsDirectory (Path.split path).1 then
        if VirtualShell.isUnsized content then .unsized else .made
      else .refused (if root.holds (Path.split path).1 then .typeMismatch else .notFound) := by
  obtain ⟨hparent, hname, hjoin⟩ := eq_join_of_lookup_eq_none hp hl
  have hobjections :
      (createFile (Path.split path).1 (Path.split path).2 content).objections root =
        [(false, .invalidName), (isProtected path, .protectedPath),
          (!root.holds (Path.split path).1, .notFound),
          (root.holdsFile (Path.split path).1, .typeMismatch), (false, .alreadyExists)] := by
    have hfree : root.holds path = false := by rw [Node.holds, hl]; rfl
    rw [objections, creationObjections, hparent.normalize_eq, ← hjoin,
      Name.isValid_iff.mpr hname, hfree]
    rfl
  rw [decision, hobjections, Node.holds, Node.holdsFile, Node.holdsDirectory]
  cases isProtected path with
  | true => rfl
  | false =>
    cases root.lookup (Path.split path).1 with
    | none => rfl
    | some d => cases d <;> rfl

open Redirection (IsRuled)

theorem isRuled_of_refused {d : Redirection} {reason : Refusal} (hw : d.writes = false)
    (hne : reason ≠ .protectedPath) (hd : m.decision root = .refused reason) :
    IsRuled now path content root d (m.verdict now root) := by
  rw [verdict_of_refused hd, if_neg hne]
  exact .refused hw hne

theorem isRuled_of_protected (hd : m.decision root = .refused .protectedPath) :
    IsRuled now path content root .writeProtected (m.verdict now root) := by
  rw [verdict_of_refused hd, if_pos rfl]
  exact .guarded

/-- Where nothing stands against the change, its content decides. -/
theorem isRuled_of_made_or_unsized {d : Redirection} (hs : d.storesOutput = true)
    (hedits : ∀ new, Effect now root m new → d.Edits now path content root new)
    (hd : m.decision root = if VirtualShell.isUnsized content then .unsized else .made) :
    IsRuled now path content root d (m.verdict now root) := by
  by_cases hu : VirtualShell.isUnsized content = true
  · rw [if_pos hu] at hd
    obtain ⟨t, hv⟩ : ∃ t, m.verdict now root = .unencodable t := verdict_of_unsized hd
    rw [hv]
    exact .unsized hs hu
  · rw [if_neg hu] at hd
    obtain ⟨new, hv, heffect⟩ : ∃ new, m.verdict now root = .accepted new ∧ Effect now root m new :=
      verdict_of_made hd
    rw [hv]
    exact .accepted hs (hedits new heffect)

theorem isRuled_write (now : Float) (hp : Path.IsNormal path) (content : Text) {n : Node}
    (hl : root.lookup path = some n) : IsRuled now path content root (root.redirection path)
      ((write path content).verdict now root) := by
  have hd : (write path content).decision root = _ := decision_write_of_lookup hp hl
  rw [Node.redirection]
  by_cases hg : isProtected path = true
  · rw [if_pos hg] at hd ⊢
    exact isRuled_of_protected hd
  · rw [if_neg hg] at hd ⊢
    rw [hl]
    cases n with
    | directory =>
      have hd : (write path content).decision root = .refused .typeMismatch := hd
      exact isRuled_of_refused rfl (by decide) hd
    | file =>
      refine isRuled_of_made_or_unsized rfl (fun new heffect => ?_) hd
      have hwritten := heffect.isRewriting
      rw [hp.normalize_eq] at hwritten
      exact hwritten

theorem isRuled_createFile (now : Float) (hp : Path.IsNormal path) (content : Text)
    (hl : root.lookup path = none) : IsRuled now path content root (root.redirection path)
      ((createFile (Path.split path).1 (Path.split path).2 content).verdict now root) := by
  obtain ⟨hparent, -, hjoin⟩ := eq_join_of_lookup_eq_none hp hl
  have hd : (createFile (Path.split path).1 (Path.split path).2 content).decision root = _ :=
    decision_createFile_of_lookup hp hl
  rw [Node.redirection]
  by_cases hg : isProtected path = true
  · rw [if_pos hg] at hd ⊢
    exact isRuled_of_protected hd
  · rw [if_neg hg] at hd ⊢
    rw [hl]
    dsimp only
    by_cases hdir : root.holdsDirectory (Path.split path).1 = true
    · rw [if_pos hdir] at hd ⊢
      refine isRuled_of_made_or_unsized rfl (fun new heffect => ?_) hd
      have hadded := heffect.isAddition_createFile
      rw [hparent.normalize_eq, ← hjoin] at hadded
      exact hadded
    · rw [if_neg hdir] at hd ⊢
      refine isRuled_of_refused rfl ?_ hd
      split <;> nofun

/-- The verdict on the change that puts output into a file is that of the case it falls in. -/
theorem isRuled_output (now : Float) (root : Node) (hp : Path.IsNormal path) (content : Text) :
    IsRuled now path content root (root.redirection path)
      ((output root path content).verdict now root) := by
  rw [output]
  cases hl : root.lookup path with
  | none => exact isRuled_createFile now hp content hl
  | some n => exact isRuled_write now hp content hl

end Mutation

end VirtualShell
