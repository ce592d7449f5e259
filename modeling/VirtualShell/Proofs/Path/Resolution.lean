import VirtualShell.Proofs.Path
/-
  Resolving, path by path.

  A path works on the names of the directory that it is resolved in, or on none if it starts at the
  root, and it works from left to right. So what two paths do one after the other is what they do
  as one, and it does not matter that two dots may come to stand at the root on the way. What has
  been resolved starts at the root and is the same in every directory.
-/

namespace VirtualShell.Path

variable {path cwd : Text}

theorem segments_resolve (path : Text) (h : IsNormal cwd) :
    segments (resolve path cwd) = resolved path cwd :=
  segments_render (isProper_of_mem_resolved h)

/-! ## Paths from the root -/

theorem isAbsolute_render (names : List Text) : isAbsolute (render names) = true := rfl

theorem isAbsolute_append (h : path ≠ []) (more : Text) :
    isAbsolute (path ++ more) = isAbsolute path := by
  obtain ⟨c, rest, rfl⟩ := List.exists_cons_of_ne_nil h
  rfl

/-- A path from the root means the same in every directory. -/
theorem resolve_of_isAbsolute (h : isAbsolute path = true) (cwd : Text) :
    resolve path cwd = normalize path := by
  rw [resolve_eq_render, resolved, if_pos h, normalize_eq]
  rfl

/-- What has been resolved means the same in every directory. -/
theorem resolve_resolve (path d : Text) (h : IsNormal cwd) :
    resolve (resolve path cwd) d = resolve path cwd := by
  have habsolute : isAbsolute (resolve path cwd) = true := isAbsolute_render _
  rw [resolve_of_isAbsolute habsolute, (isNormal_resolve path h).normalize_eq]

/-! ## One path after another -/

theorem resolved_append (hp : path ≠ []) {more : Text} (hm : isAbsolute more = false)
    (h : IsNormal cwd) :
    resolved (path ++ "/" ++ more) cwd = resolved more (resolve path cwd) := by
  have hsegments : segments (path ++ "/" ++ more) = segments path ++ segments more := by
    rw [List.append_assoc]
    exact segments_append_slash path more
  have hstart : isAbsolute (path ++ "/" ++ more) = isAbsolute path := by
    rw [List.append_assoc, isAbsolute_append hp]
  have hnames : resolved more (resolve path cwd) =
      ((segments more).foldl step (resolved path cwd).reverse).reverse := by
    rw [resolved, hm, if_neg (by simp), segments_resolve path h]
  rw [hnames, resolved, hsegments, hstart, List.foldl_append, resolved, List.reverse_reverse]

/-- Going to one path and on to another leads where the two lead as one. -/
theorem resolve_append (hp : path ≠ []) {more : Text} (hm : isAbsolute more = false)
    (h : IsNormal cwd) :
    resolve (path ++ "/" ++ more) cwd = resolve more (resolve path cwd) := by
  rw [resolve_eq_render, resolved_append hp hm h, resolve_eq_render more]

/-! ## The result -/

/-- In a normal directory every path means a normal one, and this means itself everywhere. The
paths that mean themselves from the root are just the normal ones, a path from the root means the
same in every directory, and it makes no difference whether a directory is gone to step by step or
at once. -/
theorem resolve_stepwise {cwd : Text} (h : IsNormal cwd) (path : Text) :
    IsNormal (resolve path cwd) ∧
      (∀ d, resolve (resolve path cwd) d = resolve path cwd) ∧
      (∀ x, normalize x = x ↔ IsNormal x) ∧
      (isAbsolute path = true → ∀ d, resolve path d = normalize path) ∧
      (path ≠ [] → ∀ more, isAbsolute more = false →
        resolve more (resolve path cwd) = resolve (path ++ "/" ++ more) cwd) :=
  ⟨isNormal_resolve path h, fun d => resolve_resolve path d h, fun _ => isNormal_iff.symm,
    resolve_of_isAbsolute, fun hp _ hm => (resolve_append hp hm h).symm⟩

/-- The way up ends at the root before the second path goes on, and yet nothing of it is left
over. -/
theorem resolve_stepwise_past_root :
    IsNormal "/home/ann" ∧
      resolve "b/../../../.." "/home/ann" = root ∧
      resolve "../c//." (resolve "b/../../../.." "/home/ann") = "/c" ∧
      resolve ("b/../../../.." ++ "/" ++ "../c//.") "/home/ann" = "/c" := by
  have hcwd : IsNormal "/home/ann" := isNormal_iff.mpr (by decide)
  obtain ⟨-, -, -, -, hsteps⟩ := resolve_stepwise hcwd "b/../../../.."
  have hlast : resolve "../c//." (resolve "b/../../../.." "/home/ann") = "/c" := by decide
  exact ⟨hcwd, by decide, hlast, (hsteps (by decide) "../c//." (by decide)).symm.trans hlast⟩

end VirtualShell.Path
