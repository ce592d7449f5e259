import VirtualShell.Name
import VirtualShell.Path
import VirtualShell.Proofs.Text
/-
  The algebra of normal paths.

  A normal path is a list of proper names, each with a slash in front. On such paths
  text and list say the same: `segments` reads the list back, `join` adds a name at
  the end, `split` takes the last one off, and `isWithin` asks for a prefix. Everything
  that `resolve` gives is normal, so what is decided on the text of a resolved path is
  decided on its names.
-/

namespace VirtualShell

/-- A text that can be the name of a node. -/
def Name.IsProper (name : Text) : Prop :=
  name ≠ [] ∧ CodePoint.ofChar '/' ∉ name ∧ name ≠ "." ∧ name ≠ ".."

theorem Name.isValid_iff {name : Text} : isValid name = true ↔ IsProper name := by
  simp [isValid, IsProper, and_assoc]

namespace Path

/-- The text of the names, each with a slash in front. -/
def slashed (names : List Text) : Text := names.flatMap fun name => CodePoint.ofChar '/' :: name

/-- A path that is the root or made of proper names. -/
def IsNormal (path : Text) : Prop :=
  ∃ names, (∀ name ∈ names, Name.IsProper name) ∧ path = render names

@[simp] theorem slashed_nil : slashed [] = [] := rfl

@[simp] theorem slashed_cons (name : Text) (names : List Text) :
    slashed (name :: names) = CodePoint.ofChar '/' :: name ++ slashed names := rfl

theorem slashed_append (names more : List Text) :
    slashed (names ++ more) = slashed names ++ slashed more := by
  simp [slashed]

@[simp] theorem render_nil : render [] = root := rfl

theorem render_eq_slashed {names : List Text} (h : names ≠ []) : render names = slashed names := by
  induction names with
  | nil => exact absurd rfl h
  | cons name rest ih =>
    cases rest with
    | nil => simp [render, Text.ofString]
    | cons next more =>
      have ih := ih (by simp)
      simp only [render] at ih ⊢
      rw [Text.join_cons_cons, slashed_cons, ← ih]
      simp [Text.ofString]

/-! ## Reading the names back -/

theorem segments_append_slash (before after : Text) :
    segments (before ++ CodePoint.ofChar '/' :: after) = segments before ++ segments after := by
  simp [segments, Text.splitOn_append_cons]

theorem segments_of_not_mem {t : Text} (hne : t ≠ []) (h : CodePoint.ofChar '/' ∉ t) :
    segments t = [t] := by
  simp [segments, Text.splitOn_of_not_mem h, hne]

@[simp] theorem segments_nil : segments [] = [] := rfl

theorem segments_slash_cons (t : Text) : segments (CodePoint.ofChar '/' :: t) = segments t :=
  segments_append_slash [] t

theorem slashed_append_slash (names : List Text) (after : Text) :
    ∃ t, slashed names ++ CodePoint.ofChar '/' :: after = CodePoint.ofChar '/' :: t := by
  cases names with
  | nil => exact ⟨after, rfl⟩
  | cons name rest => exact ⟨_, rfl⟩

theorem segments_slashed_append {names : List Text} (h : ∀ name ∈ names, Name.IsProper name)
    (after : Text) : segments (slashed names ++ CodePoint.ofChar '/' :: after) =
      names ++ segments after := by
  induction names with
  | nil => exact segments_slash_cons after
  | cons name rest ih =>
    have hn := h name List.mem_cons_self
    have ih := ih fun n hm => h n (List.mem_cons_of_mem _ hm)
    obtain ⟨t, ht⟩ := slashed_append_slash rest after
    rw [ht, segments_slash_cons] at ih
    rw [slashed_cons, List.append_assoc, ht, List.cons_append, segments_slash_cons,
      segments_append_slash, segments_of_not_mem hn.1 hn.2.1, ih]
    rfl

theorem segments_render {names : List Text} (h : ∀ name ∈ names, Name.IsProper name) :
    segments (render names) = names := by
  cases names with
  | nil => rfl
  | cons name rest =>
    have hs := segments_slashed_append h []
    rw [segments_append_slash, segments_nil, List.append_nil, List.append_nil] at hs
    rw [render_eq_slashed (by simp), hs]

theorem isProper_of_mem_segments {t : Text} {names : List Text}
    (h : ∀ name ∈ names, Name.IsProper name) (ht : t ∈ segments (render names)) :
    Name.IsProper t := by
  rw [segments_render h] at ht
  exact h t ht

/-! ## Resolving -/

theorem isProper_of_mem_step {stack : List Text} {segment : Text}
    (hs : ∀ name ∈ stack, Name.IsProper name) (hne : segment ≠ [])
    (hslash : CodePoint.ofChar '/' ∉ segment) :
    ∀ name ∈ step stack segment, Name.IsProper name := by
  intro name hn
  unfold step at hn
  split at hn
  · exact hs name hn
  · split at hn
    · exact hs name (List.mem_of_mem_tail hn)
    · rename_i hdot hdots
      rcases List.mem_cons.mp hn with rfl | hn
      · exact ⟨hne, hslash, hdot, hdots⟩
      · exact hs name hn

theorem isProper_of_mem_foldl_step {parts stack : List Text}
    (hs : ∀ name ∈ stack, Name.IsProper name)
    (hp : ∀ part ∈ parts, part ≠ [] ∧ CodePoint.ofChar '/' ∉ part) :
    ∀ name ∈ parts.foldl step stack, Name.IsProper name := by
  induction parts generalizing stack with
  | nil => exact hs
  | cons part rest ih =>
    obtain ⟨hne, hslash⟩ := hp part List.mem_cons_self
    rw [List.foldl_cons]
    exact ih (isProper_of_mem_step hs hne hslash) fun q hq => hp q (List.mem_cons_of_mem _ hq)

theorem plain_of_mem_segments {t part : Text} (h : part ∈ segments t) :
    part ≠ [] ∧ CodePoint.ofChar '/' ∉ part := by
  rw [segments, List.mem_filter] at h
  exact ⟨by simpa using h.2, Text.not_mem_of_mem_splitOn h.1⟩

theorem isNormal_render {names : List Text} (h : ∀ name ∈ names, Name.IsProper name) :
    IsNormal (render names) := ⟨names, h, rfl⟩

theorem isNormal_root : IsNormal root := ⟨[], by simp, rfl⟩

/-- The names that a path leads to from a working directory. -/
def resolved (path cwd : Text) : List Text :=
  ((segments path).foldl step (if isAbsolute path then [] else segments cwd).reverse).reverse

theorem resolve_eq_render (path cwd : Text) : resolve path cwd = render (resolved path cwd) := rfl

theorem isProper_of_mem_resolved {path cwd : Text} (h : IsNormal cwd) :
    ∀ name ∈ resolved path cwd, Name.IsProper name := by
  obtain ⟨names, hn, rfl⟩ := h
  intro name hm
  refine isProper_of_mem_foldl_step (fun part hp => ?_) (fun _ => plain_of_mem_segments) name
    (List.mem_reverse.mp hm)
  rw [List.mem_reverse] at hp
  split at hp
  · simp at hp
  · exact isProper_of_mem_segments hn hp

theorem isNormal_resolve (path : Text) {cwd : Text} (h : IsNormal cwd) :
    IsNormal (resolve path cwd) := isNormal_render (isProper_of_mem_resolved h)

theorem isNormal_normalize (path : Text) : IsNormal (normalize path) :=
  isNormal_resolve _ isNormal_root

/-- The names on the way to a normal path. -/
theorem IsNormal.isProper_of_mem {path name : Text} (h : IsNormal path)
    (hm : name ∈ segments path) : Name.IsProper name := by
  obtain ⟨names, hn, rfl⟩ := h
  exact isProper_of_mem_segments hn hm

theorem IsNormal.render_segments {path : Text} (h : IsNormal path) :
    render (segments path) = path := by
  obtain ⟨names, hn, rfl⟩ := h
  rw [segments_render hn]

theorem IsNormal.segments_inj {path other : Text} (hp : IsNormal path) (ho : IsNormal other) :
    segments path = segments other ↔ path = other := by
  constructor
  · intro h
    rw [← hp.render_segments, h, ho.render_segments]
  · rintro rfl
    rfl

theorem foldl_step_of_isProper {names : List Text} (h : ∀ name ∈ names, Name.IsProper name)
    (stack : List Text) : names.foldl step stack = names.reverse ++ stack := by
  induction names generalizing stack with
  | nil => rfl
  | cons name rest ih =>
    obtain ⟨-, -, hdot, hdots⟩ := h name List.mem_cons_self
    rw [List.foldl_cons, ih (fun n hm => h n (List.mem_cons_of_mem _ hm)), step, if_neg hdot,
      if_neg hdots]
    simp

theorem normalize_eq (path : Text) :
    normalize path = render ((segments path).foldl step []).reverse := by
  have hs : segments (("/" : Text) ++ path) = segments path := segments_slash_cons path
  have ha : isAbsolute (("/" : Text) ++ path) = true := by simp [isAbsolute, Text.ofString]
  simp [normalize, resolve, hs, ha]

theorem IsNormal.normalize_eq {path : Text} (h : IsNormal path) : normalize path = path := by
  rw [Path.normalize_eq, foldl_step_of_isProper (fun _ => h.isProper_of_mem), List.append_nil,
    List.reverse_reverse, h.render_segments]

@[simp] theorem normalize_normalize (path : Text) : normalize (normalize path) = normalize path :=
  (isNormal_normalize path).normalize_eq

theorem isNormal_iff {path : Text} : IsNormal path ↔ normalize path = path :=
  ⟨IsNormal.normalize_eq, fun h => h ▸ isNormal_normalize path⟩

@[simp] theorem segments_root : segments root = [] := by decide

/-! ## Joining and splitting -/

theorem render_eq_root_iff {names : List Text} (h : ∀ name ∈ names, Name.IsProper name) :
    render names = root ↔ names = [] := by
  constructor
  · intro hr
    rw [← segments_render h, hr, segments_root]
  · rintro rfl
    rfl

theorem join_render {names : List Text} (h : ∀ name ∈ names, Name.IsProper name) (name : Text) :
    join (render names) name = render (names ++ [name]) := by
  have hne : names ++ [name] ≠ [] := by simp
  rw [render_eq_slashed hne, slashed_append, join]
  by_cases hr : render names = root
  · have hnil := (render_eq_root_iff h).mp hr
    subst hnil
    simp [Text.ofString]
  · have hne : names ≠ [] := fun e => hr ((render_eq_root_iff h).mpr e)
    rw [if_neg hr, render_eq_slashed hne]
    simp [Text.ofString]

theorem isNormal_join {path name : Text} (h : IsNormal path) (hn : Name.IsProper name) :
    IsNormal (join path name) := by
  obtain ⟨names, hnames, rfl⟩ := h
  refine ⟨names ++ [name], fun n hm => ?_, join_render hnames name⟩
  rcases List.mem_append.mp hm with hm | hm
  · exact hnames n hm
  · exact List.mem_singleton.mp hm ▸ hn

theorem IsNormal.segments_join {path name : Text} (h : IsNormal path) (hn : Name.IsProper name) :
    segments (Path.join path name) = segments path ++ [name] := by
  have hjoin := isNormal_join h hn
  obtain ⟨names, hnames, rfl⟩ := h
  rw [segments_render hnames]
  rw [join_render hnames] at hjoin ⊢
  refine segments_render fun n hm => ?_
  rcases List.mem_append.mp hm with hm | hm
  · exact hnames n hm
  · exact List.mem_singleton.mp hm ▸ hn

theorem split_root : split root = (root, []) := by decide

theorem split_render_append {names : List Text} {name : Text}
    (h : ∀ n ∈ names ++ [name], Name.IsProper n) :
    split (render (names ++ [name])) = (render names, name) := by
  have hn : Name.IsProper name := h name (by simp)
  have hnames : ∀ n ∈ names, Name.IsProper n := fun n hm => h n (List.mem_append_left _ hm)
  have hnot : render (names ++ [name]) ≠ root := by
    rw [Ne, render_eq_root_iff h]
    simp
  -- the last slash stands before the last name, since there is none in it
  have hcut : (render (names ++ [name])).cutLast (CodePoint.ofChar '/') =
      some (slashed names, name) := by
    rw [render_eq_slashed (by simp), slashed_append]
    simp only [slashed_cons, slashed_nil, List.append_nil]
    exact Text.cutLast_append_cons _ hn.2.1
  rw [split, (isNormal_render h).normalize_eq]
  simp only [hnot, if_false, hcut]
  congr 1
  by_cases hnil : names = []
  · subst hnil
    rfl
  · have hs : slashed names ≠ [] := by
      intro e
      apply hnil
      cases names with
      | nil => rfl
      | cons n more => simp at e
    rw [if_neg hs, render_eq_slashed hnil]

/-- A normal path is the root or the path of a child of a normal path, and splitting it
tells the two apart. -/
theorem IsNormal.split_cases {path : Text} (h : IsNormal path) :
    (path = root ∧ split path = (root, [])) ∨
    ∃ parent name, IsNormal parent ∧ Name.IsProper name ∧ split path = (parent, name) ∧
      segments path = segments parent ++ [name] ∧ path = join parent name := by
  obtain ⟨names, hn, rfl⟩ := h
  rcases List.eq_nil_or_concat names with rfl | ⟨init, name, rfl⟩
  · exact Or.inl ⟨rfl, split_root⟩
  · rw [List.concat_eq_append] at hn ⊢
    have hi : ∀ n ∈ init, Name.IsProper n := fun n hm => hn n (List.mem_append_left _ hm)
    refine Or.inr ⟨render init, name, isNormal_render hi, hn name (by simp),
      split_render_append hn, ?_, ?_⟩
    · rw [segments_render hn, segments_render hi]
    · rw [join_render hi]

/-- What a normal path is split into starts with a normal path. -/
theorem isNormal_split {path parent name : Text} (h : split (normalize path) = (parent, name)) :
    IsNormal parent := by
  rcases (isNormal_normalize path).split_cases with ⟨-, hroot⟩ | ⟨p, n, hp, -, hs, -, -⟩
  · rw [hroot, Prod.mk.injEq] at h
    exact h.1 ▸ isNormal_root
  · rw [hs, Prod.mk.injEq] at h
    exact h.1 ▸ hp

/-- A path that is split into a directory and a name in it is made of these two. -/
theorem eq_join_of_split {path parent name : Text} (h : split (normalize path) = (parent, name))
    (hne : name ≠ []) : Name.IsProper name ∧ normalize path = join parent name ∧
      segments (normalize path) = segments parent ++ [name] := by
  rcases (isNormal_normalize path).split_cases with
    ⟨-, hroot⟩ | ⟨p, n, -, hproper, hs, hsegs, hjoin⟩
  · rw [hroot, Prod.mk.injEq] at h
    exact absurd h.2.symm hne
  · rw [hs, Prod.mk.injEq] at h
    obtain ⟨rfl, rfl⟩ := h
    exact ⟨hproper, hjoin, hsegs⟩

/-! ## Lying within -/

@[simp] theorem isWithin_root (path : Text) : isWithin path root = true := by
  simp [isWithin]

theorem isWithin_render_iff {names above : List Text} (hn : ∀ name ∈ names, Name.IsProper name)
    (ha : ∀ name ∈ above, Name.IsProper name) :
    isWithin (render names) (render above) = true ↔ above <+: names := by
  by_cases hnil : above = []
  · subst hnil
    simp [isWithin]
  have hroot : render above ≠ root := by rwa [Ne, render_eq_root_iff ha]
  have hslash : render above ++ ("/" : Text) = slashed above ++ [CodePoint.ofChar '/'] := by
    rw [render_eq_slashed hnil]
    rfl
  simp only [isWithin, hroot, decide_false, Bool.false_or, Bool.or_eq_true, decide_eq_true_eq,
    List.isPrefixOf_iff_prefix]
  -- the text of a path below goes on with a slash, and so a name is never cut in two
  constructor
  · rintro (he | ⟨after, he⟩)
    · have hsame : names = above := by rw [← segments_render hn, he, segments_render ha]
      exact hsame ▸ List.prefix_rfl
    · rw [hslash, List.append_assoc, List.singleton_append] at he
      rw [← segments_render hn, ← he, segments_slashed_append ha]
      exact List.prefix_append _ _
  · rintro ⟨more, rfl⟩
    cases more with
    | nil => exact Or.inl (by rw [List.append_nil])
    | cons next rest =>
      refine Or.inr ⟨next ++ slashed rest, ?_⟩
      have hne : above ++ next :: rest ≠ [] := by simp
      rw [render_eq_slashed hne, slashed_append, hslash]
      simp

theorem IsNormal.isWithin_iff {path above : Text} (hp : IsNormal path) (ha : IsNormal above) :
    isWithin path above = true ↔ segments above <+: segments path := by
  obtain ⟨names, hn, rfl⟩ := hp
  obtain ⟨names', hn', rfl⟩ := ha
  rw [isWithin_render_iff hn hn', segments_render hn, segments_render hn']

/-! ## Going on from a path -/

/-- The path that names lead to from a path. -/
def extend (path : Text) (names : List Text) : Text := names.foldl join path

@[simp] theorem extend_nil (path : Text) : extend path [] = path := rfl

theorem extend_cons (path name : Text) (names : List Text) :
    extend path (name :: names) = extend (join path name) names := rfl

theorem extend_render {names more : List Text} (hn : ∀ name ∈ names, Name.IsProper name)
    (hm : ∀ name ∈ more, Name.IsProper name) :
    extend (render names) more = render (names ++ more) := by
  induction more generalizing names with
  | nil => rw [extend_nil, List.append_nil]
  | cons name rest ih =>
    have hname : ∀ n ∈ names ++ [name], Name.IsProper n := by
      intro n h
      rcases List.mem_append.mp h with h | h
      · exact hn n h
      · exact List.mem_singleton.mp h ▸ hm name List.mem_cons_self
    rw [extend_cons, join_render hn, ih hname fun n h => hm n (List.mem_cons_of_mem _ h),
      List.append_assoc]
    rfl

/-- The names of a normal path lead to it from the root. -/
theorem IsNormal.extend_segments {path : Text} (h : IsNormal path) :
    extend root (segments path) = path := by
  have hnone : ∀ name ∈ ([] : List Text), Name.IsProper name := by simp
  have hextend := extend_render hnone fun _ => h.isProper_of_mem
  rw [List.nil_append, h.render_segments] at hextend
  exact hextend

theorem isNormal_extend {path : Text} {names : List Text} (h : IsNormal path)
    (hn : ∀ name ∈ names, Name.IsProper name) : IsNormal (extend path names) := by
  induction names generalizing path with
  | nil => exact h
  | cons name rest ih =>
    obtain ⟨hname, hrest⟩ := List.forall_mem_cons.mp hn
    exact ih (isNormal_join h hname) hrest

theorem IsNormal.segments_extend {path : Text} {names : List Text} (h : IsNormal path)
    (hn : ∀ name ∈ names, Name.IsProper name) :
    segments (extend path names) = segments path ++ names := by
  induction names generalizing path with
  | nil => rw [extend_nil, List.append_nil]
  | cons name rest ih =>
    obtain ⟨hname, hrest⟩ := List.forall_mem_cons.mp hn
    rw [extend_cons, ih (isNormal_join h hname) hrest, h.segments_join hname, List.append_assoc]
    rfl

/-- A path lies within another if names lead to it from there. -/
theorem IsNormal.isWithin_iff_extend {path above : Text} (hp : IsNormal path)
    (ha : IsNormal above) : isWithin path above = true ↔
      ∃ names, (∀ name ∈ names, Name.IsProper name) ∧ path = extend above names := by
  rw [hp.isWithin_iff ha]
  constructor
  · rintro ⟨names, hnames⟩
    have hproper : ∀ name ∈ names, Name.IsProper name := fun name hm =>
      hp.isProper_of_mem (hnames ▸ List.mem_append_right _ hm)
    refine ⟨names, hproper, ?_⟩
    rw [← hp.render_segments, ← hnames, ← extend_render (fun _ => ha.isProper_of_mem) hproper,
      ha.render_segments]
  · rintro ⟨names, hproper, rfl⟩
    rw [ha.segments_extend hproper]
    exact List.prefix_append _ _

end Path

end VirtualShell
