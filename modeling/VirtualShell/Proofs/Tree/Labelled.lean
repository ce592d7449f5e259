import VirtualShell.Proofs.Tree.Draft
/-
  What the check of a draft accepts.

  The check is local. It looks at one directory after another, and at each it only compares the
  labels of the children with the path of the directory, which is as good as the path that the
  directory has stored (`check_eq_forM_walk`). What it accepts is a matter of the whole tree: along
  whatever keys a node is reached, the last of them is its name and all of them make its path.
  Where that fails, the check ends in a fault, and what the fault says is true of the draft.
-/

namespace VirtualShell.Draft

/-- Induction on a draft, with all children of a directory at once. -/
theorem induction {motive : Draft → Prop}
    (file : ∀ name path mtime content size, motive (.file name path mtime content size))
    (directory : ∀ name path mtime children, (∀ e ∈ children, motive e.2) →
      motive (.directory name path mtime children)) : ∀ d, motive d := by
  intro d
  -- the lists of children and the pairs in them have motives of their own
  refine Draft.rec (motive_1 := motive) (motive_2 := fun children => ∀ e ∈ children, motive e.2)
    (motive_3 := fun e => motive e.2) file directory ?_ ?_ ?_ d
  · simp
  · intro e rest he hrest e' hm
    rcases List.mem_cons.mp hm with rfl | hm
    · exact he
    · exact hrest e' hm
  · intro _ _ h
    exact h

/-! ## One pass over the nodes -/

mutual

/-- A draft and all below it, each directory before its children. -/
def walk : Draft → List Draft
  | file name path mtime content size => [file name path mtime content size]
  | directory name path mtime children =>
    directory name path mtime children :: walkAll children

/-- The drafts of several entries, entry by entry. -/
def walkAll : List (Text × Draft) → List Draft
  | [] => []
  | (_, child) :: rest => walk child ++ walkAll rest

end

/-- Whether the children of one node are labelled with their keys and with the paths that fit the
path stored in the node. -/
def checkChildren : Draft → Except DraftFault Unit
  | file .. => .ok ()
  | directory _ path _ children => checkLabels path.shown children

/-- Whether a draft is a directory without a name at the root path. -/
def isRoot : Draft → Bool
  | file .. => false
  | directory name path _ _ => isLabel Path.root path && isLabel [] name

theorem path_of_isRoot {root : Draft} (h : root.isRoot = true) : root.path = .text Path.root := by
  cases root with
  | file => cases h
  | directory =>
    rw [isRoot, Bool.and_eq_true, isLabel_iff] at h
    exact h.1

theorem checkEach_eq_forM_walkAll {parent : Text} {children : List (Text × Draft)}
    (h : ∀ e ∈ children, checkBelow (Path.join parent e.1) e.2 = forM e.2.walk checkChildren) :
    checkEach parent children = forM (walkAll children) checkChildren := by
  induction children with
  | nil => rfl
  | cons e rest ih =>
    rw [checkEach, walkAll, List.forM_append, h e List.mem_cons_self,
      ih fun e he => h e (List.mem_cons_of_mem _ he)]

/-- Going by the path that the keys make or by the stored one is the same, since the children of a
directory are only looked into after their own labels were found right. -/
theorem checkBelow_eq_forM_walk {d : Draft} :
    ∀ {path : Text}, d.path = .text path → checkBelow path d = forM d.walk checkChildren := by
  induction d using induction with
  | file => intro path _; rfl
  | directory name stored mtime children ih =>
    intro path hpath
    obtain rfl : stored = .text path := hpath
    rw [checkBelow, walk, List.forM_cons, checkChildren, Json.shown]
    cases hlabels : checkLabels path children with
    | error fault => rfl
    | ok =>
      rw [checkLabels_eq_ok] at hlabels
      exact checkEach_eq_forM_walkAll fun e he => ih e he (hlabels e he).2.2

theorem check_eq (root : Draft) :
    root.check = if root.isRoot then checkBelow Path.root root else .error .badRoot := by
  cases root <;> rfl

/-- The check is one pass over the nodes, each directory held against the path that it has stored. -/
theorem check_eq_forM_walk (root : Draft) :
    root.check = if root.isRoot then forM root.walk checkChildren else .error .badRoot := by
  rw [check_eq]
  split
  · rename_i h
    exact checkBelow_eq_forM_walk (path_of_isRoot h)
  · rfl

/-! ## Labels of a whole tree -/

/-- A draft is reached from another along keys. -/
inductive Reaches : List Text → Draft → Draft → Prop
  | here (d : Draft) : Reaches [] d d
  | child {key : Text} {keys : List Text} {name path : Json} {mtime : Float}
    {children : List (Text × Draft)} {child d : Draft} :
    (key, child) ∈ children → Reaches keys child d →
    Reaches (key :: keys) (.directory name path mtime children) d

/-- A draft in the directory that `keys` lead to, under `key`, is labelled as that asks: all keys on
the way are valid names, the last is its own name, and its path is made of all of them. -/
structure Fits (keys : List Text) (key : Text) (d : Draft) : Prop where
  isValid : ∀ k ∈ keys ++ [key], Name.isValid k = true
  name : d.name = .text key
  path : d.path = .text (Path.render (keys ++ [key]))

/-- A root below which every draft is labelled as the keys that lead to it ask. -/
structure IsLabelled (root : Draft) : Prop where
  isRoot : root.isRoot = true
  fits : ∀ keys key d, Reaches (keys ++ [key]) root d → Fits keys key d

theorem not_reaches_file {keys : List Text} {key : Text} {name path : Json} {mtime : Float}
    {content : Text} {size : Nat} {d : Draft} :
    ¬ Reaches (keys ++ [key]) (.file name path mtime content size) d := by
  intro h
  cases keys <;> cases h

theorem reaches_child_iff {key : Text} {name path : Json} {mtime : Float}
    {children : List (Text × Draft)} {d : Draft} :
    Reaches [key] (.directory name path mtime children) d ↔ (key, d) ∈ children := by
  constructor
  · rintro (_ | ⟨hmem, hd⟩)
    cases hd
    exact hmem
  · exact fun hmem => .child hmem (.here d)

theorem isProper_concat {names : List Text} {key : Text} (hnames : ∀ k ∈ names, Name.IsProper k)
    (hkey : Name.IsProper key) : ∀ k ∈ names ++ [key], Name.IsProper k :=
  List.forall_mem_append.mpr ⟨hnames, List.forall_mem_singleton.mpr hkey⟩

/-- What is accepted below a place is what is labelled as the keys ask that lead to it from the root
by way of that place. The induction is on the draft: a key more on the way to a child is a key less
on the way from there. -/
theorem checkBelow_render_eq_ok {d : Draft} :
    ∀ {names : List Text}, (∀ name ∈ names, Name.IsProper name) →
      (checkBelow (Path.render names) d = .ok () ↔
        ∀ keys key n, Reaches (keys ++ [key]) d n → Fits (names ++ keys) key n) := by
  induction d using induction with
  | file =>
    intro names _
    exact iff_of_true rfl fun keys key n h => absurd h not_reaches_file
  | directory name path mtime children ih =>
    intro names hnames
    rw [checkBelow_directory_eq_ok]
    constructor
    · rintro ⟨hlabels, hbelow⟩ keys key n h
      cases keys with
      | nil =>
        rw [List.nil_append, reaches_child_iff] at h
        obtain ⟨hname, hproper, hpath⟩ := hlabels _ h
        rw [Path.join_render hnames] at hpath
        rw [List.append_nil]
        exact ⟨fun k hk => Name.isValid_iff.mpr (isProper_concat hnames hproper k hk), hname, hpath⟩
      | cons first keys =>
        cases h with
        | child hmem h =>
          have hproper := (hlabels _ hmem).2.1
          have hchild := hbelow _ hmem
          rw [Path.join_render hnames, ih _ hmem (isProper_concat hnames hproper)] at hchild
          rw [List.append_cons]
          exact hchild keys key n h
    · intro h
      have hlabels : ∀ e ∈ children, Fits names e.1 e.2 := fun e he => by
        have hfits := h [] e.1 e.2 (reaches_child_iff.mpr he)
        rwa [List.append_nil] at hfits
      have hproper : ∀ e ∈ children, Name.IsProper e.1 := fun e he =>
        Name.isValid_iff.mp ((hlabels e he).isValid _ (by simp))
      refine ⟨fun e he => ⟨(hlabels e he).name, hproper e he, ?_⟩, fun e he => ?_⟩
      · rw [Path.join_render hnames]
        exact (hlabels e he).path
      · rw [Path.join_render hnames, ih e he (isProper_concat hnames (hproper e he))]
        intro keys key n hn
        rw [← List.append_cons]
        exact h (e.1 :: keys) key n (.child he hn)

theorem check_eq_ok_iff_isLabelled {root : Draft} : root.check = .ok () ↔ root.IsLabelled := by
  have hbelow : checkBelow (Path.render []) root = .ok () ↔ _ := checkBelow_render_eq_ok (by simp)
  rw [Path.render_nil] at hbelow
  rw [check_eq]
  split
  · rename_i h
    exact hbelow.trans ⟨fun hfits => ⟨h, hfits⟩, fun hlabelled => hlabelled.fits⟩
  · rename_i h
    exact iff_of_false nofun fun hlabelled => h hlabelled.isRoot

/-! ## Faults -/

/-- A fault that is found in a draft at the place with the given names, or further below. -/
inductive Shows : List Text → Draft → DraftFault → Prop
  | root {d : Draft} : d.isRoot = false → Shows [] d .badRoot
  /-- A child goes by another name than its key, or its key is no name. -/
  | name {names : List Text} {name path : Json} {mtime : Float} {children : List (Text × Draft)}
    {key : Text} {child : Draft} :
    (key, child) ∈ children → child.name ≠ .text key ∨ Name.isValid key = false →
    Shows names (.directory name path mtime children) (.badChildName key (Path.render names))
  /-- A child has stored another path than the names and its key make. -/
  | path {names : List Text} {name path : Json} {mtime : Float} {children : List (Text × Draft)}
    {key : Text} {child : Draft} :
    (key, child) ∈ children → child.path ≠ .text (Path.render (names ++ [key])) →
    Shows names (.directory name path mtime children) (.wrongPath child.path (Path.render names))
  | deeper {names : List Text} {name path : Json} {mtime : Float} {children : List (Text × Draft)}
    {key : Text} {child : Draft} {fault : DraftFault} :
    (key, child) ∈ children → Shows (names ++ [key]) child fault →
    Shows names (.directory name path mtime children) fault

theorem exists_of_checkLabels {parent : Text} {children : List (Text × Draft)} {fault : DraftFault}
    (h : checkLabels parent children = .error fault) : ∃ key child, (key, child) ∈ children ∧
      ((child.name ≠ .text key ∨ Name.isValid key = false) ∧ fault = .badChildName key parent ∨
        child.path ≠ .text (Path.join parent key) ∧ fault = .wrongPath child.path parent) := by
  induction children with
  | nil => cases h
  | cons e rest ih =>
    obtain ⟨key, child⟩ := e
    rw [checkLabels] at h
    split at h
    · rename_i hname
      rw [Bool.or_eq_true, Bool.not_eq_true', Bool.not_eq_true', ← Bool.not_eq_true,
        isLabel_iff] at hname
      cases h
      exact ⟨key, child, List.mem_cons_self, .inl ⟨hname, rfl⟩⟩
    · split at h
      · rename_i hpath
        rw [Bool.not_eq_true', ← Bool.not_eq_true, isLabel_iff] at hpath
        cases h
        exact ⟨key, child, List.mem_cons_self, .inr ⟨hpath, rfl⟩⟩
      · obtain ⟨key, child, hmem, hfault⟩ := ih h
        exact ⟨key, child, List.mem_cons_of_mem _ hmem, hfault⟩

theorem exists_of_checkEach {parent : Text} {children : List (Text × Draft)} {fault : DraftFault}
    (h : checkEach parent children = .error fault) :
    ∃ e ∈ children, checkBelow (Path.join parent e.1) e.2 = .error fault := by
  induction children with
  | nil => cases h
  | cons e rest ih =>
    rw [checkEach, bind_eq_error] at h
    rcases h with h | ⟨_, -, h⟩
    · exact ⟨e, List.mem_cons_self, h⟩
    · obtain ⟨e', hmem, h⟩ := ih h
      exact ⟨e', List.mem_cons_of_mem _ hmem, h⟩

/-- A fault that the check of the drafts below a place ends in is found there. -/
theorem shows_of_checkBelow {d : Draft} {fault : DraftFault} :
    ∀ {names : List Text}, (∀ name ∈ names, Name.IsProper name) →
      checkBelow (Path.render names) d = .error fault → Shows names d fault := by
  induction d using induction with
  | file =>
    intro names _ h
    cases h
  | directory name path mtime children ih =>
    intro names hnames h
    rw [checkBelow, bind_eq_error] at h
    rcases h with h | ⟨_, hlabels, h⟩
    · obtain ⟨key, child, hmem, ⟨hname, rfl⟩ | ⟨hpath, rfl⟩⟩ := exists_of_checkLabels h
      · exact .name hmem hname
      · rw [Path.join_render hnames] at hpath
        exact .path hmem hpath
    · obtain ⟨e, hmem, h⟩ := exists_of_checkEach h
      -- the labels of the children were found right, so the key is a name
      have hkey := (checkLabels_eq_ok.mp hlabels e hmem).2.1
      rw [Path.join_render hnames] at h
      exact .deeper hmem (ih e hmem (isProper_concat hnames hkey) h)

theorem shows_of_check {root : Draft} {fault : DraftFault} (h : root.check = .error fault) :
    Shows [] root fault := by
  rw [check_eq] at h
  split at h
  · rw [← Path.render_nil] at h
    exact shows_of_checkBelow (by simp) h
  · rename_i hroot
    cases h
    exact .root (by simpa using hroot)

/-! ## The result -/

/-- The check, which is one pass over the nodes, each directory held against the path that it has
stored, accepts the drafts that are labelled as a whole and no others. In any other draft it finds a
fault, and the fault is there. -/
theorem check_decides_labels (root : Draft) :
    (root.check = if root.isRoot then forM root.walk checkChildren else .error .badRoot) ∧
      (root.check = .ok () ↔ root.IsLabelled) ∧
      (¬ root.IsLabelled ↔ ∃ fault, root.check = .error fault ∧ Shows [] root fault) := by
  refine ⟨check_eq_forM_walk root, check_eq_ok_iff_isLabelled, ?_⟩
  rw [← check_eq_ok_iff_isLabelled]
  cases h : root.check with
  | ok => exact iff_of_false (fun hne => hne rfl) fun ⟨fault, hfault, _⟩ => nomatch hfault
  | error fault => exact iff_of_true nofun ⟨fault, rfl, shows_of_check h⟩

/-- A file in a directory below the root, with the path that fits and with one that would fit in the
root. -/
theorem check_decides_labels_of_misplaced_file :
    let tree (path : Text) : Draft := .directory (.text []) (.text "/") 0 [("docs",
      .directory (.text "docs") (.text "/docs") 0 [("a.txt",
        .file (.text "a.txt") (.text path) 0 [] 0)])]
    (tree "/docs/a.txt").IsLabelled ∧ ¬ (tree "/a.txt").IsLabelled ∧
      (tree "/a.txt").check = .error (.wrongPath (.text "/a.txt") "/docs") := by
  intro tree
  have hwrong : (tree "/a.txt").check = .error (.wrongPath (.text "/a.txt") "/docs") := rfl
  refine ⟨(check_decides_labels _).2.1.mp rfl, fun h => ?_, hwrong⟩
  rw [← (check_decides_labels _).2.1, hwrong] at h
  cases h

end VirtualShell.Draft
