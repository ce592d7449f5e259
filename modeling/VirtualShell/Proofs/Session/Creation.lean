import VirtualShell.Proofs.FileSystem.Redirection
import VirtualShell.Proofs.Path.Ancestry
import VirtualShell.Proofs.Session.WorkingDirectory
/-
  What `mkdir` and `touch` answer.

  The two commands look at nothing themselves: they ask for a new node and put the reason for a
  refusal into words. `Node.obstacles` says without them what can stand against a new node at a
  path, by looking at the path and at what is there and above, and with which words. It agrees with
  the table of objections row by row (`find?_obstacles`), except at the root, which has no name and
  is an obstacle for that; so the words given are those of the first obstacle there is.
-/

namespace VirtualShell

open Session (change)

/-! ## What stands against a new node -/

namespace Node

variable {root : Node} {path : Text}

/-- What may stand against a new node at a normal path, and in which words, in the order in which it
counts. -/
def obstacles (root : Node) (path : Text) : List (Bool × Text) :=
  let parent := (Path.split path).1
  [(path = Path.root, "Invalid name"),
   (isProtected path, "Permission denied"),
   (!root.holds parent, "No such file or directory"),
   (root.holdsFile parent, "Not a directory"),
   (root.holds path, "File exists")]

/-- The first obstacle is the first objection in words. -/
theorem find?_obstacles (root : Node) (hp : Path.IsNormal path) :
    (root.obstacles path).find? (·.1) =
      ((Mutation.creationObjections root (Path.split path).1 (Path.split path).2).find? (·.1)).map
        fun objection => (objection.1, Builtin.creationFailure (some objection.2)) := by
  rw [obstacles, Mutation.creationObjections]
  rcases hp.split_cases with ⟨rfl, hs⟩ | ⟨parent, name, hparent, hname, hs, hsegments, hjoin⟩
  · -- the root: it has no name, so both lists end at their first row
    have hinvalid : Name.isValid [] = false := rfl
    rw [hs, hinvalid]
    rfl
  · have hne : path ≠ Path.root := by
      rintro rfl
      rw [Path.segments_root] at hsegments
      simp at hsegments
    rw [hs, hparent.normalize_eq, ← hjoin, Name.isValid_iff.mpr hname, decide_eq_false hne]
    -- any other path: the rows say the same, and which of them hold does not matter
    cases isProtected path <;> cases root.holds parent <;> cases root.holdsFile parent <;>
      cases root.holds path <;> rfl

theorem find?_obstacles_eq_none_iff :
    (root.obstacles path).find? (·.1) = none ↔ path ≠ Path.root ∧ isProtected path = false ∧
      root.holds path = false ∧ root.holdsDirectory (Path.split path).1 = true := by
  have hdirectory : root.holdsDirectory (Path.split path).1 =
      (root.holds (Path.split path).1 && !root.holdsFile (Path.split path).1) := by
    rw [holdsDirectory, holds, holdsFile]
    cases root.lookup (Path.split path).1 with
    | none => rfl
    | some n => cases h : n.isDirectory <;> simp [h]
  rw [hdirectory, List.find?_eq_none, obstacles]
  cases isProtected path <;> cases root.holds (Path.split path).1 <;>
    cases root.holdsFile (Path.split path).1 <;> cases root.holds path <;> simp

end Node

/-! ## Asking for a change -/

namespace Volume

variable {v : Volume} {m : Mutation}

theorem apply_of_made (now : Float) (hw : v.IsWritable) (hd : m.decision v.root = .made) :
    (apply now m v).1 = .ok true ∧ Mutation.Effect now v.root m (apply now m v).2.root := by
  obtain ⟨new, hv, heffect⟩ : ∃ new, m.verdict now v.root = .accepted new ∧ _ :=
    Mutation.verdict_of_made hd
  have happly : apply now m v = settle (.accepted new) v := congrArg (settle · v) hv
  have hwritten : (v.accepting new).outcome = .ok () := outcome_of_isWritable hw rfl rfl
  rw [happly, settle_accepted, hwritten]
  exact ⟨rfl, heffect⟩

theorem apply_of_refused (now : Float) (hw : v.IsWritable) {reason : Refusal}
    (hd : m.decision v.root = .refused reason) :
    (apply now m v).1 = .ok false ∧ (apply now m v).2.root = v.root ∧
      (apply now m v).2.lastError = some reason := by
  have hv : m.verdict now v.root = _ := Mutation.verdict_of_refused hd
  have happly : apply now m v = settle _ v := congrArg (settle · v) hv
  rw [happly]
  by_cases hreason : reason = .protectedPath
  · have hwritten : v.marked.outcome = .ok () := outcome_of_isWritable hw rfl rfl
    rw [if_pos hreason, settle_guarded, hwritten, hreason]
    exact ⟨rfl, rfl, rfl⟩
  · rw [if_neg hreason, settle_refused]
    exact ⟨rfl, rfl, rfl⟩

end Volume

/-! ## The commands -/

namespace Builtin

open Node (Outline IsAddition)

/-- Creating makes a change, and puts what is left as the reason into words if that is refused. -/
theorem create_eq {ω : Type} (command kind : Text) (mutation : Text → Text → Mutation) (arg : Text)
    (rest : List Text) (s : Session ω) :
    let target := Path.split (s.resolve arg)
    let called := Volume.apply s.now (mutation target.1 target.2) s.volume
    create command kind mutation (arg :: rest) s =
      (called.1.map fun made => if made then [] else Markup.error (command ++ ": cannot create " ++
        kind ++ " '" ++ arg ++ "': " ++ creationFailure called.2.lastError),
        { s with volume := called.2 }) := by
  intro target called
  have hchange : change (mutation target.1 target.2) s =
    (called.1, { s with volume := called.2 }) := rfl
  unfold create
  dsimp only
  rw [Action.get_bind_apply, Action.bind_apply, hchange]
  rcases called with ⟨fault | _ | _, v⟩ <;> rfl

/-- A command that creates something: its name, the word for what it creates, and what kind of node
that is, with which content. -/
structure Creator where
  command : Text
  kind : Text
  isDirectory : Bool
  content? : Option Text

/-- The commands that create something. -/
def creators : List Creator :=
  [⟨"mkdir", "directory", true, none⟩, ⟨"touch", "file", false, some []⟩]

theorem eq_or_eq_of_mem_creators {c : Creator} (hc : c ∈ creators) :
    c = ⟨"mkdir", "directory", true, none⟩ ∨ c = ⟨"touch", "file", false, some []⟩ := by
  simpa [creators] using hc

namespace Creator

variable {ω : Type} {c : Creator} {s : Session ω} {root new : Node} {parent name : Text}

/-- The change that the command asks for. -/
def mutation (c : Creator) (parent name : Text) : Mutation :=
  match c.content? with
  | none => .createDirectory parent name
  | some content => .createFile parent name content

/-- What is found of the new node, which has nothing in it. -/
def made (c : Creator) (now : Float) (name path : Text) : Outline :=
  ⟨c.isDirectory, name, path, now, 0, c.content?, []⟩

/-- The complaint of the command, in the words given. -/
def complaint (c : Creator) (arg words : Text) : Text :=
  Markup.error (c.command ++ ": cannot create " ++ c.kind ++ " '" ++ arg ++ "': " ++ words)

/-- Nothing but what stands against a new node stands against the change. -/
theorem decision_mutation (hc : c ∈ creators) (root : Node) (parent name : Text) :
    (c.mutation parent name).decision root =
      match (Mutation.creationObjections root parent name).find? (·.1) with
      | some objection => .refused objection.2
      | none => .made := by
  rcases eq_or_eq_of_mem_creators hc with rfl | rfl <;> rfl

theorem isAddition_mutation (hc : c ∈ creators) {now : Float}
    (h : Mutation.Effect now root (c.mutation parent name) new) :
    IsAddition now root (Path.normalize parent) name
      (c.made now name (Path.join (Path.normalize parent) name)) new := by
  rcases eq_or_eq_of_mem_creators hc with rfl | rfl
  · exact Mutation.Effect.isAddition_createDirectory h
  · obtain ⟨size, hsize, hadded⟩ := Mutation.Effect.isAddition_createFile h
    cases hsize
    exact hadded

theorem dispatch_eq (hc : c ∈ creators) (host : Host ω) {typed : Text}
    (hname : typed.lower = c.command) (arg : Text) (rest : List Text) (input : Text) :
    let target := Path.split (s.resolve arg)
    let called := Volume.apply s.now (c.mutation target.1 target.2) s.volume
    dispatch host typed (arg :: rest) input s =
      (called.1.map fun made => if made then [] else
        c.complaint arg (creationFailure called.2.lastError), { s with volume := called.2 }) := by
  rcases eq_or_eq_of_mem_creators hc with rfl | rfl
  · rw [dispatch_of_mem (c := mkdir) (by simp [table, others]) hname]
    exact create_eq "mkdir" "directory" Mutation.createDirectory arg rest s
  · rw [dispatch_of_mem (c := touch) (by simp [table, others]) hname]
    exact create_eq "touch" "file" (fun parent name => .createFile parent name []) arg rest s

section Outcome

variable {typed arg : Text}

/-- Where nothing stands against it the node is made, and the command puts nothing out. -/
theorem dispatch_of_free (hc : c ∈ creators) (hw : s.volume.IsWritable)
    (hp : Path.IsNormal (s.resolve arg)) (host : Host ω) (hname : typed.lower = c.command)
    (hfree : (s.volume.root.obstacles (s.resolve arg)).find? (·.1) = none)
    (rest : List Text) (input : Text) :
    let target := Path.split (s.resolve arg)
    let r := dispatch host typed (arg :: rest) input s
    r.1 = .ok [] ∧ s.resolve arg = Path.join target.1 target.2 ∧
      IsAddition s.now s.volume.root target.1 target.2 (c.made s.now target.2 (s.resolve arg))
        r.2.volume.root := by
  intro target r
  obtain ⟨hparent, -, hjoin⟩ : Path.IsNormal target.1 ∧ Name.IsProper target.2 ∧
      Path.join target.1 target.2 = s.resolve arg :=
    hp.join_split (Node.find?_obstacles_eq_none_iff.mp hfree).1
  have hdecision := decision_mutation hc s.volume.root target.1 target.2
  rw [Node.find?_obstacles _ hp, Option.map_eq_none_iff] at hfree
  rw [hfree] at hdecision
  obtain ⟨hanswer, heffect⟩ := Volume.apply_of_made s.now hw hdecision
  have hr : r = _ := dispatch_eq hc host hname arg rest input
  rw [hr, hanswer]
  have hadded := isAddition_mutation hc heffect
  rw [hparent.normalize_eq, hjoin] at hadded
  exact ⟨rfl, hjoin.symm, hadded⟩

/-- Where something stands against it the tree stays, and the command says what it was. -/
theorem dispatch_of_obstacle (hc : c ∈ creators) (hw : s.volume.IsWritable)
    (hp : Path.IsNormal (s.resolve arg)) (host : Host ω) (hname : typed.lower = c.command)
    {obstacle : Bool × Text}
    (hfound : (s.volume.root.obstacles (s.resolve arg)).find? (·.1) = some obstacle)
    (rest : List Text) (input : Text) :
    let r := dispatch host typed (arg :: rest) input s
    r.1 = .ok (c.complaint arg obstacle.2) ∧ r.2.volume.root = s.volume.root := by
  intro r
  rw [Node.find?_obstacles _ hp, Option.map_eq_some_iff] at hfound
  obtain ⟨objection, hobjection, rfl⟩ := hfound
  have hdecision := decision_mutation hc s.volume.root (Path.split (s.resolve arg)).1
    (Path.split (s.resolve arg)).2
  rw [hobjection] at hdecision
  obtain ⟨hanswer, hroot, hreason⟩ := Volume.apply_of_refused s.now hw hdecision
  have hr : r = _ := dispatch_eq hc host hname arg rest input
  rw [hr, hanswer, hreason]
  exact ⟨rfl, hroot⟩

end Outcome

end Creator

end Builtin

/-! ## The result -/

namespace Session

open Builtin (Creator creators)
open Node (IsAddition)

variable {ω : Type} {s : Session ω}

/-- `mkdir` and `touch` make a node where a path leads just if that is neither the root nor
protected, nothing is there, and a directory is above it. The node is empty, and it is all that is
new. In every other case the tree stays as it is and the answer names the first of five obstacles
that there is; at least one of them there always is. -/
theorem Met.creates_or_complains (h : Met s) (hw : s.volume.IsWritable) (host : Host ω)
    {c : Creator} (hc : c ∈ creators) {typed : Text} (hname : typed.lower = c.command) (arg : Text)
    (rest : List Text) (input : Text) :
    let path := s.resolve arg
    let target := Path.split path
    let before := s.volume.root
    let r := dispatch host typed (arg :: rest) input s
    let after := r.2.volume.root
    (r.1 = .ok [] ↔ path ≠ Path.root ∧ isProtected path = false ∧ before.holds path = false ∧
      before.holdsDirectory target.1 = true) ∧
    (r.1 = .ok [] → path = Path.join target.1 target.2 ∧
      after.outline? path = some (c.made s.now target.2 path) ∧
      IsAddition s.now before target.1 target.2 (c.made s.now target.2 path) after) ∧
    (r.1 ≠ .ok [] → after = before ∧ ∃ words,
      (before.obstacles path).find? (·.1) = some (true, words) ∧
      r.1 = .ok (c.complaint arg words)) := by
  intro path target before r after
  have hp : Path.IsNormal path := Path.isNormal_resolve arg h.isInOrder_and_isConsistent.1.cwd
  have hiff : (before.obstacles path).find? (·.1) = none ↔ _ := Node.find?_obstacles_eq_none_iff
  cases hfound : (before.obstacles path).find? (·.1) with
  | none =>
    obtain ⟨hanswer, hjoin, hadded⟩ :=
      Creator.dispatch_of_free hc hw hp host hname hfound rest input
    have hmade := hadded.made
    rw [← hjoin] at hmade
    exact ⟨⟨fun _ => hiff.mp hfound, fun _ => hanswer⟩, fun _ => ⟨hjoin, hmade, hadded⟩,
      fun hne => absurd hanswer hne⟩
  | some obstacle =>
    obtain ⟨hanswer, hroot⟩ := Creator.dispatch_of_obstacle hc hw hp host hname hfound rest input
    have hne : r.1 ≠ .ok [] := by
      rw [hanswer]
      exact fun he => error_ne_nil _ (Except.ok.inj he)
    have hholds : obstacle.1 = true := List.find?_some hfound
    refine ⟨⟨fun he => absurd he hne, fun hfree => ?_⟩, fun he => absurd he hne, fun _ =>
      ⟨hroot, obstacle.2, ?_, hanswer⟩⟩
    · rw [hiff.mpr hfree] at hfound
      cases hfound
    · rw [← hholds]

/-- In a working directory that has been removed there is nothing to put a node into, and a path
that leads out of it is as good as any other. -/
theorem creates_or_complains_in_lost_directory :
    let w := Surroundings.deserted
    let first : Session Unit := start
      ⟨Node.defaultTree 0, false, none, Store.empty, Volume.defaultKey⟩ {} History.usualLimit 1 ()
    let went := (run (w.host 0) "cd /a" (run (w.host 0) "mkdir /a" first).2).2
    let s := (change (.delete "/a") went).2
    Met s ∧ s.volume.IsWritable ∧ s.volume.has s.cwd = false ∧
      (dispatch (w.host 0) "mkdir" ["b"] [] s).1 = .ok (Markup.error
        "mkdir: cannot create directory 'b': No such file or directory") ∧
      (dispatch (w.host 0) "Touch" [".././b"] [] s).1 = .ok [] ∧
      (dispatch (w.host 0) "Touch" [".././b"] [] s).2.volume.root.outline? "/b" =
        some ⟨false, "b", "/b", s.now, 0, some [], []⟩ := by
  intro w first went s
  have hw : w.AreOrderly := Surroundings.areOrderly_deserted
  have hload : Volume.load 0 Store.empty Volume.defaultKey = .ok first.volume := rfl
  have huses : Relation.ReflTransGen Use first s :=
    .tail (.tail (.single (.line 0 "mkdir /a" first hw)) (.line 0 "cd /a" _ hw)) (.change _ _)
  have h : Met s := .underway ⟨_, _, _, _, _, .load hload, rfl, huses⟩
  have hstore : s.volume.store.TakesAll := takesAll_of_uses huses ⟨⟨[], rfl⟩, fun _ => rfl⟩
  have hwritable : s.volume.IsWritable := fun snapshot => (hstore.write _ _).1
  have hcwd : s.cwd = "/a" := by decide +kernel
  have hbelow : s.resolve "b" = "/a/b" := by rw [resolve, hcwd]; decide
  have hbeside : s.resolve ".././b" = "/b" := by rw [resolve, hcwd]; decide
  refine ⟨h, hwritable, by decide +kernel, ?_, ?_⟩
  · obtain ⟨hiff, -, hcomplains⟩ := Met.creates_or_complains h hwritable (w.host 0)
      (c := ⟨"mkdir", "directory", true, none⟩) (by simp [creators])
      (by decide : Text.lower "mkdir" = "mkdir") "b" [] []
    rw [hbelow] at hiff hcomplains
    have hnone : s.volume.root.holdsDirectory (Path.split "/a/b").1 = false := by decide +kernel
    obtain ⟨-, words, hwords, hanswer⟩ := hcomplains fun he => by
      rw [(hiff.mp he).2.2.2] at hnone
      cases hnone
    have hfirst : (s.volume.root.obstacles "/a/b").find? (·.1) =
        some (true, Text.ofString "No such file or directory") := by decide +kernel
    rw [hfirst] at hwords
    cases hwords
    exact hanswer
  · obtain ⟨hiff, hcreates, -⟩ := Met.creates_or_complains h hwritable (w.host 0)
      (c := ⟨"touch", "file", false, some []⟩) (by simp [creators])
      (by decide : Text.lower "Touch" = "touch") ".././b" [] []
    rw [hbeside] at hiff hcreates
    have hanswer := hiff.mpr ⟨by decide, by decide, by decide +kernel, by decide +kernel⟩
    have hname : (Path.split "/b").2 = Text.ofString "b" := by decide
    have hmade := (hcreates hanswer).2.1
    rw [hname] at hmade
    exact ⟨hanswer, hmade⟩

end Session

end VirtualShell
