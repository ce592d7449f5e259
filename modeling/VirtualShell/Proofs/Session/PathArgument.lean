import VirtualShell.Proofs.Path.Resolution
import VirtualShell.Proofs.Session.Redirect
/-
  Paths among the arguments of commands.

  A command resolves a path that it is given, and beyond that only quotes it where it complains. So
  of two spellings that mean the same in the working directory it does the same to the session with
  either, and it puts out the same but for what it quotes. What a path means there is one of its
  spellings, since the working directory is a normal path. All of this holds as well for the target
  of a redirection, where the complaint is logged too.
-/

namespace VirtualShell

open Session (change)

variable {ω : Type} {host : Host ω} {s : Session ω} {a b : Text}

/-- The places at which commands take paths, by the names of the commands. -/
def pathPlaces : List (Text × Nat) := [
  ("cd", 0), ("ls", 0), ("cat", 0), ("mkdir", 0), ("touch", 0), ("rm", 0),
  ("mv", 0), ("mv", 1), ("cp", 0), ("cp", 1), ("grep", 1), ("wc", 0)]

/-- What two calls come to, of which one was given the text `a` and the other `b` in its place: the
same, or the same complaint, in which each quotes what it was given. -/
inductive SameReply (a b : Text) : Except Fault Text → Except Fault Text → Prop
  | same (r : Except Fault Text) : SameReply a b r r
  | quoted (before after : Text) :
    SameReply a b (.ok (Markup.error (before ++ a ++ after)))
      (.ok (Markup.error (before ++ b ++ after)))

/-- Two such calls with the same effect on the session. -/
structure SameRun (a b : Text) (r r' : Except Fault Text × Session ω) : Prop where
  session : r'.2 = r.2
  reply : SameReply a b r.1 r'.1

theorem SameRun.refl (r : Except Fault Text × Session ω) : SameRun a b r r := ⟨rfl, .same _⟩

theorem SameReply.quoted_last (a b before : Text) :
    SameReply a b (.ok (Markup.error (before ++ a))) (.ok (Markup.error (before ++ b))) := by
  have h := SameReply.quoted (a := a) (b := b) before []
  rwa [List.append_nil, List.append_nil] at h

namespace Builtin

/-! ## Commands that look at what a path leads to -/

theorem sameRun_cd (h : s.resolve a = s.resolve b) (rest : List Text) (input : Text) :
    SameRun a b (cd.run host (a :: rest) input s) (cd.run host (b :: rest) input s) := by
  unfold cd
  dsimp only
  rw [Action.get_bind_apply, Action.get_bind_apply]
  dsimp only [List.headD_cons]
  rw [h]
  cases s.volume.directory? (s.resolve b) with
  | none => exact ⟨rfl, .quoted_last a b _⟩
  | some d => exact .refl _

theorem sameRun_ls (h : s.resolve a = s.resolve b) (rest : List Text) (input : Text) :
    SameRun a b (ls.run host (a :: rest) input s) (ls.run host (b :: rest) input s) := by
  unfold ls
  dsimp only
  rw [Action.get_bind_apply, Action.get_bind_apply]
  dsimp only [List.headD_cons]
  rw [h]
  cases s.volume.directory? (s.resolve b) with
  | none => exact ⟨rfl, .quoted _ _⟩
  | some d => exact .refl _

theorem sameRun_cat (h : s.resolve a = s.resolve b) (rest : List Text) (input : Text) :
    SameRun a b (cat.run host (a :: rest) input s) (cat.run host (b :: rest) input s) := by
  unfold cat
  dsimp only
  rw [Action.get_bind_apply, Action.get_bind_apply, h]
  rcases s.volume.node? (s.resolve b) with _ | n
  · exact ⟨rfl, .quoted _ _⟩
  · cases n with
    | file => exact .refl _
    | directory => exact ⟨rfl, .quoted _ _⟩

/-- The text to search is the same, or there is none under either spelling. -/
theorem searchedText_cases (h : s.resolve a = s.resolve b) (rest : List Text) (input : Text) :
    searchedText s (b :: rest) input = searchedText s (a :: rest) input ∨
      searchedText s (a :: rest) input = .error a ∧
        searchedText s (b :: rest) input = .error b := by
  unfold searchedText
  split
  · exact .inl rfl
  · dsimp only
    rw [h]
    cases s.volume.content? (s.resolve b) with
    | none => exact .inr ⟨rfl, rfl⟩
    | some content => exact .inl rfl

theorem sameRun_grep (h : s.resolve a = s.resolve b) (written : Text) (rest : List Text)
    (input : Text) :
    SameRun a b (grep.run host (written :: a :: rest) input s)
      (grep.run host (written :: b :: rest) input s) := by
  unfold grep
  dsimp only
  cases Pattern.ofText written with
  | error fault => cases fault <;> exact .refl _
  | ok pattern =>
    dsimp only
    rw [Action.get_bind_apply, Action.get_bind_apply]
    rcases searchedText_cases h rest input with heq | ⟨ha, hb⟩
    · rw [heq]
      exact .refl _
    · rw [ha, hb]
      exact ⟨rfl, .quoted _ _⟩

theorem sameRun_wc (h : s.resolve a = s.resolve b) (rest : List Text) (input : Text) :
    SameRun a b (wc.run host (a :: rest) input s) (wc.run host (b :: rest) input s) := by
  have hargs (c : Text) : (decide (input = []) && decide (c :: rest = [])) = false := by simp
  unfold wc
  dsimp only
  rw [hargs, hargs, if_neg (by simp), if_neg (by simp), Action.get_bind_apply,
    Action.get_bind_apply]
  rcases searchedText_cases h rest input with heq | ⟨ha, hb⟩
  · rw [heq]
    exact .refl _
  · rw [ha, hb]
    exact ⟨rfl, .quoted _ _⟩

/-! ## Commands that change what a path leads to -/

/-- The end of a command that makes a change: whether it was made settles what is put out. -/
theorem sameRun_change {next next' : Bool → Action (Session ω) Text} (m : Mutation)
    (h : ∀ made s', SameRun a b (next made s') (next' made s')) :
    SameRun a b ((change m >>= next) s) ((change m >>= next') s) := by
  rw [Action.bind_apply, Action.bind_apply]
  rcases change m s with ⟨fault | made, s'⟩
  · exact .refl _
  · exact h made s'

theorem sameRun_create (command kind : Text) (mutation : Text → Text → Mutation)
    (h : s.resolve a = s.resolve b) (rest : List Text) :
    SameRun a b (create command kind mutation (a :: rest) s)
      (create command kind mutation (b :: rest) s) := by
  unfold create
  dsimp only
  rw [Action.get_bind_apply, Action.get_bind_apply, h]
  refine sameRun_change _ fun made s' => ?_
  cases made with
  | true => exact .refl _
  | false =>
    refine ⟨rfl, ?_⟩
    have hreply := SameReply.quoted (a := a) (b := b)
      (command ++ ": cannot create " ++ kind ++ " '")
      ("': " ++ creationFailure s'.volume.lastError)
    rwa [← List.append_assoc, ← List.append_assoc] at hreply

theorem sameRun_rm (h : s.resolve a = s.resolve b) (rest : List Text) (input : Text) :
    SameRun a b (rm.run host (a :: rest) input s) (rm.run host (b :: rest) input s) := by
  unfold rm
  dsimp only
  rw [Action.get_bind_apply, Action.get_bind_apply, h]
  refine sameRun_change _ fun made s' => ?_
  cases made with
  | true => exact .refl _
  | false => exact ⟨rfl, .quoted _ _⟩

theorem sameRun_transfer_source (command verb : Text) (mutation : Text → Text → Mutation)
    (h : s.resolve a = s.resolve b) (rest : List Text) :
    SameRun a b (transfer command verb mutation (a :: rest) s)
      (transfer command verb mutation (b :: rest) s) := by
  cases rest with
  | nil => exact .refl _
  | cons destination rest =>
    unfold transfer
    dsimp only
    rw [Action.get_bind_apply, Action.get_bind_apply, h]
    refine sameRun_change _ fun made s' => ?_
    cases made with
    | true => exact .refl _
    | false =>
      refine ⟨rfl, ?_⟩
      have hreply := SameReply.quoted (a := a) (b := b) (command ++ ": failed to " ++ verb ++ " '")
        ("' to '" ++ destination ++ "'")
      rwa [← List.append_assoc, ← List.append_assoc, ← List.append_assoc, ← List.append_assoc]
        at hreply

theorem sameRun_transfer_destination (command verb : Text) (mutation : Text → Text → Mutation)
    (h : s.resolve a = s.resolve b) (source : Text) (rest : List Text) :
    SameRun a b (transfer command verb mutation (source :: a :: rest) s)
      (transfer command verb mutation (source :: b :: rest) s) := by
  unfold transfer
  dsimp only
  rw [Action.get_bind_apply, Action.get_bind_apply, h]
  refine sameRun_change _ fun made s' => ?_
  cases made with
  | true => exact .refl _
  | false => exact ⟨rfl, .quoted _ _⟩

end Builtin

/-! ## All commands -/

section Dispatch

open Builtin (table others)

variable {name : Text} {c : Builtin ω} {args : List Text} {input : Text}

/-- No two commands have the same name. -/
theorem nodup_names : ((@table ω).map Builtin.name).Nodup := by
  have h : ((@table Unit).map Builtin.name).Nodup := by decide +kernel
  exact h

theorem dispatch_of_mem (hc : c ∈ table) (hname : name.lower = c.name) (args : List Text)
    (input : Text) : dispatch host name args input = c.run host args input := by
  have hsome : (Builtin.find? (ω := ω) name).isSome = true :=
    List.find?_isSome.mpr ⟨c, hc, by simp [hname]⟩
  obtain ⟨c', hc'⟩ := Option.isSome_iff_exists.mp hsome
  obtain ⟨hmem, hname'⟩ := Builtin.mem_table_of_find? hc'
  have heq : c' = c := List.inj_on_of_nodup_map nodup_names hmem hc (hname'.trans hname)
  rw [dispatch, hc', heq]

theorem lower_name_of_mem (hc : c ∈ table) : c.name.lower = c.name := by
  have h : ∀ written ∈ (@table Unit).map Builtin.name, written.lower = written := by decide +kernel
  have hall : ∀ written ∈ (@table ω).map Builtin.name, written.lower = written := h
  exact hall _ (List.mem_map_of_mem hc)

theorem dispatch_name (hc : c ∈ table) (args : List Text) (input : Text) :
    dispatch host c.name args input = c.run host args input :=
  dispatch_of_mem hc (lower_name_of_mem hc) args input

/-- A command that takes a path as its first argument. -/
theorem sameRun_dispatch_first (hc : c ∈ table) (hname : name.lower = c.name)
    (hrun : ∀ rest, SameRun a b (c.run host (a :: rest) input s) (c.run host (b :: rest) input s))
    (ha : args[0]? = some a) :
    SameRun a b (dispatch host name args input s) (dispatch host name (args.set 0 b) input s) := by
  rw [dispatch_of_mem hc hname, dispatch_of_mem hc hname]
  cases args with
  | nil => cases ha
  | cons x rest =>
    cases ha
    exact hrun rest

/-- A command that takes a path as its second argument. -/
theorem sameRun_dispatch_second (hc : c ∈ table) (hname : name.lower = c.name)
    (hrun : ∀ x rest, SameRun a b (c.run host (x :: a :: rest) input s)
      (c.run host (x :: b :: rest) input s)) (ha : args[1]? = some a) :
    SameRun a b (dispatch host name args input s) (dispatch host name (args.set 1 b) input s) := by
  rw [dispatch_of_mem hc hname, dispatch_of_mem hc hname]
  rcases args with _ | ⟨x, _ | ⟨y, rest⟩⟩
  · cases ha
  · cases ha
  · cases ha
    exact hrun x rest

/-- Two spellings of a path do the same in all places where commands take paths. -/
theorem sameRun_dispatch (h : s.resolve a = s.resolve b) {i : Nat}
    (hplace : (name.lower, i) ∈ pathPlaces) (ha : args[i]? = some a) (input : Text) :
    SameRun a b (dispatch host name args input s) (dispatch host name (args.set i b) input s) := by
  -- one case for each place
  simp only [pathPlaces, List.mem_cons, Prod.mk.injEq, List.not_mem_nil, or_false] at hplace
  rcases hplace with ⟨hname, rfl⟩ | ⟨hname, rfl⟩ | ⟨hname, rfl⟩ | ⟨hname, rfl⟩ | ⟨hname, rfl⟩ |
    ⟨hname, rfl⟩ | ⟨hname, rfl⟩ | ⟨hname, rfl⟩ | ⟨hname, rfl⟩ | ⟨hname, rfl⟩ | ⟨hname, rfl⟩ |
    ⟨hname, rfl⟩
  · exact sameRun_dispatch_first (c := Builtin.cd) (by simp [table, others]) hname
      (fun rest => Builtin.sameRun_cd h rest input) ha
  · exact sameRun_dispatch_first (c := Builtin.ls) (by simp [table, others]) hname
      (fun rest => Builtin.sameRun_ls h rest input) ha
  · exact sameRun_dispatch_first (c := Builtin.cat) (by simp [table, others]) hname
      (fun rest => Builtin.sameRun_cat h rest input) ha
  · exact sameRun_dispatch_first (c := Builtin.mkdir) (by simp [table, others]) hname
      (fun rest => Builtin.sameRun_create "mkdir" "directory" Mutation.createDirectory h rest) ha
  · exact sameRun_dispatch_first (c := Builtin.touch) (by simp [table, others]) hname
      (fun rest => Builtin.sameRun_create "touch" "file"
        (fun parent name => .createFile parent name []) h rest) ha
  · exact sameRun_dispatch_first (c := Builtin.rm) (by simp [table, others]) hname
      (fun rest => Builtin.sameRun_rm h rest input) ha
  · exact sameRun_dispatch_first (c := Builtin.mv) (by simp [table, others]) hname
      (fun rest => Builtin.sameRun_transfer_source "mv" "move" Mutation.move h rest) ha
  · exact sameRun_dispatch_second (c := Builtin.mv) (by simp [table, others]) hname
      (fun x rest => Builtin.sameRun_transfer_destination "mv" "move" Mutation.move h x rest) ha
  · exact sameRun_dispatch_first (c := Builtin.cp) (by simp [table, others]) hname
      (fun rest => Builtin.sameRun_transfer_source "cp" "copy" Mutation.copy h rest) ha
  · exact sameRun_dispatch_second (c := Builtin.cp) (by simp [table, others]) hname
      (fun x rest => Builtin.sameRun_transfer_destination "cp" "copy" Mutation.copy h x rest) ha
  · exact sameRun_dispatch_second (c := Builtin.grep) (by simp [table, others]) hname
      (fun x rest => Builtin.sameRun_grep h x rest input) ha
  · exact sameRun_dispatch_first (c := Builtin.wc) (by simp [table, others]) hname
      (fun rest => Builtin.sameRun_wc h rest input) ha

end Dispatch

/-! ## Redirections -/

theorem Session.redirectFailure_cases (v : Volume) (a b path : Text) :
    redirectFailure v b path = redirectFailure v a path ∨
      ∃ before after, redirectFailure v a path = before ++ a ++ after ∧
        redirectFailure v b path = before ++ b ++ after := by
  unfold redirectFailure
  split
  · exact .inr ⟨[], " is write-protected.", rfl, rfl⟩
  · split
    · exact .inr ⟨[], " is a directory.", rfl, rfl⟩
    · split
      · exact .inl rfl
      · exact .inr ⟨"Could not write to ", ".", rfl, rfl⟩

/-- Output put into a file under one spelling of its path or the other: only the log may differ, in
the complaint. -/
theorem sameRun_redirect (h : s.resolve a = s.resolve b) (content : Text) :
    let r := Session.redirect a content s
    let r' := Session.redirect b content s
    r'.2 = { r.2 with log := r'.2.log } ∧ SameReply a b r.1 r'.1 := by
  intro r r'
  have hr : r = _ := Session.redirect_eq a content s
  have hr' : r' = _ := Session.redirect_eq b content s
  rw [h] at hr
  rw [hr, hr']
  generalize Volume.settle _ s.volume = settled
  obtain ⟨fault | _ | _, v⟩ := settled
  · exact ⟨rfl, .same _⟩
  · refine ⟨rfl, ?_⟩
    rw [Session.redirectedBy, Session.redirectedBy, h]
    rcases Session.redirectFailure_cases v a b (s.resolve b) with heq | ⟨before, after, ha, hb⟩
    · rw [heq]
      exact .same _
    · rw [ha, hb]
      exact .quoted before after
  · exact ⟨rfl, .same _⟩

/-! ## What a path means -/

namespace Session

/-- In the session `s` a path is as good as what it means there, wherever commands take paths and as
the target of a redirection. -/
structure ReadsPaths (s : Session ω) : Prop where
  command (host : Host ω) {name : Text} {i : Nat} : (name.lower, i) ∈ pathPlaces →
    ∀ (args : List Text) (input path : Text), args[i]? = some path →
      SameRun path (s.resolve path) (dispatch host name args input s)
        (dispatch host name (args.set i (s.resolve path)) input s)
  redirection (target content : Text) :
    let r := redirect target content s
    let r' := redirect (s.resolve target) content s
    r'.2 = { r.2 with log := r'.2.log } ∧ SameReply target (s.resolve target) r.1 r'.1

/-- What a path means in a normal directory means itself there. -/
theorem resolve_resolve {s : Session ω} (h : Path.IsNormal s.cwd) (path : Text) :
    s.resolve (s.resolve path) = s.resolve path := Path.resolve_resolve path s.cwd h

theorem readsPaths_of_isNormal {s : Session ω} (h : Path.IsNormal s.cwd) : s.ReadsPaths where
  command _ _ _ hplace _ input path ha :=
    sameRun_dispatch (resolve_resolve h path).symm hplace ha input
  redirection target content := sameRun_redirect (resolve_resolve h target).symm content

end Session

end VirtualShell
