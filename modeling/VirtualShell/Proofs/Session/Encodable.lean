import VirtualShell.Proofs.FileSystem.Encodable
import VirtualShell.Proofs.Pattern.Encodable
import VirtualShell.Proofs.Session.Builtin
/-
  Commands without surrogates.

  What a command puts out is made of its arguments, its input, the session, what the host tells and
  texts of its own. `Yields` follows this through the calls that a command makes: where none of the
  former holds a surrogate, the output holds none, nor does the reason where there is none, and the
  session stays without them.
-/

namespace VirtualShell

namespace Session

variable {ω α β : Type}

/-- A session in which no text that a command could put out holds a surrogate. -/
structure IsEncodable (s : Session ω) : Prop where
  tree : s.volume.root.IsEncodable
  cwd : s.cwd.IsEncodable
  history : ∀ line ∈ s.history.lines, line.IsEncodable
  user : ∀ name ∈ s.settings.user, name.IsEncodable

/-- From a session without surrogates a call leads to one, and it ends with an answer that `P` holds
of or with a fault whose words hold no surrogate. -/
def Yields (P : α → Prop) (call : Action (Session ω) α) : Prop :=
  ∀ s, s.IsEncodable → (call s).2.IsEncodable ∧
    match (call s).1 with
    | .ok a => P a
    | .error fault => fault.message.IsEncodable

variable {P : α → Prop} {Q : β → Prop}

namespace Yields

theorem pure {a : α} (h : P a) : Yields P (pure a : Action (Session ω) α) := fun _ hs => ⟨hs, h⟩

theorem get : Yields IsEncodable (get : Action (Session ω) (Session ω)) := fun _ hs => ⟨hs, hs⟩

theorem throw {fault : Fault} (h : fault.message.IsEncodable) :
    Yields P (throw fault : Action (Session ω) α) := fun _ hs => ⟨hs, h⟩

theorem bind {call : Action (Session ω) α} {next : α → Action (Session ω) β} (h : Yields P call)
    (hn : ∀ a, P a → Yields Q (next a)) : Yields Q (call >>= next) := by
  intro s hs
  rw [Action.bind_apply]
  obtain ⟨hleft, hanswer⟩ := h s hs
  rcases hr : call s with ⟨_ | a, s'⟩
  · rw [hr] at hleft hanswer
    exact ⟨hleft, hanswer⟩
  · rw [hr] at hleft hanswer
    exact hn a hanswer s' hleft

theorem discard {call : Action (Session ω) α} (h : Yields P call) :
    Yields (fun _ => True) (discard call : Action (Session ω) PUnit) := by
  intro s hs
  obtain ⟨hleft, hanswer⟩ := h s hs
  have hfault := Action.fault?_discard_apply call s
  rw [Action.discard_apply_snd]
  refine ⟨hleft, ?_⟩
  cases hd : (Functor.discard call s).1 with
  | ok => trivial
  | error fault =>
    rw [hd] at hfault
    cases hr : (call s).1 with
    | ok => rw [hr] at hfault; cases hfault
    | error fault' =>
      rw [hr] at hfault hanswer
      cases hfault
      exact hanswer

theorem draw (next : ω → α × ω) : Yields (fun _ => True) (Session.draw next) :=
  fun _ hs => ⟨⟨hs.tree, hs.cwd, hs.history, hs.user⟩, trivial⟩

end Yields

/-- A fault of the store is put into words of the shell's own. -/
theorem isEncodable_message_store (fault : StoreFault) :
    (Fault.store fault).message.IsEncodable := by
  cases fault with
  | disk fault => cases fault <;> simp [Fault.message, StoreFault.message]
  | name fault => cases fault <;> simp [Fault.message, StoreFault.message]
  | _ => simp [Fault.message, StoreFault.message]

theorem isEncodable_message_of_isNumeric {fault : Fault} (h : fault.IsNumeric) :
    fault.message.IsEncodable := by
  obtain ⟨words, rfl | rfl⟩ := h <;> simp [Fault.message]

theorem yields_change {m : Mutation} (hm : m.IsEncodable) :
    Yields (fun _ => True) (change m : Action (Session ω) Bool) := by
  intro s hs
  have hroot := Volume.root_settle (m.verdict s.now s.volume.root) s.volume
  have htree : ((m.verdict s.now s.volume.root).tree s.volume.root).IsEncodable :=
    Mutation.isEncodable_tree_verdict hs.tree hm
  rw [← hroot] at htree
  have hchange : change m s = ((Volume.settle (m.verdict s.now s.volume.root) s.volume).1,
    { s with volume := (Volume.settle (m.verdict s.now s.volume.root) s.volume).2 }) := rfl
  rw [hchange]
  refine ⟨⟨htree, hs.cwd, hs.history, hs.user⟩, ?_⟩
  dsimp only
  cases hr : (Volume.settle (m.verdict s.now s.volume.root) s.volume).1 with
  | ok => trivial
  | error fault =>
    -- the fault is the store's: nothing in the change lacks a size
    rcases Volume.fault_of_settle hr with ⟨f, rfl⟩ | ⟨content, hv, -⟩
    · exact isEncodable_message_store f
    · exact absurd hv (Mutation.verdict_ne_unencodable hm content)

theorem IsEncodable.resolve {s : Session ω} (h : s.IsEncodable) {path : Text}
    (hp : path.IsEncodable) : (s.resolve path).IsEncodable := Path.isEncodable_resolve hp h.cwd

theorem IsEncodable.content? {s : Session ω} (h : s.IsEncodable) {path content : Text}
    (hc : s.volume.content? path = some content) : content.IsEncodable := by
  obtain ⟨n, hn, hc⟩ := Option.bind_eq_some_iff.mp hc
  exact (h.tree.lookup hn).isEncodable_content hc

end Session

/-- A message without surrogates that asks for an app to be opened, perhaps on something. -/
def Json.IsEncodableOpening (message : Json) : Prop :=
  ∃ appId : Text, appId.IsEncodable ∧ (message = Builtin.openApp appId ∨
    ∃ key path : Text, key.IsEncodable ∧ path.IsEncodable ∧
      message = Builtin.openInApp appId key path)

/-- A host that tells a session nothing with surrogates in it, and on which those who are asked to
open something bring in none. -/
structure Host.IsEncodable {ω : Type} (host : Host ω) : Prop where
  address : ∀ (o : ω) (address : Text), (host.lookUpAddress o).1 = .ok address →
    address.IsEncodable
  runtime : host.machine.runtime.IsEncodable
  system : host.machine.system.IsEncodable
  release : host.machine.release.IsEncodable
  publish : ∀ message : Json, message.IsEncodableOpening →
    Session.Yields (fun _ => True) (host.bus.publish message)

namespace Builtin

open Session (Yields)

variable {ω : Type} {host : Host ω} {args : List Text} {input : Text}

/-! ## Commands that only look -/

theorem isEncodable_text (t : CalendarTime) : t.text.IsEncodable := by
  have hweekday : ∀ name ∈ CalendarTime.weekdayNames, name.IsEncodable := by
    simp [CalendarTime.weekdayNames]
  have hmonth : ∀ name ∈ CalendarTime.monthNames, name.IsEncodable := by
    simp [CalendarTime.monthNames]
  have hdigits (n : Nat) : (CalendarTime.twoDigits n).IsEncodable := by
    simp [CalendarTime.twoDigits]
  refine Text.IsEncodable.join (Text.isEncodable_ofString _) ?_
  simp only [List.forall_mem_cons, List.not_mem_nil, false_implies, implies_true, and_true]
  refine ⟨Text.isEncodable_getD hweekday _, Text.isEncodable_getD hmonth _, hdigits _,
    Text.isEncodable_ofInt _,
    Text.IsEncodable.join (Text.isEncodable_ofString _) ?_⟩
  simp [hdigits]

theorem yields_date (host : Host ω) (args : List Text) (input : Text) :
    Yields Text.IsEncodable (date.run host args input) := by
  refine .bind .get fun s _ => ?_
  split
  · exact .pure (isEncodable_text _)
  · rename_i fault hfault
    exact .throw (Session.isEncodable_message_of_isNumeric (isNumeric_of_ofInstant hfault))

theorem yields_echo (host : Host ω) (hargs : ∀ arg ∈ args, arg.IsEncodable) (input : Text) :
    Yields Text.IsEncodable (echo.run host args input) :=
  .pure (Text.IsEncodable.join (Text.isEncodable_ofString _) hargs)

theorem yields_neofetch (h : host.IsEncodable) (args : List Text) (input : Text) :
    Yields Text.IsEncodable (neofetch.run host args input) := by
  refine .pure (Text.IsEncodable.join (Text.isEncodable_ofString _) ?_)
  simp [h.runtime, h.system, h.release]

theorem isEncodable_of_mem_numbered {lines : List Text} (h : ∀ line ∈ lines, line.IsEncodable) :
    ∀ n, ∀ line ∈ numbered n lines, line.IsEncodable := by
  induction lines with
  | nil => exact fun _ _ hl => nomatch hl
  | cons first rest ih =>
    obtain ⟨hfirst, hrest⟩ := List.forall_mem_cons.mp h
    exact fun n => List.forall_mem_cons.mpr ⟨by simp [hfirst], ih hrest (n + 1)⟩

theorem yields_history (host : Host ω) (args : List Text) (input : Text) :
    Yields Text.IsEncodable (history.run host args input) := by
  refine .bind .get fun s hs => .pure (Text.IsEncodable.join (Text.isEncodable_ofString _) ?_)
  exact isEncodable_of_mem_numbered hs.history 1

theorem yields_whoami (host : Host ω) (args : List Text) (input : Text) :
    Yields Text.IsEncodable (whoami.run host args input) := by
  refine .bind .get fun s hs => ?_
  split
  · rename_i name hname
    exact .pure (hs.user name hname)
  · exact .throw (by simp [Fault.message])

theorem yields_uptime (host : Host ω) (args : List Text) (input : Text) :
    Yields Text.IsEncodable (uptime.run host args input) := by
  refine .bind .get fun s _ => ?_
  split
  · rename_i fault hfault
    exact .throw (Session.isEncodable_message_of_isNumeric (isNumeric_of_wholePart hfault))
  · exact .pure (by simp)

theorem yields_ipconfig (h : host.IsEncodable) (args : List Text) (input : Text) :
    Yields Text.IsEncodable (ipconfig.run host args input) := by
  have hasked : Yields (fun result => ∀ address, result = .ok address → Text.IsEncodable address)
      (Action.attempt (Session.onOutside host.lookUpAddress)) :=
    fun s hs => ⟨⟨hs.tree, hs.cwd, hs.history, hs.user⟩, h.address s.outside⟩
  refine .bind hasked fun result hresult => ?_
  split
  · rename_i address
    exact .pure (by simp [hresult address rfl])
  · exact .pure (by simp)

/-! ## Help -/

theorem isEncodable_pages : ∀ p ∈ pages, p.1.IsEncodable ∧ p.2.description.IsEncodable ∧
    p.2.usage.IsEncodable ∧ ∀ t ∈ p.2.examples, t.IsEncodable := by
  simp [pages, others, helpPage, clearPage, date, echo, neofetch, ai, history, uname, whoami,
    uptime, pwd, cd, ls, cat, mkdir, touch, rm, mv, cp, openAny, grep, wc, ping, ipconfig, cowsay,
    fortune]

theorem isEncodable_render {name : Text} {page : HelpPage} (hn : name.IsEncodable)
    (hd : page.description.IsEncodable) (hu : page.usage.IsEncodable)
    (he : ∀ t ∈ page.examples, t.IsEncodable) : (page.render name).IsEncodable := by
  refine Text.IsEncodable.trimRight (Text.IsEncodable.join (Text.isEncodable_ofString _) ?_)
  have husage : ∀ t ∈ (if page.usage = [] then ([] : List Text)
      else ["Usage:", "    " ++ page.usage, []]), t.IsEncodable := by
    split <;> simp [hu]
  have hexamples : ∀ t ∈ (if page.examples = [] then ([] : List Text)
      else "Examples:" :: page.examples.map fun t => "    " ++ t), t.IsEncodable := by
    split
    · exact fun _ ht => nomatch ht
    · simpa using he
  rw [List.cons_append, List.cons_append]
  refine List.forall_mem_cons.mpr ⟨by simp [hn, hd], List.forall_mem_cons.mpr ⟨by simp, ?_⟩⟩
  exact List.forall_mem_append.mpr ⟨husage, hexamples⟩

theorem yields_help (host : Host ω) (hargs : ∀ arg ∈ args, arg.IsEncodable) (input : Text) :
    Yields Text.IsEncodable (help.run host args input) := by
  unfold help
  dsimp only
  split
  · have hkeys : ∀ key ∈ Entries.keys pages, key.IsEncodable := by
      intro key hk
      obtain ⟨p, hp, rfl⟩ := List.mem_map.mp hk
      exact (isEncodable_pages p hp).1
    exact .pure (by simp [Text.IsEncodable.join (Text.isEncodable_ofString _) hkeys])
  · rename_i arg _
    have harg := hargs arg List.mem_cons_self
    split
    · rename_i page hpage
      obtain ⟨-, hd, hu, he⟩ := isEncodable_pages _ (Entries.mem_of_get? hpage)
      exact .pure (isEncodable_render harg.lower hd hu he)
    · exact .pure (by simp [harg])

/-! ## Commands on the tree -/

theorem yields_pwd (host : Host ω) (args : List Text) (input : Text) :
    Yields Text.IsEncodable (pwd.run host args input) := .bind .get fun _ hs => .pure hs.cwd

theorem yields_cd (host : Host ω) (hargs : ∀ arg ∈ args, arg.IsEncodable) (input : Text) :
    Yields Text.IsEncodable (cd.run host args input) := by
  have hpath := Text.isEncodable_headD hargs (Text.isEncodable_ofString "/")
  unfold cd
  dsimp only
  intro s hs
  rw [Action.get_bind_apply]
  cases s.volume.directory? (s.resolve (args.headD Path.root)) with
  | none =>
    refine ⟨hs, Text.isEncodable_error.mpr (Text.isEncodable_append.mpr ⟨?_, hpath⟩)⟩
    exact Text.isEncodable_ofString _
  | some d => exact ⟨⟨hs.tree, hs.resolve hpath, hs.history, hs.user⟩, Text.isEncodable_nil⟩

theorem isEncodable_of_mem_listing {children : List (Text × Node)}
    (h : ∀ e ∈ children, e.1.IsEncodable) : ∀ line ∈ listing children, line.IsEncodable := by
  intro line hl
  obtain ⟨name, hn, rfl⟩ := List.mem_map.mp hl
  obtain ⟨e, he, rfl⟩ := List.mem_map.mp (List.mem_mergeSort.mp hn)
  split
  · simp [h e he]
  · exact h e he

theorem yields_ls (host : Host ω) (hargs : ∀ arg ∈ args, arg.IsEncodable) (input : Text) :
    Yields Text.IsEncodable (ls.run host args input) := by
  have hnamed := Text.isEncodable_headD hargs (Text.isEncodable_ofString ".")
  refine .bind .get fun s hs => ?_
  dsimp only
  split
  · exact .pure (by simpa using hnamed)
  · rename_i d hd
    have hfound := hs.tree.lookup (Option.filter_eq_some_iff.mp hd).1
    refine .pure (Text.IsEncodable.join (Text.isEncodable_ofString _) ?_)
    exact isEncodable_of_mem_listing fun e he => (hfound.of_mem_children e he).1

theorem yields_cat (host : Host ω) (hargs : ∀ arg ∈ args, arg.IsEncodable)
    (hinput : input.IsEncodable) : Yields Text.IsEncodable (cat.run host args input) := by
  refine .bind .get fun s hs => ?_
  split
  · refine .pure ?_
    split
    · exact hinput
    · simp
  · rename_i arg _
    have harg := hargs arg List.mem_cons_self
    split
    · rename_i hn
      exact .pure (hs.tree.lookup hn).2.2
    · exact .pure (by simp [harg])
    · exact .pure (by simp [harg])

theorem isEncodable_creationFailure (reason : Option Refusal) :
    (creationFailure reason).IsEncodable := by
  unfold creationFailure
  split <;> simp

theorem yields_create (command kind : String) (mutation : Text → Text → Mutation)
    (hm : ∀ parent name : Text, parent.IsEncodable → name.IsEncodable →
      (mutation parent name).IsEncodable) (hargs : ∀ arg ∈ args, arg.IsEncodable) :
    Yields Text.IsEncodable (create command kind mutation args : Action (Session ω) Text) := by
  unfold create
  split
  · exact .pure (by simp)
  · rename_i arg _
    have harg := hargs arg List.mem_cons_self
    refine .bind .get fun s hs => ?_
    obtain ⟨hparent, hname⟩ := Path.isEncodable_split (hs.resolve harg)
    refine .bind (Session.yields_change (hm _ _ hparent hname)) fun made _ => ?_
    split
    · exact .pure Text.isEncodable_nil
    · refine .bind .get fun s _ => .pure ?_
      simp [harg, isEncodable_creationFailure]

theorem yields_rm (host : Host ω) (hargs : ∀ arg ∈ args, arg.IsEncodable) (input : Text) :
    Yields Text.IsEncodable (rm.run host args input) := by
  unfold rm
  dsimp only
  split
  · exact .pure (by simp)
  · rename_i arg _
    have harg := hargs arg List.mem_cons_self
    refine .bind .get fun s hs => ?_
    refine .bind (Session.yields_change (hs.resolve harg)) fun made _ => ?_
    split
    · exact .pure Text.isEncodable_nil
    · exact .pure (by simp [harg])

theorem yields_transfer (command verb : String) (mutation : Text → Text → Mutation)
    (hm : ∀ source destination : Text, source.IsEncodable → destination.IsEncodable →
      (mutation source destination).IsEncodable) (hargs : ∀ arg ∈ args, arg.IsEncodable) :
    Yields Text.IsEncodable (transfer command verb mutation args : Action (Session ω) Text) := by
  unfold transfer
  split
  · rename_i source destination _
    have hsource := hargs source (by simp)
    have hdestination := hargs destination (by simp)
    refine .bind .get fun s hs => ?_
    refine .bind (Session.yields_change (hm _ _ (hs.resolve hsource) (hs.resolve hdestination)))
      fun made _ => ?_
    split
    · exact .pure Text.isEncodable_nil
    · exact .pure (by simp [hsource, hdestination])
  · exact .pure (by simp)

theorem isEncodable_extension {name : Text} (h : name.IsEncodable) :
    (extension name).IsEncodable := by
  unfold extension
  split
  · rename_i hcut
    exact (h.of_subset (Text.subset_of_cutLast hcut).2).lower
  · exact h.lower

theorem yields_openAny (h : host.IsEncodable) (hargs : ∀ arg ∈ args, arg.IsEncodable)
    (input : Text) : Yields Text.IsEncodable (openAny.run host args input) := by
  have opened {message : Json} (hm : message.IsEncodableOpening) : Yields Text.IsEncodable (do
      discard <| host.bus.publish message
      return ([] : Text)) :=
    .bind (h.publish message hm).discard fun _ _ => .pure Text.isEncodable_nil
  refine .bind .get fun s hs => ?_
  split
  · exact .pure (by simp)
  · rename_i arg _
    split
    · exact opened ⟨arg, hargs arg List.mem_cons_self, .inl rfl⟩
    · rename_i path _ _ hn
      exact opened ⟨_, Text.isEncodable_ofString _, .inr ⟨_, path, Text.isEncodable_ofString _,
        (hs.tree.lookup hn).isEncodable_path, rfl⟩⟩
    · rename_i name path _ _ _ hn
      have hfile := hs.tree.lookup hn
      have hextension : (extension name).IsEncodable :=
        isEncodable_extension hfile.isEncodable_name
      split
      · exact .pure (by simp [hextension])
      · rename_i appId happ
        have hid : appId.IsEncodable := by
          unfold appFor? at happ
          split at happ
          · cases happ
            exact Text.isEncodable_ofString _
          · split at happ
            · cases happ
              exact Text.isEncodable_ofString _
            · cases happ
        exact opened ⟨appId, hid, .inr ⟨_, path, Text.isEncodable_ofString _,
          hfile.isEncodable_path, rfl⟩⟩

/-! ## Commands that read text -/

theorem isEncodable_searchedText {s : Session ω} (hs : s.IsEncodable) {files : List Text}
    (hinput : input.IsEncodable) {t : Text} (h : searchedText s files input = .ok t) :
    t.IsEncodable := by
  unfold searchedText at h
  split at h
  · cases h
    exact hinput
  · split at h
    · cases h
      exact Text.isEncodable_nil
    · split at h
      · rename_i content hc
        cases h
        exact hs.content? hc
      · cases h

theorem mem_of_searchedText {s : Session ω} {files : List Text} {file : Text}
    (h : searchedText s files input = .error file) : file ∈ files := by
  unfold searchedText at h
  split at h
  · cases h
  · split at h
    · cases h
    · split at h
      · cases h
      · cases h
        exact List.mem_cons_self

theorem isEncodable_of_mem_matchingLines {pattern : Pattern} {t : Text} (h : t.IsEncodable) :
    ∀ line ∈ matchingLines pattern t, line.IsEncodable := by
  intro line hl
  obtain ⟨pieces, hp, rfl⟩ := List.mem_map.mp hl
  obtain ⟨original, ho, rfl⟩ := List.mem_map.mp (List.mem_filter.mp hp).1
  refine isEncodable_markHits (fun hit hh => ?_) fun piece =>
    Pattern.isEncodable_of_mem_pieces (h.of_mem_pieces ho)
  split
  · exact Text.isEncodable_nil
  · exact Text.isEncodable_highlight.mpr hh

theorem yields_grep (host : Host ω) (hargs : ∀ arg ∈ args, arg.IsEncodable)
    (hinput : input.IsEncodable) : Yields Text.IsEncodable (grep.run host args input) := by
  unfold grep
  dsimp only
  split
  · exact .pure (by simp)
  · rename_i written files
    split
    · rename_i cause position hreport
      have hwords := Pattern.isEncodable_report (hargs written List.mem_cons_self) hreport
      exact .pure (by simp [hwords])
    · exact .throw (by simp [Fault.message])
    · exact .throw (by simp [Fault.message])
    · exact .throw (by simp [Fault.message])
    · refine .bind .get fun s hs => ?_
      split
      · rename_i file hfile
        have hnamed := hargs file (List.mem_cons_of_mem _ (mem_of_searchedText hfile))
        exact .pure (by simp [hnamed])
      · rename_i t ht
        split
        · exact .pure Text.isEncodable_nil
        · refine .pure (Text.IsEncodable.join (Text.isEncodable_ofString _) ?_)
          exact isEncodable_of_mem_matchingLines (isEncodable_searchedText hs hinput ht)

theorem isEncodable_counts {t line : Text} (h : counts t = .ok line) : line.IsEncodable := by
  unfold counts at h
  split at h
  · cases h
  · cases h
    exact Text.IsEncodable.join (Text.isEncodable_ofString _) (by simp)

/-- Text without surrogates can be counted. -/
theorem counts_ne_error {t : Text} (h : t.IsEncodable) (fault : Fault) :
    counts t ≠ .error fault := by
  intro hc
  unfold counts at hc
  split at hc
  · rename_i hnone
    rw [Text.utf8Length?_eq_none_iff, Text.any_isSurrogate_eq_false h] at hnone
    cases hnone
  · cases hc

theorem yields_wc (host : Host ω) (hargs : ∀ arg ∈ args, arg.IsEncodable)
    (hinput : input.IsEncodable) : Yields Text.IsEncodable (wc.run host args input) := by
  unfold wc
  dsimp only
  split
  · exact .pure (by simp)
  · refine .bind .get fun s hs => ?_
    split
    · rename_i file hfile
      exact .pure (by simp [hargs file (mem_of_searchedText hfile)])
    · rename_i t ht
      split
      · rename_i fault hcounts
        exact absurd hcounts (counts_ne_error (isEncodable_searchedText hs hinput ht) fault)
      · rename_i line hcounts
        exact .pure (isEncodable_counts hcounts)

/-! ## Pastimes -/

theorem yields_replies (machine : Host ω) {name : Text} (h : name.IsEncodable) (n : Nat) :
    Yields (fun lines => ∀ line ∈ lines, Text.IsEncodable line) (replies machine name n) := by
  induction n with
  | zero => exact .pure fun _ hl => nomatch hl
  | succ n ih =>
    have roll : Yields (fun lines => ∀ line ∈ lines, Text.IsEncodable line) (do
        let time ← Session.draw (machine.source.roll 30)
        let line : Text := "Reply from " ++ name ++ ": time=" ++ Text.ofNat (1 + time) ++ "ms"
        return line :: (← replies machine name n)) := by
      refine .bind (.draw _) fun time _ => .bind ih fun lines hlines => .pure ?_
      exact List.forall_mem_cons.mpr ⟨by simp [h], hlines⟩
    refine .bind .get fun s _ => ?_
    dsimp only
    split
    · exact .bind (.draw _) fun _ _ => roll
    · exact roll

theorem yields_ping (host : Host ω) (hargs : ∀ arg ∈ args, arg.IsEncodable) (input : Text) :
    Yields Text.IsEncodable (ping.run host args input) := by
  have hname := Text.isEncodable_headD hargs (Text.isEncodable_ofString "localhost")
  refine .bind (yields_replies host hname 4) fun lines hlines => .pure ?_
  exact Text.IsEncodable.join (Text.isEncodable_ofString _) hlines

theorem isEncodable_of_mem_bubbleBelow {lines : List Text} (h : ∀ line ∈ lines, line.IsEncodable) :
    ∀ line ∈ bubbleBelow lines, line.IsEncodable := by
  fun_induction bubbleBelow lines with
  | case1 => exact fun _ hl => nomatch hl
  | case2 line => simpa using h
  | case3 line next rest ih =>
    obtain ⟨hline, hrest⟩ := List.forall_mem_cons.mp h
    exact List.forall_mem_cons.mpr ⟨by simp [hline], ih hrest⟩

theorem isEncodable_of_mem_bubbleEdges {lines : List Text} (h : ∀ line ∈ lines, line.IsEncodable) :
    ∀ line ∈ bubbleEdges lines, line.IsEncodable := by
  unfold bubbleEdges
  split
  · exact fun _ hl => nomatch hl
  · simpa using h
  · obtain ⟨hline, hrest⟩ := List.forall_mem_cons.mp h
    exact List.forall_mem_cons.mpr ⟨by simp [hline], isEncodable_of_mem_bubbleBelow hrest⟩

theorem isEncodable_speechBubble {width : Int} {t : Text} (h : t.IsEncodable) :
    (speechBubble width t).IsEncodable := by
  have hedge (n : Nat) (c : Char) :
      (" " ++ List.replicate n (CodePoint.ofChar c) : Text).IsEncodable := by
    simp [Text.isEncodable_replicate_ofChar]
  refine Text.IsEncodable.join (Text.isEncodable_ofString _) ?_
  simp only [List.forall_mem_append, List.forall_mem_singleton]
  exact ⟨⟨hedge _ _, isEncodable_of_mem_bubbleEdges fun line hl => h.of_mem_wrap hl⟩, hedge _ _⟩

theorem yields_cowsay (host : Host ω) (hargs : ∀ arg ∈ args, arg.IsEncodable)
    (hinput : input.IsEncodable) : Yields Text.IsEncodable (cowsay.run host args input) := by
  have hwords := Text.IsEncodable.join (Text.isEncodable_ofString " ") hargs
  have hmessage : (if Text.join " " args ≠ [] then Text.join " " args
      else if input ≠ [] then input else "Moo!").IsEncodable := by
    split
    · exact hwords
    · split
      · exact hinput
      · exact Text.isEncodable_ofString _
  exact .pure (Text.isEncodable_append.mpr ⟨isEncodable_speechBubble hmessage, by simp [cow]⟩)

theorem yields_fortune (host : Host ω) (args : List Text) (input : Text) :
    Yields Text.IsEncodable (fortune.run host args input) := by
  have hfortunes : ∀ t ∈ fortunes, t.IsEncodable := by simp [fortunes]
  exact .bind (.draw _) fun n _ => .pure (Text.isEncodable_getD hfortunes n)

theorem yields_ai (host : Host ω) (args : List Text) (input : Text) :
    Yields Text.IsEncodable (ai.run host args input) :=
  .pure (Text.isEncodable_ofString _)

theorem yields_uname (host : Host ω) (args : List Text) (input : Text) :
    Yields Text.IsEncodable (uname.run host args input) :=
  .pure (Text.isEncodable_ofString _)

/-! ## The table -/

theorem yields_run_of_mem (h : host.IsEncodable) {b : Builtin ω} (hb : b ∈ table)
    (hargs : ∀ arg ∈ args, arg.IsEncodable) (hinput : input.IsEncodable) :
    Yields Text.IsEncodable (b.run host args input) := by
  simp only [table, others, List.mem_cons, List.not_mem_nil, or_false] at hb
  rcases hb with rfl | rfl | rfl | rfl | rfl | rfl | rfl | rfl | rfl | rfl | rfl | rfl | rfl | rfl |
    rfl | rfl | rfl | rfl | rfl | rfl | rfl | rfl | rfl | rfl | rfl
  · exact yields_help host hargs input
  · exact yields_date host args input
  · exact yields_echo host hargs input
  · exact yields_neofetch h args input
  · exact yields_ai host args input
  · exact yields_history host args input
  · exact yields_uname host args input
  · exact yields_whoami host args input
  · exact yields_uptime host args input
  · exact yields_pwd host args input
  · exact yields_cd host hargs input
  · exact yields_ls host hargs input
  · exact yields_cat host hargs hinput
  · exact yields_create "mkdir" "directory" Mutation.createDirectory
      (fun _ _ hparent hname => ⟨hparent, hname⟩) hargs
  · exact yields_create "touch" "file" (fun parent name => .createFile parent name [])
      (fun _ _ hparent hname => ⟨hparent, hname, Text.isEncodable_nil⟩) hargs
  · exact yields_rm host hargs input
  · exact yields_transfer "mv" "move" Mutation.move
      (fun _ _ hsource hdestination => ⟨hsource, hdestination⟩) hargs
  · exact yields_transfer "cp" "copy" Mutation.copy
      (fun _ _ hsource hdestination => ⟨hsource, hdestination⟩) hargs
  · exact yields_openAny h hargs input
  · exact yields_grep host hargs hinput
  · exact yields_wc host hargs hinput
  · exact yields_ping host hargs input
  · exact yields_ipconfig h args input
  · exact yields_cowsay host hargs hinput
  · exact yields_fortune host args input

end Builtin

theorem yields_dispatch {ω : Type} {host : Host ω} (h : host.IsEncodable) {name : Text}
    {args : List Text} {input : Text} (hname : name.IsEncodable)
    (hargs : ∀ arg ∈ args, arg.IsEncodable) (hinput : input.IsEncodable) :
    Session.Yields Text.IsEncodable (dispatch host name args input) := by
  rw [dispatch]
  split
  · rename_i b hb
    exact Builtin.yields_run_of_mem h (List.mem_of_find?_eq_some hb) hargs hinput
  · exact .pure (by simp [hname])

end VirtualShell
