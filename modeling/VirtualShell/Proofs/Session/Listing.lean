import VirtualShell.Proofs.Markup
import VirtualShell.Proofs.Session.Escape
import VirtualShell.Proofs.Session.PathArgument
import VirtualShell.Proofs.Text.Order
/-
  Colour that is added goes without a trace.

  A control sequence put into a text is found by stripping wherever it stands. What comes before it
  cannot run on into it, since its escape character is in no other sequence, and what comes after it
  is not looked at before it has gone. So text in a colour is stripped as the text alone would be,
  and a listing, where the names of directories are in colour, becomes the names.
-/

namespace VirtualShell

open Markup (IsSequence strip)

variable {ω : Type} {host : Host ω} {s : Session ω}

/-! ## Listings -/

/-- The directory that a listing with these arguments is of. -/
def Session.listedPath (s : Session ω) : List Text → Text
  | [] => s.cwd
  | arg :: _ => s.resolve arg

theorem Builtin.run_ls {args : List Text} {input : Text} {d : Node}
    (hd : s.volume.directory? (s.listedPath args) = some d) :
    ls.run host args input s = (.ok (Text.join "\n" (listing d.children)), s) := by
  cases args with
  | nil =>
    have hcwd : s.volume.directory? s.cwd = some d := hd
    unfold ls
    dsimp only
    rw [Action.get_bind_apply, hcwd]
    rfl
  | cons arg rest =>
    have harg : s.volume.directory? (s.resolve arg) = some d := hd
    unfold ls
    dsimp only
    rw [Action.get_bind_apply, harg]
    rfl

/-- The entries of a listing are the names in order. -/
theorem Builtin.map_strip_listing {children : List (Text × Node)}
    (h : ∀ name ∈ Entries.keys children, Markup.escape ∉ name) :
    (listing children).map strip = Text.sorted (Entries.keys children) := by
  rw [listing, List.map_map]
  refine (List.map_congr_left fun name hn => ?_).trans (List.map_id _)
  have hplain := Markup.strip_of_not_mem (h name ((Text.perm_sorted _).mem_iff.mp hn))
  rw [Function.comp_apply, id]
  split
  · rw [Markup.strip_directory, hplain]
  · exact hplain

/-! ## The result -/

/-- Adding a control sequence anywhere in a text changes nothing about the text without any: its two
sides are stripped each on its own, whatever they end or begin with. So a text in a colour is
stripped as the text itself, and a text without an escape character is left as it is. The listing of
a directory in whose names there is none is, once it is stripped, the names in order, one on each
line. -/
theorem transparent_colour :
    (∀ before after sequence : Text, IsSequence sequence →
      strip (before ++ sequence ++ after) = strip before ++ strip after) ∧
    (∀ t : Text, strip (Markup.error t) = strip t ∧ strip (Markup.directory t) = strip t ∧
      strip (Markup.highlight t) = strip t) ∧
    (∀ t : Text, Markup.escape ∉ t → strip t = t) ∧
    ∀ {ω : Type} (host : Host ω) (s : Session ω) (args : List Text) (input : Text) (d : Node),
      s.volume.directory? (s.listedPath args) = some d →
      (∀ name ∈ Entries.keys d.children, Markup.escape ∉ name) →
      ∃ output, dispatch host "ls" args input s = (.ok output, s) ∧
        let names := Text.sorted (Entries.keys d.children)
        strip output = Text.join "\n" names ∧ names.Perm (Entries.keys d.children) ∧
          names.Pairwise fun name next => Text.le name next = true := by
  refine ⟨fun before after _ hs => Markup.strip_append_sequence hs before after,
    fun t => ⟨Markup.strip_error t, Markup.strip_directory t, Markup.strip_highlight t⟩,
    fun t => Markup.strip_of_not_mem, fun host s args input d hd hnames => ?_⟩
  refine ⟨Text.join "\n" (Builtin.listing d.children), ?_, ?_, Text.perm_sorted _,
    Text.pairwise_sorted _⟩
  · have hls : dispatch host "ls" args input = Builtin.ls.run host args input :=
      dispatch_name (c := Builtin.ls) (by simp [Builtin.table, Builtin.others]) args input
    rw [hls, Builtin.run_ls hd]
  · rw [Markup.strip_join_lines, Builtin.map_strip_listing hnames]

/-- A reset between the two halves of another sequence, and the listing of the root, in which every
name is in colour. -/
theorem transparent_colour_of_halves :
    let first : Session Unit := Session.start
      ⟨Node.defaultTree 0, false, none, Store.empty, Volume.defaultKey⟩ {} History.usualLimit 1 ()
    let half : Text := Text.ofString "a\x1b[3"
    let names : List Text := ["Desktop", "Documents", "Downloads", "System"]
    strip (half ++ Markup.reset ++ "4mb") = half ++ "4mb" ∧
      ∃ output, dispatch (Surroundings.deserted.host 0) "ls" ["/"] [] first = (.ok output, first) ∧
        output = Text.join "\n" (names.map Markup.directory) ∧
        strip output = Text.join "\n" names := by
  intro first half names
  obtain ⟨hseam, -, hbare, hlisting⟩ := transparent_colour
  have hhalf : strip half = half := by decide +kernel
  refine ⟨?_, ?_⟩
  · rw [hseam half "4mb" _ Markup.isSequence_colours.2.2.2, hhalf, hbare "4mb" (by decide)]
  · have hd : first.volume.directory? (first.listedPath ["/"]) = some (Node.defaultTree 0) := rfl
    have hsorted : Text.sorted (Entries.keys (Node.defaultTree 0).children) = names :=
      Text.sorted_eq (by decide +kernel) (by decide +kernel)
    obtain ⟨output, hls, hstrip, -, -⟩ := hlisting (Surroundings.deserted.host 0) first ["/"] []
      (Node.defaultTree 0) hd (by decide +kernel)
    refine ⟨output, hls, ?_, hsorted ▸ hstrip⟩
    have hrun : Builtin.ls.run (Surroundings.deserted.host 0) ["/"] [] first = _ :=
      Builtin.run_ls hd
    rw [Builtin.listing, hsorted] at hrun
    have hshown := hls.symm.trans hrun
    cases hshown
    rfl

end VirtualShell
