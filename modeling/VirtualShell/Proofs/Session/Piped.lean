import VirtualShell.Proofs.Session.Search
import VirtualShell.Proofs.Session.Underway
/-
  A file that is piped and a file that is named.

  A filter reads what the stage before put out or else the file that it is given, and what it prints
  depends on the text alone. So it prints the same whether a file comes to it through the pipe or by
  name. There is one file for which the two ways differ: an empty one puts nothing into the pipe, and
  counting takes an empty pipe for none.
-/

namespace VirtualShell

variable {ω : Type} {host : Host ω} {s : Session ω}

namespace Builtin

variable {f name path content input input' : Text} {mtime : Float} {size : Nat}
  {files files' : List Text}

theorem run_cat (h : s.volume.node? (s.resolve f) = some (.file name path mtime content size))
    (input : Text) : cat.run host [f] input s = (.ok content, s) := by
  unfold cat
  dsimp only
  rw [Action.get_bind_apply, h]
  rfl

/-- A search depends on nothing but the pattern and the text that it searches. -/
theorem run_grep_congr (h : searchedText s files input = searchedText s files' input')
    (written : Text) :
    grep.run host (written :: files) input s = grep.run host (written :: files') input' s := by
  unfold grep
  dsimp only
  cases Pattern.ofText written with
  | error fault => cases fault <;> rfl
  | ok pattern =>
    dsimp only
    rw [Action.get_bind_apply, Action.get_bind_apply, h]

/-- Where there is an input or a file to count, counting depends on nothing but the text. -/
theorem run_wc_congr (h : searchedText s files input = searchedText s files' input')
    (hgiven : input = [] → files ≠ []) (hgiven' : input' = [] → files' ≠ []) :
    wc.run host files input s = wc.run host files' input' s := by
  unfold wc
  dsimp only
  rw [if_neg (by simpa using hgiven), if_neg (by simpa using hgiven'), Action.get_bind_apply,
    Action.get_bind_apply, h]

theorem run_wc_of_empty (h : searchedText s [f] [] = .ok []) :
    wc.run host [f] [] s = (.ok "1 0 0", s) := by
  unfold wc
  dsimp only
  rw [if_neg (by simp), Action.get_bind_apply, h]
  rfl

/-- The content of a file is the text that a filter is given, be it through the pipe or by name. -/
theorem searchedText_piped
    (h : s.volume.node? (s.resolve f) = some (.file name path mtime content size)) :
    searchedText s [] content = .ok content ∧ searchedText s [f] [] = .ok content := by
  have hcontent : s.volume.content? (s.resolve f) = some content := by
    rw [Volume.content?, h]
    rfl
  exact ⟨searchedText_of_isGiven (.inl ⟨rfl, .inr rfl⟩),
    searchedText_of_isGiven (.inr ⟨rfl, f, [], rfl, hcontent⟩)⟩

end Builtin

/-! ## The result -/

/-- A file without escape characters is put out as it is, and stripping leaves it so. A search for
anything, be it a pattern or not, comes to the same with this as its input as with the file named
and no input. So does counting unless the file is empty. Then there is nothing in the pipe, and
counting, which has no file named either, explains how it is used; of the file itself it counts one
line and no more. -/
theorem piped_as_named {ω : Type} (host : Host ω) (s : Session ω)
    {f name path content : Text} {mtime : Float} {size : Nat}
    (hfile : s.volume.node? (s.resolve f) = some (.file name path mtime content size))
    (hescape : Markup.escape ∉ content) (input : Text) :
    let piped := Markup.strip content
    dispatch host "cat" [f] input s = (.ok content, s) ∧
      (∀ pattern, dispatch host "grep" [pattern] piped s = dispatch host "grep" [pattern, f] [] s) ∧
      (content ≠ [] → dispatch host "wc" [] piped s = dispatch host "wc" [f] [] s) ∧
      (content = [] → dispatch host "wc" [] piped s = (.ok "usage: wc [file]", s) ∧
        dispatch host "wc" [f] [] s = (.ok "1 0 0", s)) := by
  intro piped
  have hcat (args : List Text) (input : Text) :
      dispatch host "cat" args input = Builtin.cat.run host args input :=
    dispatch_name (c := Builtin.cat) (by simp [Builtin.table, Builtin.others]) args input
  have hgrep (args : List Text) (input : Text) :
      dispatch host "grep" args input = Builtin.grep.run host args input :=
    dispatch_name (c := Builtin.grep) (by simp [Builtin.table, Builtin.others]) args input
  have hwc (args : List Text) (input : Text) :
      dispatch host "wc" args input = Builtin.wc.run host args input :=
    dispatch_name (c := Builtin.wc) (by simp [Builtin.table, Builtin.others]) args input
  obtain ⟨hpiped, hnamed⟩ := Builtin.searchedText_piped hfile
  have hstrip : piped = content := Markup.strip_of_not_mem hescape
  rw [hstrip]
  refine ⟨?_, fun pattern => ?_, fun hne => ?_, fun hempty => ?_⟩
  · rw [hcat, Builtin.run_cat hfile]
  · rw [hgrep, hgrep]
    exact Builtin.run_grep_congr (hpiped.trans hnamed.symm) pattern
  · rw [hwc, hwc]
    exact Builtin.run_wc_congr (hpiped.trans hnamed.symm) (fun hnone => absurd hnone hne) (by simp)
  · rw [hwc, hwc]
    subst hempty
    exact ⟨rfl, Builtin.run_wc_of_empty hnamed⟩

/-- The file of six words in the starting tree. -/
theorem piped_as_named_of_welcome :
    let first : Session Unit := Session.start
      ⟨Node.defaultTree 0, false, none, Store.empty, Volume.defaultKey⟩ {} History.usualLimit 1 ()
    let host := Surroundings.deserted.host 0
    let content := Text.ofString "Welcome to the TreeShell Text Editor!"
    let f := Text.ofString "/Documents/welcome.txt"
    Markup.escape ∉ content ∧ dispatch host "cat" [f] [] first = (.ok content, first) ∧
      dispatch host "grep" ["T.*t"] content first = dispatch host "grep" ["T.*t", f] [] first ∧
      dispatch host "wc" [] content first = dispatch host "wc" [f] [] first ∧
      (dispatch host "wc" [f] [] first).1.toOption = some (Text.ofString "1 6 37") := by
  intro first host content f
  have hfile : first.volume.node? (first.resolve f) = some (.file "welcome.txt" f _ content 37) := rfl
  have hescape : Markup.escape ∉ content := by decide
  obtain ⟨hcat, hgrep, hwc, -⟩ := piped_as_named host first hfile hescape []
  rw [Markup.strip_of_not_mem hescape] at hgrep hwc
  exact ⟨hescape, hcat, hgrep _, hwc (by decide), by decide +kernel⟩

/-- An empty file in a session in use: counted through the pipe and by name it comes to different
things. -/
theorem not_piped_as_named_of_empty :
    let first : Session Unit := Session.start
      ⟨Node.defaultTree 0, false, none, Store.empty, Volume.defaultKey⟩ {} History.usualLimit 1 ()
    let host := Surroundings.deserted.host 0
    let s := (Session.change (.createFile "/Desktop" "e.txt" []) first).2
    let f := Text.ofString "/Desktop/e.txt"
    Session.Underway s ∧ s.volume.content? (s.resolve f) = some [] ∧ Markup.escape ∉ ([] : Text) ∧
      (dispatch host "cat" [f] [] s).1.toOption = some [] ∧
      (dispatch host "wc" [] (Markup.strip []) s).1.toOption ≠
        (dispatch host "wc" [f] [] s).1.toOption := by
  intro first host s f
  have hload : Volume.load 0 Store.empty Volume.defaultKey = .ok first.volume := rfl
  have hunderway : Session.Underway s :=
    ⟨_, _, _, _, _, .load hload, rfl, .single (.change _ first)⟩
  exact ⟨hunderway, by decide +kernel⟩

end VirtualShell
