import VirtualShell.Proofs.Session.Returning
import VirtualShell.Session.Loop
/-
  The loop against the lines by themselves.

  The loop takes up one arrival at each prompt, until a line tells it to leave. But for the prompts
  and the interrupts it does what running the lines one after another does: a line is run in the
  session that the one before has left, and what it puts out is put on the screen. A fault would be
  shown in place of the output; none comes up as long as the store takes what is written.
-/

namespace VirtualShell

namespace Session

variable {ω : Type} {host : Host ω} {s : Session ω} {w : Surroundings ω} {a : Arrival}
  {prompt : Session ω → Text} {arrivals : List Arrival}

/-! ## One arrival -/

namespace Arrival

/-- Whether the loop ends with it. -/
def leaves (a : Arrival) : Bool :=
  match a.entry with
  | .line t => Session.leaves t
  | .interrupt => false

/-- The line that arrives, if it is one, and its instant. -/
def line? (a : Arrival) : Option (Float × Text) :=
  match a.entry with
  | .line t => some (a.instant, t)
  | .interrupt => none

/-- The session that is left once it has been taken up. -/
def next (host : Host ω) (s : Session ω) (a : Arrival) : Session ω :=
  match a.entry with
  | .line t => (runAt host a.instant t s).2
  | .interrupt => s

/-- What it puts on a screen in colours: the output of the line, if there is any. -/
def shown (host : Host ω) (s : Session ω) (a : Arrival) : Text :=
  match a.entry with
  | .line t =>
    let output := (runAt host a.instant t s).1.toOption.getD []
    if output = [] then [] else output ++ "\n"
  | .interrupt => "^C\n"

end Arrival

/-- The session that is left once the lines have been run. -/
def after (host : Host ω) (lines : List (Float × Text)) (s : Session ω) : Session ω :=
  lines.foldl (fun s l => (runAt host l.1 l.2 s).2) s

@[simp] theorem after_cons (host : Host ω) (l : Float × Text) (rest : List (Float × Text))
    (s : Session ω) : after host (l :: rest) s = after host rest (runAt host l.1 l.2 s).2 := rfl

theorem leads_runAt (hw : w.AreOrderly) (turns : Nat) (instant : Float) (line : Text)
    (s : Session ω) : Leads true s (runAt (w.host turns) instant line s).2 :=
  (carries_run admitsLines_proceeds (hw.keeps turns) line { s with now := instant }).leads

/-- A session in which nothing but the store can keep a line from returning. -/
structure IsAnswerable (s : Session ω) : Prop where
  inOrder : s.IsInOrder
  isEncodable : s.IsEncodable
  key : s.volume.key.IsStep

theorem IsAnswerable.atInstant (h : s.IsAnswerable) (instant : Float) :
    { s with now := instant }.IsAnswerable where
  inOrder := ⟨h.inOrder.user, h.inOrder.cwd⟩
  isEncodable :=
    ⟨h.isEncodable.tree, h.isEncodable.cwd, h.isEncodable.history, h.isEncodable.user⟩
  key := h.key

theorem IsAnswerable.runAt (h : s.IsAnswerable) (hw : w.AreOrderly) (hplain : w.AreEncodable)
    (hnone : w.ask = none) (turns : Nat) (instant : Float) {line : Text}
    (hline : line.IsEncodable) : (runAt (w.host turns) instant line s).2.IsAnswerable where
  inOrder := (carries_run admitsLines_proceeds (hw.keeps turns) line _).inOrder
    (h.atInstant instant).inOrder
  isEncodable := by
    have hassistant : (w.host turns).assistant = none := by
      rw [Surroundings.host, Surroundings.hostOn, hnone]
      rfl
    exact (yields_run (hplain.host turns) hassistant hline _ (h.atInstant instant).isEncodable).1
  key := by
    rw [Volume.Run.key (leads_runAt hw turns instant line s)]
    exact h.key

/-- Settings with which the prompt is known, and texts are shown as they are. -/
structure ShowsPlainly (prompt : Session ω → Text) (settings : Settings) : Prop where
  colors : settings.colors = true
  prompt (s : Session ω) : s.settings = settings → s.prompt = .ok (prompt s)

/-- An arrival leaves the settings as they are. -/
theorem ShowsPlainly.next (hp : ShowsPlainly prompt s.settings) (hw : w.LeaveSettings)
    (turns : Nat) (a : Arrival) : ShowsPlainly prompt (a.next (w.host turns) s).settings := by
  obtain ⟨instant, t | _⟩ := a
  · have hkept := settings_run hw turns t { s with now := instant }
    exact hkept.symm ▸ hp
  · exact hp

end Session

end VirtualShell
