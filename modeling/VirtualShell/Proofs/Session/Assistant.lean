import VirtualShell.Proofs.Assistant
import VirtualShell.Proofs.Session.Redirect
import VirtualShell.Session.Surroundings
/-
  What the assistant is asked.

  Of all that a host has, the assistant matters to a line that is a request and to no other, and to
  that by its answer to the prompt in it. So what the assistant would answer to a text that cannot be
  a prompt makes no difference to any line, nor to what is published on the bus, where lines are run
  by way of lines.
-/

namespace VirtualShell

variable {ω : Type}

namespace Builtin

/-- No command turns to the assistant. -/
theorem run_assistant {b : Builtin ω} (hb : b ∈ table) (host : Host ω)
    (assistant : Option (Text → Action (Session ω) Text)) :
    b.run { host with assistant := assistant } = b.run host := by
  simp only [table, others, List.mem_cons, List.not_mem_nil, or_false] at hb
  rcases hb with rfl | rfl | rfl | rfl | rfl | rfl | rfl | rfl | rfl | rfl | rfl | rfl | rfl | rfl |
    rfl | rfl | rfl | rfl | rfl | rfl | rfl | rfl | rfl | rfl | rfl <;> rfl

end Builtin

theorem dispatch_assistant (host : Host ω)
    (assistant : Option (Text → Action (Session ω) Text)) :
    dispatch { host with assistant := assistant } = dispatch host := by
  funext name args input
  rw [dispatch, dispatch]
  split
  · rename_i b hb
    rw [Builtin.run_assistant (Builtin.mem_table_of_find? hb).1]
  · rfl

namespace Session

variable {host : Host ω} {line : Text}

theorem runStages_assistant (host : Host ω)
    (assistant : Option (Text → Action (Session ω) Text)) (commands : List Command) :
    ∀ output : Text, runStages { host with assistant := assistant } commands output =
      runStages host commands output := by
  induction commands with
  | nil => exact fun _ => rfl
  | cons command rest ih =>
    intro output
    rw [runStages, runStages, runStage, runStage, dispatch_assistant]
    simp only [ih]

theorem runPipeline_assistant (host : Host ω)
    (assistant : Option (Text → Action (Session ω) Text)) (p : Pipeline) :
    runPipeline { host with assistant := assistant } p = runPipeline host p := by
  rw [runPipeline, runPipeline, runStages_assistant]

theorem askAssistant_congr {ask ask' : Text → Action (Session ω) Text} {prompt : Text}
    (h : ask prompt = ask' prompt) :
    askAssistant { host with assistant := some ask } prompt =
      askAssistant { host with assistant := some ask' } prompt := by
  unfold askAssistant
  dsimp only
  rw [h]

/-- Two assistants that answer alike whatever can be a prompt are the same to a line that is run. -/
theorem run_congr {ask ask' : Text → Action (Session ω) Text}
    (h : ∀ prompt, IsPrompt prompt → ask prompt = ask' prompt) :
    run { host with assistant := some ask } line =
      run { host with assistant := some ask' } line := by
  funext s
  cases hblank : line.isBlank with
  | true => rw [run, run, if_pos hblank, if_pos hblank]
  | false =>
    cases hrequest : isRequest line with
    | true =>
      rw [run_eq_askAssistant hblank hrequest, run_eq_askAssistant hblank hrequest,
        askAssistant_congr (h _ (exists_prompt_of_isRequest hrequest).1)]
    | false =>
      rw [run_eq_runPipeline hblank hrequest, run_eq_runPipeline hblank hrequest,
        runPipeline_assistant host (some ask), runPipeline_assistant host (some ask')]

end Session

namespace Surroundings

variable {ask ask' : Text → Action ω Text}

/-- The same surroundings with an assistant that replies as given. -/
def asking (w : Surroundings ω) (ask : Text → Action ω Text) : Surroundings ω :=
  { w with ask := some ask }

theorem hostOn_asking (w : Surroundings ω) (ask : Text → Action ω Text) (bus : Bus (Session ω)) :
    (w.asking ask).hostOn bus = { w.hostOn bus with assistant := some (w.reply bus ask) } := rfl

theorem run_hostOn_congr (w : Surroundings ω)
    (h : ∀ prompt, IsPrompt prompt → ask prompt = ask' prompt) (bus : Bus (Session ω))
    (line : Text) : Session.run ((w.asking ask).hostOn bus) line =
      Session.run ((w.asking ask').hostOn bus) line := by
  rw [hostOn_asking, hostOn_asking]
  refine Session.run_congr fun prompt hprompt => ?_
  rw [reply, reply, h prompt hprompt]

/-- The induction is on the turns: a line that is run by way of another turns to the bus that is one
turn less deep. -/
theorem bus_congr (w : Surroundings ω)
    (h : ∀ prompt, IsPrompt prompt → ask prompt = ask' prompt) (turns : Nat) :
    (w.asking ask).bus turns = (w.asking ask').bus turns := by
  induction turns with
  | zero => rfl
  | succ turns ih =>
    rw [bus, bus, ih]
    simp only [w.run_hostOn_congr h]
    rfl

theorem run_host_congr (w : Surroundings ω)
    (h : ∀ prompt, IsPrompt prompt → ask prompt = ask' prompt) (turns : Nat) (line : Text) :
    Session.run ((w.asking ask).host turns) line =
      Session.run ((w.asking ask').host turns) line := by
  rw [host, host, w.bus_congr h, w.run_hostOn_congr h]

end Surroundings

/-- Lines are routed to the assistant by how they start, and what is put to it is a prompt. A line
is a request if, without the white space around it, it starts with the two letters in either case and
a space. Then what stands behind that, without white space around it, is the prompt, which is not
empty, and running the line puts it to the assistant. Nothing else is ever put to the assistant:
however lines are run and messages published, all goes the same with an assistant that answers other
texts in another way. -/
theorem assistant_gets_prompts :
    (∀ line, isRequest line = true ↔ StartsAsRequest line.trim) ∧
    (∀ line, isRequest line = true → IsPrompt (requestPrompt line) ∧
      ∃ gap : Text, gap.isBlank = true ∧
        line.trim.drop requestMark.length = gap ++ requestPrompt line) ∧
    (∀ (ω : Type) (host : Host ω) (line : Text) (s : Session ω), isRequest line = true →
      Session.run host line s =
        Session.askAssistant host (requestPrompt line) (Session.entered line s)) ∧
    ∀ (ω : Type) (w : Surroundings ω) (ask ask' : Text → Action ω Text),
      (∀ prompt, IsPrompt prompt → ask prompt = ask' prompt) → ∀ turns,
        (w.asking ask).bus turns = (w.asking ask').bus turns ∧
        ∀ line, Session.run ((w.asking ask).host turns) line =
          Session.run ((w.asking ask').host turns) line :=
  ⟨fun _ => isRequest_iff, fun _ h => exists_prompt_of_isRequest h,
    fun _ _ _ s h => Session.run_eq_askAssistant (isBlank_of_isRequest h) h s,
    fun _ w _ _ h turns => ⟨w.bus_congr h turns, w.run_host_congr h turns⟩⟩

/-- A question with a bar and a `>` in it. A dotted capital I makes no request, and neither does the
mark with nothing behind it. -/
theorem assistant_gets_prompts_of_question :
    isRequest " aI  what | is > this " = true ∧
      requestPrompt " aI  what | is > this " = "what | is > this" ∧
      IsPrompt "what | is > this" ∧ isRequest "aİ x" = false ∧ isRequest "ai  " = false := by
  have h : isRequest " aI  what | is > this " = true := by decide
  have hprompt : requestPrompt " aI  what | is > this " = "what | is > this" := by decide
  refine ⟨h, hprompt, hprompt ▸ (assistant_gets_prompts.2.1 _ h).1, ?_, ?_⟩
  · rw [Bool.eq_false_iff, ne_eq, assistant_gets_prompts.1]
    exact fun hstarts => absurd hstarts.2.1 (by decide)
  · rw [Bool.eq_false_iff, ne_eq, assistant_gets_prompts.1]
    exact id

end VirtualShell
