import VirtualShell.Bubble
import VirtualShell.Builtin.Basic
/-
  Commands that pass the time.
-/

namespace VirtualShell.Builtin

variable {ω : Type}

/-- The replies of a host to some pings, after a wait each. -/
def replies (machine : Host ω) (host : Text) : Nat → Action (Session ω) (List Text)
  | 0 => return []
  | n + 1 => do
    let delay := (← get).settings.pingDelay
    if delay.isPositive then Session.draw fun w => ((), machine.sleep delay w)
    let time ← Session.draw (machine.source.roll 30)
    let line : Text := "Reply from " ++ host ++ ": time=" ++ Text.ofNat (1 + time) ++ "ms"
    return line :: (← replies machine host n)

/-- Pretends to reach a host four times. -/
def ping : Builtin ω where
  name := "ping"
  page := {
    description := "Send four simulated pings to a host."
    usage := "ping [HOST]"
    examples := ["ping example.com       # Four simulated replies"] }
  run host args _ := return Text.join "\n" (← replies host (args.headD "localhost") 4)

/-- Has a cow say the arguments, or what the stage before put out. -/
def cowsay : Builtin ω where
  name := "cowsay"
  page := {
    description := "Have a cow say something."
    usage := "cowsay [MESSAGE]"
    examples := [
      "cowsay hello           # A cow saying hello",
      "fortune | cowsay       # A cow telling your fortune"] }
  run _ args input :=
    let message : Text := Text.join " " args
    let message := if message ≠ [] then message else if input ≠ [] then input else "Moo!"
    return speechBubble bubbleWidth message ++ cow

/-- The fortunes that can be told. -/
def fortunes : List Text := [
  "You will be hungry again in one hour.",
  "The fortune you seek is in another cookie.",
  "A conclusion is simply the place where you got tired of thinking.",
  "He who laughs last is laughing at you.",
  "If you think nobody cares, try missing a couple of payments.",
  "An alien of some sort will be appearing to you shortly."]

/-- Tells a fortune. -/
def fortune : Builtin ω where
  name := "fortune"
  page := { description := "Print a random fortune." }
  run host _ _ := return fortunes.getD (← Session.draw (host.source.pick fortunes.length)) []

end VirtualShell.Builtin
