import EventFlow.Host.Countdown
import EventFlow.Host.Directory

/-!
What a host does when it starts and before it stops.
-/

namespace EventFlow.Host

/-- Why a host cannot start or stop. -/
inductive LifetimeError where
  | load (error : Files.OpenError)
  | demo (error : DemoError)
  | save (error : Files.SaveError)
  deriving Repr

/-- Loads the flow directory if the settings say so, and adds the countdown flow. -/
def startUp (h : Host) : Except LifetimeError Host := do
  let h ← if h.settings.loadOnStartup then
      let loaded := h.loadDirectory ""
      loaded.result.map (fun _ => loaded.host) |>.mapError .load
    else pure h
  let (h, _) ← h.registerDemo.mapError .demo
  return h

/-- Saves every stored flow if the settings say so. -/
def shutDown (h : Host) : Except LifetimeError Host :=
  if h.settings.saveOnShutdown then
    let saved := h.saveAll ""
    saved.result.map (fun _ => saved.host) |>.mapError .save
  else .ok h

end EventFlow.Host
