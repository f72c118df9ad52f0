/-!
The settings of a host.
-/

namespace EventFlow

structure Settings where
  appName : String
  appVersion : String
  debug : Bool
  maxSteps : Int
  historySize : Int
  flowDirectory : String
  formatVersion : String
  loadOnStartup : Bool
  saveOnShutdown : Bool
  deriving DecidableEq, Repr

def Settings.standard : Settings where
  appName := "LogicFlow"
  appVersion := "1.0.0"
  debug := true
  maxSteps := 32767
  historySize := 32767
  flowDirectory := "flows"
  formatVersion := "1"
  loadOnStartup := true
  saveOnShutdown := false

end EventFlow
