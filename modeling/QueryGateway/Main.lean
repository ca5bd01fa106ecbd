import QueryGateway.Service.Gateway
import QueryGateway.Settings

/-!
# The program

Reads the settings from the environment, and announces them or tells what is
wrong with them.
-/

namespace QueryGateway

def readEnvironment : IO Settings.Environment := do
  let values ← Settings.variableNames.mapM fun name => do
    pure (name, ← IO.getEnv name)
  pure fun name => (values.find? fun entry => entry.1 == name).bind Prod.snd

end QueryGateway

open QueryGateway in
def main : IO UInt32 := do
  match Settings.ofEnvironment (← readEnvironment) with
  | .ok settings =>
      settings.announcement.forM IO.println
      pure 0
  | .error fault =>
      IO.eprintln fault.message
      pure 1
