import RouteTemplate.CommandLine.Run

/-! # The program

Runs its arguments as a command line and writes the report. A run that is broken off ends with status 1
and the message of its failure. -/

def main (arguments : List String) : IO UInt32 := do
  match RouteTemplate.CommandLine.run (arguments.map String.toList) with
  | .ok report =>
      (← IO.getStdout).putStr (String.ofList report.output)
      (← IO.getStderr).putStr (String.ofList report.errors)
      return report.status.toUInt32
  | .error failure =>
      (← IO.getStderr).putStrLn (String.ofList failure.message)
      return 1
