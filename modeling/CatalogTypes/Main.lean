import CatalogTypes.Service.CommandLine
import CatalogTypes.Service.Exchange

/-! # The program

It replies to the request on standard input, under the configuration that its arguments ask for.
-/

open CatalogTypes.Service

def main (args : List String) : IO UInt32 := do
  match Config.ofCommandLine ("catalog-types" :: args) with
  | .error .helpAsked =>
    (← IO.getStdout).putStr Config.usage
    return 0
  | .error refusal =>
    (← IO.getStderr).putStr ("error: " ++ refusal.message ++ "\n")
    return 2
  | .ok config =>
    let request := Request.ofText (← (← IO.getStdin).readToEnd)
    (← IO.getStdout).putStr (respond config (Reports.ofTask 1) request).toText
    return 0
