import Storefront.CommandLine.Session
import Storefront.CommandLine.Usage
import Storefront.Report.Listing

/-!
The command line: files and streams around a session.
-/

namespace Storefront.CommandLine

/-- Looks at what is at a path. -/
def look (path : String) : IO Found := do
  try
    return .text (← IO.FS.readFile path)
  catch
    | .noFileOrDirectory .. => return .nothing
    | _ => return .unreadable

/-- Reads everything from the standard input. -/
def lookAtStandardInput : IO Found := do
  try
    return .text (← (← IO.getStdin).readToEnd)
  catch _ => return .unreadable

/-- Everything that a session may look at. -/
def gather (arguments : Arguments) : IO Source := do
  let settings ← look (arguments.config.getD usualSettingsPath)
  let input ← arguments.input.elim (pure .nothing) look
  let standardInput ←
    if arguments.has .stdin then lookAtStandardInput else pure .nothing
  return {
    lookAt := fun path => if some path = arguments.input then input else settings
    standardInput := standardInput }

/-- Writes a report to its file, or else to the standard output. -/
def write (arguments : Arguments) (text : String) : IO (Option Failure) := do
  match arguments.output with
  | none =>
    IO.print text
    return none
  | some path =>
    try
      IO.FS.writeFile path text
      return none
    catch _ => return some (.noOutput path)

/-- Tells why there is no report. -/
def giveUp (failure : Failure) : IO UInt32 := do
  IO.eprintln ("error: " ++ failure.text)
  return 3

/-- Does what is asked for. -/
def serve (arguments : Arguments) : IO UInt32 := do
  if arguments.has .listConditions then
    IO.print (Report.joinLines Report.tagLines)
    return 0
  else if arguments.has .listPatterns then
    IO.print (Report.joinLines (Report.shapeLines Guard.builtinCatalog))
    return 0
  else
    match run (← gather arguments) arguments with
    | .error failure => giveUp failure
    | .ok outcome =>
      match ← write arguments (report arguments outcome) with
      | some failure => giveUp failure
      | none => return (exitCode arguments outcome).toUInt32

end Storefront.CommandLine

open Storefront.CommandLine

/-- Reads the words of the command line and does what they ask for. -/
def main (words : List String) : IO UInt32 := do
  match parse words with
  | .ok arguments => serve arguments
  | .error refusal =>
    if refusal.isRequest then
      IO.println refusal.message
      return 0
    else
      IO.eprintln ("error: " ++ refusal.message)
      return 2
