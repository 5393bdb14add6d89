import ModuleRegistry.CommandLine.Run
import Std.Time.Format

/-!
# The program

Passes the arguments and the gateway's environment to `CommandLine.run`, and writes what that says
should be written.  The program is built without a network transport and without a document format:
every request fails with a transport error, and a configuration file counts as one that cannot be
opened.  It does not learn by which name it was called and goes by that of the product.
-/

namespace ModuleRegistry.Program

open Text (ascii)

/-- The bytes of a string. -/
def ofString (s : String) : Text := s.toUTF8.toList

/-- The reply to every request of a program without a network transport. -/
def unreachable : Http.Reply where
  error := ascii "No network transport is available"

/-- The variables of the gateway. -/
def environment : IO Config.Environment := do
  let hostname ← IO.getEnv "IOTEDGE_IOTHUBHOSTNAME"
  let deviceId ← IO.getEnv "IOTEDGE_DEVICEID"
  return { hostname := hostname.map ofString, deviceId := deviceId.map ofString }

/-- The present time in UTC, to the millisecond. -/
def stamp : IO Text := do
  let now := Std.Time.DateTime.ofTimestampWithZone (← Std.Time.Timestamp.now) .UTC
  return ofString (now.format "uuuu-MM-dd'T'HH:mm:ss.SSS'Z'")

/-- Writes a text to a stream. -/
def put (stream : IO.FS.Stream) (t : Text) : IO Unit := stream.write ⟨t.toArray⟩

end ModuleRegistry.Program

open ModuleRegistry in
/-- Runs the command line on the program's arguments. -/
def main (args : List String) : IO UInt32 := do
  let environment ← Program.environment
  let outcome := CommandLine.run Product.name .none (Config.load DocumentFormat.none.readSettings · none)
    environment [Program.unreachable] (args.map Program.ofString)
  let stamp ← Program.stamp
  Program.put (← IO.getStderr) (outcome.stderr.flatMap (·.text .none stamp))
  Program.put (← IO.getStdout) outcome.stdout
  return outcome.exit.toUInt32
