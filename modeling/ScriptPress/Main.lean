import ScriptPress.CommandLine.Run

/-!
# The command

Reads the source, converts it, writes the document and prints what there is to say. No processes are
started from here, so scripts are diagnosed and repaired but not run.
-/

namespace ScriptPress

open CommandLine Disk

def osMessage (e : IO.Error) : String :=
  match e with
  | .noFileOrDirectory .. => OsError.notFound.message
  | .permissionDenied .. => OsError.permissionDenied.message
  | .alreadyExists .. => OsError.alreadyExists.message
  | .inappropriateType .. => OsError.isDirectory.message
  | e => toString e

def readEnvironment : IO Environment := do
  let switches := [Switch.noAutoFix, .noAutoInvoke, .json, .verbose, .quiet]
  let parameters := [Parameter.output, .name, .fontSize, .timeout, .python]
  let names := switches.filterMap Switch.variable? ++ parameters.map Parameter.variable
  let values ← names.mapM fun name => return (← IO.getEnv name).map (name, ·)
  return values.reduceOption

def readSource (input : String) : IO Bytes := do
  let bytes ← if input == "-" then (← IO.getStdin).readBinToEnd else IO.FS.readBinFile input
  return bytes.toList

/-- Writes a document beside its place and renames it. -/
def writeDocument (path : String) (bytes : Bytes) : IO Unit := do
  match parent? path.toList with
  | some (c :: cs) => IO.FS.createDirAll (String.ofList (c :: cs))
  | _ => pure ()
  let unfinished := String.ofList (withExtension path.toList unfinishedExtension)
  IO.FS.writeBinFile unfinished ⟨bytes.toArray⟩
  IO.FS.rename unfinished path

def respond (r : Response) : IO UInt32 := do
  IO.print r.stdout
  IO.eprint r.stderr
  return .ofNat r.exit

def performHere (o : Options) (env : Environment) : IO UInt32 := do
  -- No process reports anything here, so there is nothing to say of a report.
  let silent : Complaint := fun _ => ""
  match ← (readSource o.input).toBaseIO with
  | .error e => respond (.unreadable o.input (osMessage e))
  | .ok bytes =>
    match Text.decodeUtf8? bytes with
    | none => respond (.unreadable o.input notText)
    | some text =>
      let source := String.ofList text
      if o.check then respond (checkResponse o (check o env silent source .bare).1)
      else
        match (convert o env silent source .bare).1 with
        | .error e => respond (deliveryResponse o (.error e))
        | .ok output =>
          match ← (writeDocument o.path output.bytes).toBaseIO with
          | .ok () => respond (deliveryResponse o (.ok output))
          | .error e => respond (deliveryResponse o (.error (.outputWrite o.path (osMessage e))))

end ScriptPress

def main (args : List String) : IO UInt32 := do
  let env ← ScriptPress.readEnvironment
  match ScriptPress.CommandLine.invocation args env with
  | .run options => ScriptPress.performHere options env
  | .version => ScriptPress.respond ⟨0, ScriptPress.CommandLine.versionText, ""⟩
  | .help => ScriptPress.respond ⟨0, ScriptPress.CommandLine.usageText, ""⟩
  | .usageError => ScriptPress.respond ⟨2, "", ScriptPress.CommandLine.usageText⟩
