import Std.Time.DateTime.Timestamp
import Stencil.Cli.Run
import Stencil.Cli.Standard

namespace Stencil

namespace Program

/-- The written path of a place. -/
def pathOf (place : List Text) : String := ((Path.ofParts place).toText.toString?).getD "/"

/-- The entry at a place in a directory; a directory itself, which cannot be read like a file, is
given without what it holds. -/
def entryAt (place : List Text) : IO (Option Entry) := do
  try
    return some (.file (← IO.FS.readBinFile (pathOf place)).toList)
  catch
    | .noFileOrDirectory .. => return none
    | _ => return some (.directory [])

/-- The places on the way to a place, and the place itself. -/
def wayTo (place : List Text) : List (List Text) :=
  (List.range (place.length + 1)).map place.take

/-- The places that a path leads through by its names. -/
def placesOf (cwd : List Text) (p : Path) : List (List Text) :=
  (List.range (p.parts.length + 1)).flatMap fun n =>
    wayTo (Path.resolve cwd { p with parts := p.parts.take n })

/-- Adds the entries at some places to a tree. -/
def look (places : List (List Text)) (root : Entry) : IO Entry :=
  places.foldlM (fun tree place => do
    if (tree.at? place).isSome || !(tree.at? place.dropLast).any Entry.isDirectory then return tree
    match ← entryAt place with
    | some e => return Entry.put e place tree
    | none => return tree) root

/-- The variables that the configuration files of a tree refer to. -/
def environment (fs : FileSystem) (paths : List Path) : IO Environment := do
  let texts := paths.filterMap fun p => (fs.readAs Charset.utf8.codec p).toOption
  let names := (texts.flatMap Reference.names).eraseDups
  names.filterMapM fun n => do
    match n.toString? with
    | none => return none
    | some s => return (← IO.getEnv s).map fun v => (n, Text.of v)

/-- Writes what differs from the entry that was at a place. -/
partial def writeBack (place : List Text) (old : Option Entry) : Entry → IO Unit
  | .file bytes =>
    match old with
    | some (.file before) =>
      if before = bytes then pure () else IO.FS.writeBinFile (pathOf place) ⟨bytes.toArray⟩
    | _ => IO.FS.writeBinFile (pathOf place) ⟨bytes.toArray⟩
  | .directory entries => do
    if old.isNone then IO.FS.createDirAll (pathOf place)
    for (name, e) in entries do
      writeBack (place ++ [name]) (old.bind fun o => o.at? [name]) e

/-- What is said about a run that ends in an error that is not reported. -/
def crashText : Cli.Crash → Text
  | .file e => e.message
  | .wrongType => Text.of "wrong type in configuration"
  | .unencodable => SinkError.unencodable.message
  | .document e => e.message
  | .fault _ => Text.of "the value cannot be rendered"

/-- What the program is built on. -/
def lib : Cli.Libraries := .standard

/-- The text as a string; a surrogate cannot be written. -/
def toString (t : Text) : String := t.toString?.getD ""

/-- Reads the part of the file system that a run may look at, runs, and writes what the run changed.
A run looks at the paths that its arguments and its configuration name, and at the places that may
hold its configuration. -/
def run (args : List Text) : IO UInt32 := do
  let cwd := (Path.ofText (Text.of (← IO.currentDir).toString)).parts
  let named := (Cli.pathsIn args).map Path.ofText
  let own := Config.places cwd ++ [Path.resolve cwd Cli.localConfig]
  let root ← look (wayTo cwd ++ own.flatMap wayTo ++ named.flatMap (placesOf cwd)) (.directory [])
  let seen : FileSystem := { root, cwd }
  let env ← environment seen (own.map Path.ofParts ++ named)
  let configs := named.map some ++ [none]
  let outputs := configs.filterMap fun p => do
    let c ← (Config.load lib.document seen env p true).toOption
    let t ← c.path.text?
    return Path.ofText t
  let root ← look (outputs.flatMap (placesOf cwd)) root
  let stderr ← IO.getStderr
  let now := (← Std.Time.Timestamp.now).toMillisecondsSinceUnixEpoch.toInt
  let world : Cli.World :=
    { files := { root, cwd }, env, now, terminal := ← stderr.isTty
      outputTerminal := ← (← IO.getStdout).isTty }
  let (session, after, outcome) := Cli.run lib {} world args
  writeBack [] (some root) after.files.root
  (← IO.getStdout).putStr (toString outcome.output)
  let log := match session.logger.emitAll outcome.records with
    | .ok log => log
    | .error e => e.text ++ Log.lineEnd
  stderr.putStr (toString log.escapeSurrogates)
  match outcome.crash with
  | some c => stderr.putStr (toString (crashText c ++ Log.lineEnd))
  | none =>
    if outcome.exit = 2 then stderr.putStr "Usage: tinhorn [OPTIONS] render|check|init [ARGS]\n"
  return outcome.exit.toUInt32

end Program

end Stencil

def main (args : List String) : IO UInt32 := Stencil.Program.run (args.map Stencil.Text.of)
