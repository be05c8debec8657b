import Std.Async.TCP
import Std.Async.DNS
import Std.Async.Timer
import VoucherDesk.Client.Message
import VoucherDesk.Console.Desk
import VoucherDesk.Dialogue.Run

/-!
# The command line

The first argument chooses the tool, `create`, `edit` or `filter`, and the others are the
arguments of the tool. What the tool decides is in its controller; here its questions are
answered by the server, the operator and the files, and its effects are carried out.
-/

namespace VoucherDesk.Console

open Dialogue Std.Async

/-- The text of a file, if it can be read. -/
def fileText? (path : String) : IO (Option String) := do
  try
    return some (← IO.FS.readFile path)
  catch _ => return none

/-- The environment variables that settings come from. -/
def settingVariables : IO (List (String × String)) := do
  let names := ({} : Settings).toFields.names.map fun name =>
    (Settings.variableStart ++ name).map Char.toUpper
  names.filterMapM fun name => return (← IO.getEnv name).map fun value => (name, value)

/-- The home directories: that of the operator is in the environment, and is the root if it is
empty there. -/
def homes : IO (String → Option String) := do
  let home := (← IO.getEnv "HOME").map fun path => if path.isEmpty then "/" else path
  return fun first => if first = "~" then home else none

/-- The files that an order reads, and the home directories. -/
def filesOf (order : Order) : IO FileTree := do
  let tree : FileTree := { homes := ← homes }
  match order with
  | .setFilter _ (some path) =>
    let place := (FileTree.pathParts path).foldl FileTree.next []
    return { tree with files := (← fileText? path).toList.map fun s => (place, s) }
  | _ => return tree

/-- All bytes that come over a connection until it ends. -/
partial def receive (socket : TCP.Socket.Client) (done : ByteArray) : Async ByteArray := do
  match ← socket.recv? 65536 with
  | some bytes => receive socket (done ++ bytes)
  | none => return done

/-- The reply to a request that is sent over a connection of its own. -/
def exchange (r : Request) : Async Reply := do
  let port := match r.address.port with
    | some port => UInt16.ofNat port.toNat
    | none => 80
  let found ← DNS.getAddrInfo r.address.host (toString port) none
  match found[0]? with
  | none => return .broken ("no address for " ++ r.address.host)
  | some address =>
    let socket ← TCP.Socket.Client.mk
    socket.connect <| match address with
      | .v4 a => .v4 ⟨a, port⟩
      | .v6 a => .v6 ⟨a, port⟩
    socket.send ⟨r.message.toArray⟩
    let bytes ← receive socket .empty
    return (Reply.ofMessage? bytes.toList).getD (.broken "the answer is cut off")

/-- The milliseconds to wait for a reply. -/
def patience (r : Request) : Nat :=
  match r.timeout with
  | .double x => ((x.toInt?).getD 30).toNat * 1000
  | .int n => n.toNat * 1000
  | _ => 30000

/-- The reply to a request, or the failure of the connection. -/
def serve (r : Request) : IO Reply := do
  if r.address.scheme != "http" then
    return .broken ("no connection by " ++ r.address.scheme)
  try
    let late : Async Reply := do
      sleep (.ofNat (patience r))
      return .broken "the server did not answer in time"
    let _ : Inhabited Reply := ⟨.broken ""⟩
    (Async.race (exchange r) late).block
  catch e => return .broken (toString e)

/-- The console on which an order is carried out. -/
structure Terminal where
  client : Client
  /-- The weight below which log entries are dropped. -/
  threshold : Nat

namespace Terminal

/-- Writes a log entry that is weighty enough. -/
def log (t : Terminal) (e : LogEntry) : IO Unit := do
  if t.threshold ≤ e.level.weight then
    IO.eprintln (e.source.name ++ " - " ++ e.level.name ++ " - " ++ e.message)

/-- Writes a line. -/
def say (stream : Stream) (line : String) : IO Unit :=
  match stream with
  | .output => IO.println line
  | .error => IO.eprintln line

/-- Carries out an effect. -/
def perform (t : Terminal) : Effect → IO Unit
  | .notice n => do
    say n.stream n.line
    t.log n.logged
  | .log e => t.log e
  | .printed stream line => say stream line
  | .published .. => return ()

/-- The next line of the operator after a prompt. -/
def readLine (prompt : String) : IO (Option String) := do
  IO.print prompt
  (← IO.getStdout).flush
  let line ← (← IO.getStdin).getLine
  return if line.isEmpty then none else some ((line.dropEndWhile (· == '\n')).toString)

/-- The answer to what an order asks at a place. -/
def answer (t : Terminal) (place : Nat) : Ask → IO Answer
  | .query q => do
    match q.refusal with
    | some e => return .reply place (.lost e)
    | none =>
      t.log q.announcement
      match t.client.request q with
      | .error e => return .reply place (.lost e)
      | .ok request =>
        let reply ← serve request
        (q.remarks reply).forM t.log
        return .reply place reply
  | .hook _ _ => return .ended (.ok .null)
  | .line prompt => return .line (← readLine prompt)
  | .pause => return .resumed

/-- Writes the codes that were kept last. -/
def keep (d : Desk) : IO Unit := do
  match d.form.exportPath with
  | none => return ()
  | some path =>
    let parts := FileTree.pathParts path
    match (d.form.files.walk [] parts).toOption.bind d.form.files.read? with
    | none => return ()
    | some text =>
      IO.FS.createDirAll (FileTree.pathText parts.dropLast)
      IO.FS.writeFile path text

/-- Goes on with an order: what it asks is answered in turn until it ends. -/
partial def goOn (t : Terminal) (o : Dialogue.Step Desk Stage Int) (asks : List (Nat × Ask)) :
    IO (Except Failure Int) := do
  keep o.run.state
  o.effects.forM t.perform
  match o.run.result? o.number, asks ++ o.asks.zipIdx.map fun (a, place) => (place, a) with
  | some result, _ => return result
  | none, [] => return .ok 1
  | none, (place, a) :: rest =>
    let reply ← t.answer place a
    t.goOn (o.run.step Desk.controller (.answer o.number reply)) rest

end Terminal

/-- Carries out an invocation; a failure that nobody was told is written to the standard error. -/
def carryOut (call : Invocation) : IO UInt32 := do
  let environment ← settingVariables
  let file := (← fileText? ".env").getD ""
  let opened : Except Failure (Settings × Client) := do
    let settings ← Settings.read environment file
    return (settings, ← Client.ofSettings settings call.server none .null)
  match opened with
  | .error e =>
    IO.eprintln e.text
    return 1
  | .ok (settings, client) =>
    let isTerminal ← (← IO.getStdin).isTty
    let desk := Desk.create settings isTerminal (← filesOf call.order)
    let t : Terminal := ⟨client, LogLevel.threshold settings call.logLevel⟩
    let run : Run Desk Stage Int := { state := desk }
    match ← t.goOn (run.step Desk.controller (.call call.order)) [] with
    | .ok code => return UInt32.ofNat code.toNat
    | .error e =>
      IO.eprintln e.text
      return 1

/-- The tools by the names of their commands. -/
def toolNames : List (String × ToolName) :=
  [("create", .create), ("edit", .edit), ("filter", .filter)]

/-- Runs a tool on its arguments. -/
def runTool (tool : ToolName) (arguments : List String) : IO UInt32 := do
  match tool.invocation arguments with
  | .ok call => carryOut call
  | .error (parser, stop) =>
    match stop with
    | .help => IO.print (parser.stopText stop)
    | .refused _ => IO.eprint (parser.stopText stop)
    return UInt32.ofNat stop.exitCode.toNat

end VoucherDesk.Console

/-- Runs the tool that the first argument names. -/
def main (arguments : List String) : IO UInt32 := do
  let tools := VoucherDesk.Console.toolNames
  match arguments with
  | name :: rest =>
    match tools.lookup name with
    | some tool => VoucherDesk.Console.runTool tool rest
    | none =>
      IO.eprintln ("unknown tool: " ++ name)
      return 2
  | [] =>
    IO.eprintln ("tools: " ++ ", ".intercalate (tools.map Prod.fst))
    return 2
