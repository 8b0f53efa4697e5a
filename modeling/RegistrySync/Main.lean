import Std.Time.DateTime
import RegistrySync.Session

/-!
The program.

There is no network and no other program behind it: every request is refused, and nothing can be
started. Time in a run is counted from its beginning, and a line is printed once its time has come.
-/

namespace RegistrySync.Main

/-- Milliseconds since the beginning, and the lines with their times, the latest first. -/
structure Progress where
  time : Nat
  lines : List (Nat × Line)

/-- A daemon that is not there; waiting for it takes time. -/
def daemon : Daemon.Transport Progress where
  send _ p := (.refused, p)
  sleep n p := { p with time := p.time + n }
  print l p := { p with lines := (p.time, l) :: p.lines }

/-- No program can be started. -/
def programs : Command.Runner Unit where
  run _ _ s := (.notStarted FileFault.absent.message, s)

/-- Waiting lets time pass; nobody asks for a stop. -/
def clock : Clock (Progress × Unit) where
  now s := s.1.time
  wait t s := (false, { s.1 with time := max s.1.time t }, s.2)

/-- The fault that an error of the system stands for. -/
def faultOf (e : IO.Error) : FileFault :=
  match e with
  | .noFileOrDirectory .. => .absent
  | .inappropriateType _ code _ => if code = 21 then .isFolder else .notFolder
  | e => .other (toString e)

def readFile (path : String) : IO (Except FileFault (List UInt8)) := do
  if path.toList.contains '\x00' then return .error .nulInName
  try
    return .ok (← IO.FS.readBinFile path).toList
  catch e => return .error (faultOf e)

/-- The time of the day. -/
def now : IO Time.Instant := do
  let t ← Std.Time.Timestamp.now
  return ⟨t.toSecondsSinceUnixEpoch.val, 0, 0⟩

def putStream (s : Stream) (text : String) : IO Unit := do
  match s with
  | .out => (← IO.getStdout).putStr text
  | .err => (← IO.getStderr).putStr text

/-- Prints lines, each at its time. -/
def put (logger : Logger) (start : Nat) (p : Progress) : IO Progress := do
  for (t, line) in p.lines.reverse do
    let here ← IO.monoMsNow
    if here < start + t then IO.sleep (UInt32.ofNat (start + t - here))
    if let some (s, text) := logger.write line (← now) then putStream s text
  return { p with lines := [] }

/-- The recurring tasks, again and again. -/
partial def repeatTasks (w : World (Progress × Unit)) (tasks : List Task)
    (put : Progress → IO Progress) (r : Schedule.Rota (Progress × Unit)) : IO Unit := do
  match r.step w clock tasks with
  | .ended s => discard <| put s.1
  | .ongoing r => repeatTasks w tasks put { r with world := (← put r.world.1, ()) }

/-- Carries out a plan. -/
def carryOut (p : Session.Plan) : IO Unit := do
  let logger := Logger.ofTerminal (← (← IO.getStdout).isTty)
  let start ← IO.monoMsNow
  let put := put logger start
  let w := p.world daemon programs
  let s := (p.schedule.prelude w (p.announce w (⟨0, []⟩, ())).2).2
  let s ← put s.1
  if !p.schedule.recurring.isEmpty then
    repeatTasks w p.schedule.recurring put (p.schedule.rota clock (s, ()))
  discard <| put (w.info "all done" (s, ())).2.1

end RegistrySync.Main

open RegistrySync in
def main (arguments : List String) : IO UInt32 := do
  let environment ← CommandLine.environmentVariables.filterMapM fun v => do
    return (← IO.getEnv v).map (v, ·)
  let file ← match CommandLine.Arguments.parse arguments with
    | .ok a => Main.readFile a.config
    | .error _ => pure (.error .absent)
  match Session.plan arguments (environment.lookup ·) (fun _ => file) with
  | .error b =>
    for (s, text) in b.notice do Main.putStream s (text ++ "\n")
    return UInt32.ofNat b.exitCode
  | .ok p =>
    Main.carryOut p
    return 0
