import SoleKey.Configuration
import SoleKey.Daemon.Control
import SoleKey.LogOutput
import SoleKey.Machine

set_option autoImplicit false

namespace SoleKey

inductive Signal where
  | stop (signal : StopSignal)
  -- A signal the program does not handle.
  | user1
  deriving DecidableEq, Repr

namespace Program

inductive Ending where
  | exited (code : Nat)
  | killed (signal : Nat)
  deriving DecidableEq, Repr

inductive State where
  | serving (agent : Nat) (phase : Daemon.Phase) (pending : List StopSignal)
      (watchesInterrupt : Bool)
  | ended (ending : Ending)

end Program

structure Program where
  machine : Machine
  output : LogOutput
  -- Lines on standard error.
  lines : List LogLine
  causes : List String
  printed : Bool
  state : Program.State

namespace Program

def version : String := "0.0.0-git (unknown); commit unknown"

def banner : String := "Starting " ++ Environment.appName ++ " version " ++ version

def usageCode : UsageProblem -> Nat
  | .helpWanted | .versionWanted => 0
  | _ => 2

def prints : UsageProblem -> Bool
  | .helpWanted | .versionWanted => true
  | _ => false

def initial (tpm : Tpm) (files : FileSystem) : Program :=
  ⟨.start tpm files, ⟨Settings.defaultLogLevel, none⟩, [], [], false, .ended (.exited 0)⟩

def log (program : Program) (effects : List Effect) : Program :=
  let (lines, files) := program.output.write program.machine.files effects
  { program with
    machine := { program.machine with files := files }
    lines := program.lines ++ lines }

def finish (program : Program) (ending : Ending) : Program :=
  { program with
    machine := { program.machine with members := [] }
    state := .ended ending }

def fail (program : Program) (causes : List String) : Program :=
  { program.finish (.exited 1) with causes := causes }

def isRunning (program : Program) : Bool :=
  match program.state with
  | .serving .. => true
  | .ended _ => false

def daemon? (program : Program) : Option (Nat × Daemon) :=
  match program.state with
  | .serving agent phase pending watchesInterrupt =>
    (program.machine.life? agent).map fun life =>
      (agent, ⟨⟨life, program.machine.files⟩, phase, pending, watchesInterrupt⟩)
  | .ended _ => none

def adopt (program : Program) (agent : Nat) (daemon : Daemon) : Program :=
  let machine := { program.machine.setLife agent daemon.life with files := daemon.files }
  let next := { program with machine := machine }
  match daemon.phase with
  | .exited (.ok ()) => next.finish (.exited 0)
  | .exited (.error problem) => next.fail problem.chain
  | .killed => next.finish (.killed 2)
  | phase => { next with state := .serving agent phase daemon.pending daemon.watchesInterrupt }

def apply (program : Program) (agent : Nat) (step : Daemon.Step) : Program :=
  (program.adopt agent step.next).log step.effects

def settleMachine (program : Program) : Program :=
  let (effects, machine) := program.machine.settle
  { program with machine := machine }.log effects

def settleGo : Nat -> Program -> Program
  | 0, program => program
  | fuel + 1, program =>
    let settled := program.settleMachine
    match settled.daemon? with
    | none => settled
    | some (agent, daemon) =>
      match daemon.ownEvents.findSome? daemon.step? with
      | some step => settleGo fuel (settled.apply agent step)
      | none => settled

-- A daemon begins to watch for SIGINT, notices one signal and ends once.
def settle (program : Program) : Program :=
  settleGo 4 program

-- The key is not looked at yet.
def serve (program : Program) (listenPath keyPath : String) : Program :=
  match program.machine.startAgent listenPath keyPath with
  | (effects, machine, .error problem) =>
    ({ program with machine := machine }.log effects).fail problem.chain
  | (effects, machine, .ok agent) =>
    let ready := { program with machine := machine, state := .serving agent .waiting [] false }
    (ready.log (effects ++ [.debug "systemd notify support not compiled in"])).settle

def runConfigured (program : Program) (env : Environment) (config : Configuration) : Program :=
  let output : LogOutput := ⟨config.logLevel, config.logFile⟩
  let (result, files) := output.prepare program.machine.files
  let ready :=
    { program with machine := { program.machine with files := files }, output := output }
  match result with
  | .error problem => ready.fail problem.chain
  | .ok () =>
    let keyPath := config.keyPath.getD env.defaultKeyPath
    (ready.log [.info banner, .info ("Serving key from " ++ keyPath)]).serve
      config.listenPath keyPath

def start (tpm : Tpm) (env : Environment) (files : FileSystem) (arguments : List String) :
    Program :=
  let program := initial tpm files
  match Configuration.load env files arguments with
  | .ok config => program.runConfigured env config
  | .error (.usage problem) =>
    { program.finish (.exited (usageCode problem)) with printed := prints problem }
  | .error (.unreadable problem) => program.fail [problem.message]
  | .error .malformed => program.fail []

def signal (program : Program) : Signal -> Program
  | .stop signal =>
    match program.daemon? with
    | none => program
    | some (agent, daemon) =>
      match daemon.step? (.signalled signal) with
      | some step => (program.apply agent step).settle
      | none => program
  | .user1 => if program.isRunning then program.finish (.killed 10) else program

def act (program : Program) (machine : Machine) : Program :=
  { program with machine := machine }.settle

end Program

end SoleKey
