import TunnelControl.Tunnel.Config

/-!
# The life of the tunnel

A request to start or stop the tunnel is answered by a plan: the moves to make, and the answer to give
when all of them are made.  To enter a state is to publish it.  The plan is carried out one move after
the other (`Tunnel.carryOut`), and a publication that fails abandons the rest of it.

* `Tunnel.startPlan`, `Tunnel.stopPlan`   the plans;
* `Tunnel.start`, `Tunnel.stop`           the plans carried out.
-/

namespace TunnelControl

/-- why a request to the tunnel fails -/
inductive TunnelFault
  | invalidConfig (reason : String)
  | busy (state : TunnelState)
  | other (reason : String)
  deriving DecidableEq, Repr

def TunnelFault.message : TunnelFault → String
  | .invalidConfig reason => s!"Invalid tunnel configuration: {reason}"
  | .busy state => s!"Tunnel is busy ({state.description})"
  | .other reason => s!"Tunnel error: {reason}"

/-- what is wrong, in a word -/
def TunnelFault.kind : TunnelFault → String
  | .invalidConfig _ => "InvalidConfig"
  | .busy _ => "Busy"
  | .other _ => "Other"

/-- the state of the tunnel and the configuration it holds -/
structure Tunnel where
  state : TunnelState := .stopped
  config : Option TunnelConfig := none
  deriving DecidableEq, Repr, Inhabited

inductive TunnelMove
  | enter (state : TunnelState)
  | hold (config : TunnelConfig)
  | release
  deriving DecidableEq, Repr

structure TunnelPlan where
  moves : List TunnelMove
  answer : Except TunnelFault Unit

namespace Tunnel

def startPlan (t : Tunnel) (config : TunnelConfig) : TunnelPlan :=
  match t.state with
  | .stopped | .invalid | .error =>
    match config.check with
    | .error fault => ⟨[.enter .invalid], .error (.invalidConfig fault.message)⟩
    | .ok () =>
      ⟨[.enter .starting, .hold config, .enter .registering, .enter .registered, .enter .running],
        .ok ()⟩
  | state => ⟨[], .error (.busy state)⟩

def stopPlan (t : Tunnel) : TunnelPlan :=
  match t.state with
  | .stopped => ⟨[], .ok ()⟩
  | .stopping => ⟨[], .error (.busy .stopping)⟩
  | _ => ⟨[.enter .stopping, .release, .enter .stopped], .ok ()⟩

/-- what has come of a plan -/
structure Outcome where
  tunnel : Tunnel
  /-- the states published, in order -/
  published : List TunnelState
  /-- the answer; an abandoned plan has none -/
  answer : Option (Except TunnelFault Unit)

/-- makes moves in order; a publication for which `fails` holds is the last thing that happens -/
def makeMoves (fails : TunnelState → Bool) (answer : Except TunnelFault Unit) :
    Tunnel → List TunnelMove → Outcome
  | t, [] => ⟨t, [], some answer⟩
  | t, .enter state :: moves =>
    if fails state then ⟨{ t with state }, [state], none⟩
    else
      let o := makeMoves fails answer { t with state } moves
      { o with published := state :: o.published }
  | t, .hold config :: moves => makeMoves fails answer { t with config := some config } moves
  | t, .release :: moves => makeMoves fails answer { t with config := none } moves

def carryOut (t : Tunnel) (fails : TunnelState → Bool) (plan : TunnelPlan) : Outcome :=
  makeMoves fails plan.answer t plan.moves

def start (t : Tunnel) (config : TunnelConfig) : Outcome :=
  t.carryOut (fun _ => false) (t.startPlan config)

def stop (t : Tunnel) : Outcome := t.carryOut (fun _ => false) t.stopPlan

theorem makeMoves_nil (fails : TunnelState → Bool) (answer : Except TunnelFault Unit) (t : Tunnel) :
    makeMoves fails answer t [] = ⟨t, [], some answer⟩ := rfl

/-- the last state published is the state of the tunnel, or none was published and it is as before -/
theorem state_makeMoves (fails : TunnelState → Bool) (answer : Except TunnelFault Unit) (t : Tunnel)
    (moves : List TunnelMove) :
    (makeMoves fails answer t moves).tunnel.state
      = ((makeMoves fails answer t moves).published.getLast?).getD t.state := by
  induction moves generalizing t with
  | nil => rfl
  | cons move moves ih =>
    cases move with
    | enter state =>
      unfold makeMoves
      split
      · rfl
      · simp only [ih, List.getLast?_cons, Option.getD_some]
    | hold config => exact ih _
    | release => exact ih _

end Tunnel

end TunnelControl
