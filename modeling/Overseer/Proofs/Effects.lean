import Overseer.Supervisor.Basic

/-!
Effects as what they do: every effect on the host that a run notes stands for one change of the
host, and a run is accounted for by its effects when carrying them out leads from the host before
to the host after.
-/

namespace Overseer

variable {κ : Type}

/-- What an effect does to the host. Looking at a script or a log changes nothing; draining and
    reporting are done by the session, not by the host alone. -/
def Effect.enact (control : Control κ) (host : Host κ) : Effect → Host κ
  | .exitRecorded file text =>
    { host with files := (Supervisor.writeExit file text host.files).2 }
  | .called c => (control c host).2
  | .logErased p => { host with files := (TaskLog.ofPath p).erase host.files }
  | .scriptAwaited _ | .logRead _ | .drained | .exitReported _ => host

namespace Run

/-- A run with further effects: noted, and carried out on the host in the same order. -/
def carryOut (control : Control κ) (run : Run κ) (effects : List Effect) : Run κ :=
  ⟨effects.foldl (Effect.enact control) run.host, run.trace ++ effects⟩

@[simp] theorem carryOut_nil (control : Control κ) (run : Run κ) :
    run.carryOut control [] = run := by
  simp [carryOut]

theorem carryOut_append (control : Control κ) (run : Run κ) (earlier later : List Effect) :
    run.carryOut control (earlier ++ later) =
      (run.carryOut control earlier).carryOut control later := by
  simp [carryOut, List.append_assoc]

theorem carryOut_cons (control : Control κ) (run : Run κ) (e : Effect) (later : List Effect) :
    run.carryOut control (e :: later) = (run.carryOut control [e]).carryOut control later :=
  carryOut_append control run [e] later

/-- Making a call is nothing but the effect of the call. -/
theorem call_eq (control : Control κ) (c : Call) (run : Run κ) :
    call control c run = ((control c run.host).1, run.carryOut control [.called c]) := rfl

theorem note_logRead_eq (control : Control κ) (run : Run κ) (p : Path) :
    run.note (.logRead p) = run.carryOut control [.logRead p] := rfl

end Run

theorem TaskLog.eraseDuring_eq (control : Control κ) (log : TaskLog) (run : Run κ) :
    log.eraseDuring run = run.carryOut control [.logErased log.path] := rfl

end Overseer
