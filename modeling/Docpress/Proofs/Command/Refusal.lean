import Docpress.Proofs.Command.Agreement
import Docpress.Proofs.Config.Refusal
/-!
Commands whose configuration cannot be loaded. They end before they do anything else, and their user
is told why, unless the content of the configuration is not foreseen: then they crash.
-/

namespace Docpress.Command

/-- The configuration that a command loads. -/
def Invocation.config? : Invocation → Option Text
  | .render _ config _ => some config
  | .build config => some config
  | _ => none

theorem run_readConfig_error {s : Session} {config : Text} {e : LoadError}
    (h : loadConfig s.tree (Path.ofText config) = .error e) :
    (readConfig config).run.run s = (.error (configStop config e), s) := by
  rw [readConfig, run_bind_ok run_get, h]
  rfl

/-- A command that cannot load its configuration does nothing. -/
theorem run_task_error {s : Session} {invocation : Invocation} {config : Text} {e : LoadError}
    (hconfig : invocation.config? = some config)
    (h : loadConfig s.tree (Path.ofText config) = .error e) :
    invocation.task.run.run s = (.error (configStop config e), s) := by
  cases invocation with
  | render source path output =>
    obtain rfl := Option.some.inj hconfig
    exact run_bind_error (run_readConfig_error h) _
  | build path =>
    obtain rfl := Option.some.inj hconfig
    exact run_bind_error (run_readConfig_error h) _
  | parsers => cases hconfig
  | escape source => cases hconfig
  | help => cases hconfig
  | completion => cases hconfig

/-- How a command ends that does nothing. -/
theorem run_eq_of_error {args : List Text} {invocation : Invocation} {s : Session} {stop : Stop}
    (hargs : Invocation.ofArguments args = .ok invocation)
    (h : invocation.task.run.run s = (.error stop, s)) :
    run args s = ⟨some stop, s.printed, s.logs, s.tree⟩ := by
  unfold run
  rw [hargs]
  dsimp only
  rw [h]

/-- A project with nothing but a configuration. -/
def configured (content : String) : FileTree :=
  { entries := [(["docmark.yml".toList], .file (Utf8.encode content.toList))] }

end Docpress.Command
