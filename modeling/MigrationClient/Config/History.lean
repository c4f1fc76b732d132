import MigrationClient.Config.Settings
import MigrationClient.Storage.Tree

/-!
# Settings through time

Settings can be merged again and again while files and environment change around them. A history
is a list of such steps; only merging changes the settings.
-/

namespace MigrationClient

/-- The surroundings of a run in memory. -/
structure Site where
  env : Environment
  files : Storage.Tree

namespace Site

def world (s : Site) : World := ⟨s.env, s.files.read⟩

end Site

namespace Settings

inductive Step where
  | merge
  | write (path content : List UInt8)
  | remove (path : List UInt8)
  | set (name value : List UInt8)
  | unset (name : List UInt8)
  deriving DecidableEq, Repr

/-- The surroundings after a step. -/
def Step.change (site : Site) : Step → Site
  | merge => site
  | write path content => { site with files := site.files.write path content }
  | remove path => { site with files := site.files.remove path }
  | set name value => { site with env := site.env.set name value }
  | unset name => { site with env := site.env.unset name }

/-- The settings after a step in some surroundings. -/
def Step.apply (site : Site) (s : Settings) : Step → Settings
  | merge => s.afterMerge site.world
  | _ => s

/-- The surroundings and the settings after some steps. -/
def after (site : Site) (s : Settings) (steps : List Step) : Site × Settings :=
  steps.foldl (fun (site, s) step => (step.change site, step.apply site s)) (site, s)

theorem after_cons (site : Site) (s : Settings) (step : Step) (steps : List Step) :
    after site s (step :: steps) = after (step.change site) (step.apply site s) steps := rfl

end Settings

end MigrationClient
