/-
**Resolvers that stay.**

A resolver that stays serves many documents. It reads a section of its configuration when it first
needs it and keeps what it read, even if the configuration changes afterwards. Main definitions:

* `StandingResolver`: where the configuration is, and what was read of it;
* `StandingResolver.resolveDocument`, `resolveText`, `parse`: the operations.
-/

import PromptWeave.Composition.Resolver
import PromptWeave.Configuration.Configurations

namespace PromptWeave

/-- Where a resolver has its configuration from. -/
inductive Source
  /-- A configuration of its own. -/
  | given (configuration : Mapping)
  /-- A configuration in use, by its number. -/
  | made (number : Nat)
deriving Repr

/-- A resolver and what it has read of its configuration. -/
structure StandingResolver where
  source : Source
  resolution : Option Mapping
  interpolation : Option Mapping
  baseDir : Option (Option Path)

namespace StandingResolver

/-- A resolver that has read nothing yet. -/
def start (source : Source) : StandingResolver := ⟨source, none, none, none⟩

/-- The entries of a configuration. -/
def configuration (configurations : Configurations) : Source → Mapping
  | .given entries => entries
  | .made number =>
    match (configurations.value number).opened with
    | .mapping _ entries => entries
    | _ => []

/-- A section that was kept, or else as it is now. -/
def sectionNow (configurations : Configurations) (source : Source) (name : String) :
    Option Mapping → Except HostFault Mapping
  | some entries => .ok entries
  | none => Settings.sectionOf name (configuration configurations source)

/-- The settings as the resolver sees them now. -/
def settings (resolver : StandingResolver) (configurations : Configurations) (world : World) :
    Settings :=
  let read := Settings.ofSections world
    (sectionNow configurations resolver.source Settings.resolutionName resolver.resolution)
    (sectionNow configurations resolver.source Settings.interpolationName resolver.interpolation)
  match resolver.baseDir with
  | some baseDir => { read with baseDir := .ok baseDir }
  | none => read

/-- The resolver after it has read the section on documents. -/
def keepResolution (resolver : StandingResolver) (configurations : Configurations) :
    StandingResolver :=
  { resolver with
    resolution := (sectionNow configurations resolver.source Settings.resolutionName
      resolver.resolution).toOption }

/-- The resolver after it has read the base directory. -/
def keepBase (resolver : StandingResolver) (configurations : Configurations) (world : World) :
    StandingResolver :=
  let settings := resolver.settings configurations world
  { resolver.keepResolution configurations with baseDir := settings.baseDir.toOption }

/-- The resolver after it has read all settings that a text needs; the section on values is read
only if the depth can be read. -/
def keepAll (resolver : StandingResolver) (configurations : Configurations) (world : World) :
    StandingResolver :=
  let settings := resolver.settings configurations world
  let resolver := resolver.keepResolution configurations
  match settings.maxDepth with
  | .error _ => resolver
  | .ok _ =>
    { resolver with
      interpolation := (sectionNow configurations resolver.source Settings.interpolationName
        resolver.interpolation).toOption }

/-- Resolves the document at a path. -/
def resolveDocument (resolver : StandingResolver) (configurations : Configurations) (world : World)
    (spelling : String) (bindings : Option Mapping) (given : Option Path) :
    StandingResolver × Outcome Resolved :=
  let settings := resolver.settings configurations world
  let resolver := resolver.keepBase configurations world
  match Resolver.locate world settings.baseDir spelling given with
  | ⟨.error fault, notices⟩ => (resolver, ⟨.error fault, notices⟩)
  | ⟨.ok located, notices⟩ =>
    let finished := Resolver.complete world settings located.base (some located.path) bindings
      located.text
    (resolver.keepAll configurations world, finished.after notices)

/-- Resolves a text without a file. -/
def resolveText (resolver : StandingResolver) (configurations : Configurations) (world : World)
    (text : Text) (bindings : Option Mapping) (given : Option Path) :
    StandingResolver × Outcome Resolved :=
  let settings := resolver.settings configurations world
  let resolver := if given.isNone then resolver.keepBase configurations world else resolver
  match Resolver.textBase world settings.baseDir given with
  | .error fault => (resolver, .quiet (.error fault))
  | .ok base =>
    (resolver.keepAll configurations world,
      Resolver.complete world settings base none bindings text)

/-- Resolves the document at a path and extracts its messages. -/
def parse (resolver : StandingResolver) (configurations : Configurations) (world : World)
    (spelling : String) (bindings : Option Mapping) (given : Option Path) :
    StandingResolver × Outcome (List Message) :=
  let (resolver, outcome) :=
    resolver.resolveDocument configurations world spelling bindings given
  (resolver, outcome.andThen Resolver.messagesOf)

end StandingResolver

end PromptWeave
