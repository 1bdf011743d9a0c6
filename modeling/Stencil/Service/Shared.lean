import Stencil.Service

/-!
The service as it is shared.

Whoever has the service may ask for its configuration to be renewed, and the file is read while everything else goes
on. So a renewal that is under way is marked, and to ask for another one meanwhile comes to nothing. The mark is taken
away when the renewal is over, whether it failed or not.
-/

namespace Stencil

/-- A running service, and whether a renewal of its configuration is under way. -/
structure SharedService where
  service : Service
  renewing : Bool

namespace SharedService

/-- Starts the service, with no renewal under way. -/
def start (config : Option ConfigSource) (names : List String) (disk : Disk) (locales : Option Root) :
    Except ServiceError SharedService :=
  match Service.start config names disk locales with
  | .ok service => .ok ⟨service, false⟩
  | .error e => .error e

/-- What became of an attempt to renew the configuration, which may have been turned away. -/
inductive Attempt where
  | done (result : Service.Refresh)
  /-- Another renewal was under way. -/
  | skipped
  deriving DecidableEq, Repr

/-- Begins a renewal; `none` when one is under way. -/
def begin? (shared : SharedService) : Option SharedService :=
  if shared.renewing then none else some { shared with renewing := true }

/-- Ends a renewal with the text of the configuration file, if that can be read. -/
def finish (shared : SharedService) (content : Option String) : Service.Refresh × SharedService :=
  let (result, service) := shared.service.refresh content
  (result, ⟨service, false⟩)

/-- Renews the configuration, where there is a file that it comes from. -/
def refresh (shared : SharedService) (content : Option String) : Attempt × SharedService :=
  match shared.service.configFile with
  | none => (.done .disabled, shared)
  | some _ =>
    match shared.begin? with
    | none => (.skipped, shared)
    | some begun =>
      let (result, after) := begun.finish content
      (.done result, after)

end SharedService

end Stencil
