import PolicyGuard.Interceptor.Transport

/-!
The registry of transports that a program shares.

One interceptor at a time can be installed: it stands before every registered
transport, and uninstalling it puts back what was there. Meanwhile the registry
is locked.
-/

namespace PolicyGuard

structure TransportSet where
  sync : Option Transport
  async : Option Transport
  pool : Option Transport
  deriving DecidableEq, Repr

namespace TransportSet

def empty : TransportSet :=
  ⟨none, none, none⟩

def get? (s : TransportSet) : TransportKind → Option Transport
  | .sync => s.sync
  | .async => s.async
  | .pool => s.pool

def set (s : TransportSet) (kind : TransportKind) (t : Transport) : TransportSet :=
  match kind with
  | .sync => { s with sync := some t }
  | .async => { s with async := some t }
  | .pool => { s with pool := some t }

/-- The same transports with an interceptor before each. -/
def intercepted (s : TransportSet) (name : String) : TransportSet where
  sync := s.sync.map (.intercepted name)
  async := s.async.map (.intercepted name)
  pool := s.pool.map (.intercepted name)

end TransportSet

/-- Who is installed, and what the registry held before. -/
structure Installation where
  owner : String
  originals : TransportSet
  deriving DecidableEq, Repr

structure Registry where
  active : TransportSet
  installation : Option Installation
  deriving DecidableEq, Repr

inductive RegistryError where
  | alreadyInstalled
  | notInstalled
  | locked
  deriving DecidableEq, Repr

def RegistryError.message : RegistryError → String
  | alreadyInstalled => "an interceptor is already installed"
  | notInstalled => "this interceptor is not installed"
  | locked => "transport registry is locked by an installed interceptor"

namespace Registry

def empty : Registry :=
  ⟨.empty, none⟩

def isInstalled (r : Registry) : Bool :=
  r.installation.isSome

def isInstalledBy (r : Registry) (owner : String) : Bool :=
  r.installation.any (·.owner = owner)

/-- Nothing is registered or cleared while an interceptor is installed. -/
def unlocked (r : Registry) : Except RegistryError Unit :=
  if r.isInstalled then .error .locked else .ok ()

/-! A call answers with the registry it leaves, also where it is refused. -/

/-- Puts other transports in, unless the registry is locked. -/
def replace (r : Registry) (active : TransportSet) : Except RegistryError Unit × Registry :=
  match r.unlocked with
  | .ok () => (.ok (), { r with active })
  | .error e => (.error e, r)

def enrol (r : Registry) (kind : TransportKind) (t : Transport) :
    Except RegistryError Unit × Registry :=
  r.replace (r.active.set kind t)

def sweep (r : Registry) : Except RegistryError Unit × Registry :=
  r.replace .empty

/-- Puts an interceptor before the transports, and then writes down who it is and what was
there. -/
def engage (r : Registry) (owner : String) : Except RegistryError Unit × Registry :=
  if r.isInstalled then (.error .alreadyInstalled, r)
  else
    let originals := r.active
    let r := { r with active := originals.intercepted owner }
    (.ok (), { r with installation := some ⟨owner, originals⟩ })

/-- Takes the installation out to see whose it is. One's own stays out, and what the
registry held before is back; that of another goes back in. -/
def withdraw (r : Registry) (owner : String) : Except RegistryError Unit × Registry :=
  let taken := r.installation
  let r := { r with installation := none }
  match taken with
  | some i =>
    if i.owner = owner then (.ok (), { r with active := i.originals })
    else (.error .notInstalled, { r with installation := taken })
  | none => (.error .notInstalled, { r with installation := taken })

/-- An interceptor goes away, or the scope ends that installed it: it is
uninstalled if it is the installed one. -/
def release (r : Registry) (owner : String) : Registry :=
  if r.isInstalledBy owner then (r.withdraw owner).2 else r

/-! The same calls for those who go on only if they are not refused. -/

/-- The registry after a call, unless the call was refused. -/
def unlessRefused : Except RegistryError Unit × Registry → Except RegistryError Registry
  | (.ok (), r) => .ok r
  | (.error e, _) => .error e

def register (r : Registry) (kind : TransportKind) (t : Transport) :
    Except RegistryError Registry :=
  unlessRefused (r.enrol kind t)

def clear (r : Registry) : Except RegistryError Registry :=
  unlessRefused r.sweep

def install (r : Registry) (owner : String) : Except RegistryError Registry :=
  unlessRefused (r.engage owner)

def uninstall (r : Registry) (owner : String) : Except RegistryError Registry :=
  unlessRefused (r.withdraw owner)

/-! ## Histories -/

/-- What may be done to a registry. -/
inductive Action where
  | register (kind : TransportKind) (t : Transport)
  | clear
  | install (owner : String)
  | uninstall (owner : String)
  | release (owner : String)
  deriving DecidableEq, Repr

/-- The answer to an action, with the registry after it. -/
def act (r : Registry) : Action → Except RegistryError Unit × Registry
  | .register kind t => r.enrol kind t
  | .clear => r.sweep
  | .install owner => r.engage owner
  | .uninstall owner => r.withdraw owner
  | .release owner => (.ok (), r.release owner)

/-- The registry after some actions. -/
def run (r : Registry) (actions : List Action) : Registry :=
  actions.foldl (fun r a => (r.act a).2) r

end Registry

end PolicyGuard
