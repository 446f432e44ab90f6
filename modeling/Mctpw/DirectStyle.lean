import Mctpw.Discovery

set_option autoImplicit false

/- detectMctpEndpoints as it is written, each yield_method_call a call that comes
back, beside the coroutine that is taken up again at each of them. -/
namespace Mctpw

/-- What the coroutine comes back to: the library as others have left it, the
answers of the bus to the calls that block, and the reply to the one waited for. -/
structure Pause (α : Type) where
  lib : MCTPImpl
  env : Env
  reply : α

/-- The rest of the world, which acts while the coroutine waits. What it does may
depend on all that has happened. -/
structure Elsewhere where
  object : MCTPImpl → Pause (Except ErrorCode (List String))
  nameOwner : String → MCTPImpl → Pause (Except ErrorCode String)
  managedObjects : String → MCTPImpl → Pause (Except ErrorCode (DictType Interfaces))

namespace Direct

open MCTPImpl

variable (world : Elsewhere)

/-- The service's own name is good enough where its owner is not known. -/
def addUniqueNameToMatchedServices (serviceName : String) (s : MCTPImpl) : Env × MCTPImpl :=
  let owner := world.nameOwner serviceName (s.emit (.call (getNameOwner serviceName)))
  let uniqueName :=
    match owner.reply with
    | .ok uniqueName => uniqueName
    | .error _ => serviceName
  (owner.env, owner.lib.matchService uniqueName)

/-- The loop of findBusByBindingType. A service whose bus cannot be read is skipped. -/
def findBusLoop : List String → List Bus → Env × MCTPImpl → List Bus × Env × MCTPImpl
  | [], buses, at_ => (buses, at_)
  | service :: rest, buses, at_ =>
      let bus := getBusId at_.1 service at_.2
      match bus.1 with
      | .error _ => findBusLoop rest buses (at_.1, bus.2)
      | .ok id =>
          findBusLoop rest (buses ++ [(UInt32.ofInt id, service)])
            (addUniqueNameToMatchedServices world service bus.2)

def findBusByBindingType (s : MCTPImpl) : Option (List Bus) × Env × MCTPImpl :=
  let services := world.object
    (s.emit (.call (getObject (bindingToInterface s.config.bindingType))))
  match services.reply with
  | .error _ => (none, services.env, services.lib)
  | .ok names =>
      let found := findBusLoop world names [] (services.env, services.lib)
      (some found.1, found.2)

def buildMatchingEndpointMap : List Bus → EndpointMapExtended → Env × MCTPImpl →
    EndpointMapExtended × Env × MCTPImpl
  | [], eids, at_ => (eids, at_)
  | bus :: rest, eids, at_ =>
      let values := world.managedObjects bus.2 (at_.2.emit (.call (getManagedObjects bus.2)))
      match values.reply with
      | .error _ => buildMatchingEndpointMap rest eids (values.env, values.lib)
      | .ok objects =>
          let scanned := scanService values.env bus objects eids values.lib
          buildMatchingEndpointMap rest scanned.1 (values.env, scanned.2)

/-- The tail after the search: registration and the own EIDs come last. -/
def detectMctpEndpoints (s : MCTPImpl) : Progress × MCTPImpl :=
  let found := findBusByBindingType world { s with mctpChangesWatch := true }
  let opened := { found.2.2 with isInitialisationsDone := true }
  match found.1 with
  | none => finishDetect found.2.1 opened
  | some buses =>
      let eids := buildMatchingEndpointMap world buses ∅ (found.2.1, opened)
      finishDetect eids.2.1 { eids.2.2 with endpointMap := eids.1 }

end Direct

namespace Elsewhere

/-- The coroutine is taken up with the reply to the call it waits at. -/
def takeUp (world : Elsewhere) (scan : Scan) (s : MCTPImpl) : Option (Progress × MCTPImpl) :=
  match scan with
  | .getObject =>
      let pause := world.object s
      MCTPImpl.resume pause.env scan (.object pause.reply) pause.lib
  | .getNameOwner _ service _ =>
      let pause := world.nameOwner service s
      MCTPImpl.resume pause.env scan (.nameOwner pause.reply) pause.lib
  | .getManagedObjects _ bus _ =>
      let pause := world.managedObjects bus.2 s
      MCTPImpl.resume pause.env scan (.managedObjects pause.reply) pause.lib

/-- Taken up so many times. -/
def drive (world : Elsewhere) : Nat → Progress × MCTPImpl → Option (Progress × MCTPImpl)
  | 0, outcome => some outcome
  | n + 1, (.suspended scan, s) => (world.takeUp scan s).bind (world.drive n)
  | _ + 1, _ => none

/-- Taken up often enough, the coroutine leaves the processor in the given way. -/
def Drives (world : Elsewhere) (outcome result : Progress × MCTPImpl) : Prop :=
  ∃ n, world.drive n outcome = some result

variable {world : Elsewhere}

theorem Drives.refl (outcome : Progress × MCTPImpl) : world.Drives outcome outcome := ⟨0, rfl⟩

theorem Drives.of_takeUp {scan : Scan} {s : MCTPImpl} {outcome result : Progress × MCTPImpl}
    (taken : world.takeUp scan s = some outcome) (rest : world.Drives outcome result) :
    world.Drives (.suspended scan, s) result := by
  obtain ⟨n, driven⟩ := rest
  exact ⟨n + 1, by rw [drive, taken, Option.bind_some, driven]⟩

end Elsewhere

open Elsewhere

variable (world : Elsewhere)

theorem buildMatchingEndpointMap_drives (buses : List Bus) (eids : EndpointMapExtended) (env : Env)
    (s : MCTPImpl) :
    world.Drives (MCTPImpl.buildMatchingEndpointMap env eids buses s)
      (MCTPImpl.finishDetect (Direct.buildMatchingEndpointMap world buses eids (env, s)).2.1
        { (Direct.buildMatchingEndpointMap world buses eids (env, s)).2.2 with
          endpointMap := (Direct.buildMatchingEndpointMap world buses eids (env, s)).1 }) := by
  induction buses generalizing eids env s with
  | nil => exact .refl _
  | cons bus rest ih =>
      rw [Direct.buildMatchingEndpointMap]
      dsimp only
      generalize asked : world.managedObjects bus.2 (s.emit (.call (getManagedObjects bus.2))) = values
      obtain ⟨lib, env', reply⟩ := values
      cases reply with
      | error failed =>
          refine .of_takeUp ?_ (ih eids env' lib)
          simp only [takeUp, asked]
          rfl
      | ok objects =>
          refine .of_takeUp ?_ (ih (MCTPImpl.scanService env' bus objects eids lib).1 env'
            (MCTPImpl.scanService env' bus objects eids lib).2)
          simp only [takeUp, asked]
          rfl

/-- detectMctpEndpoints from the end of the search on. -/
def Direct.build (found : List Bus × Env × MCTPImpl) : Progress × MCTPImpl :=
  let eids := Direct.buildMatchingEndpointMap world found.1 ∅
    (found.2.1, { found.2.2 with isInitialisationsDone := true })
  MCTPImpl.finishDetect eids.2.1 { eids.2.2 with endpointMap := eids.1 }

theorem findBuses_drives (services : List String) (buses : List Bus) (env : Env) (s : MCTPImpl) :
    world.Drives (MCTPImpl.findBuses env buses services s)
      (Direct.build world (Direct.findBusLoop world services buses (env, s))) := by
  induction services generalizing buses env s with
  | nil => exact buildMatchingEndpointMap_drives world buses ∅ env _
  | cons service rest ih =>
      unfold MCTPImpl.findBuses Direct.findBusLoop
      dsimp only
      cases (MCTPImpl.getBusId env service s).1 with
      | error fault => exact ih buses env _
      | ok id =>
          dsimp only [Direct.addUniqueNameToMatchedServices]
          generalize asked : world.nameOwner service
            ((MCTPImpl.getBusId env service s).2.emit (.call (getNameOwner service))) = owner
          obtain ⟨lib, env', reply⟩ := owner
          refine .of_takeUp ?_ (ih (buses ++ [(UInt32.ofInt id, service)]) env' _)
          simp only [takeUp, asked]
          cases reply <;> rfl

/-- The coroutine does what its source says: whatever happens at its suspension
points and whatever it is answered there, taken up often enough it ends, and in the
very state the straight code reaches. -/
theorem detectMctpEndpoints_drives (s : MCTPImpl) :
    world.Drives s.begin (Direct.detectMctpEndpoints world s) ∧
      ∀ scan, (Direct.detectMctpEndpoints world s).1 ≠ .suspended scan := by
  unfold MCTPImpl.begin MCTPImpl.detectMctpEndpoints Direct.detectMctpEndpoints
    Direct.findBusByBindingType
  dsimp only
  generalize asked : world.object (MCTPImpl.emit { s with mctpChangesWatch := true }
    (.call (getObject (bindingToInterface s.config.bindingType)))) = services
  obtain ⟨lib, env, reply⟩ := services
  cases reply with
  | error failed =>
      refine ⟨.of_takeUp ?_ (.refl _), MCTPImpl.finishDetect_not_suspended _ _⟩
      simp only [takeUp, asked]
      rfl
  | ok names =>
      refine ⟨.of_takeUp ?_ (findBuses_drives world names [] env lib),
        MCTPImpl.finishDetect_not_suspended _ _⟩
      simp only [takeUp, asked]
      rfl

end Mctpw
