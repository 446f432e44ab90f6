import Mctpw.Calls
import Mctpw.Registration

set_option autoImplicit false

/- Whom the library talks to, and about what: the names the bus has given it and
the object paths its services have listed. -/
namespace Mctpw

open Runs

/-- A call of one of the library's kinds, to the bus itself or to a name that is
known, about the base object or an object path that is known. -/
inductive MethodCall.Addressed (known paths : String → Prop) : MethodCall → Prop
  | mapper (interface : String) : Addressed known paths (getObject interface)
  | owner {service : String} : known service → Addressed known paths (getNameOwner service)
  | objects {service : String} : known service → Addressed known paths (getManagedObjects service)
  | read {property : Property} : known property.service →
      property.path = basePath ∨ paths property.path → Addressed known paths property.get
  | register {call : MethodCall} : known call.destination → call.path = basePath →
      call.interface = baseInterface → (∃ type, call.member = registerMethod type) →
      Addressed known paths call
  | sent (request : SendRequest) {service : String} (devID : DeviceID) : known service →
      Addressed known paths (sendMessage request service devID)

section

variable {known known' paths paths' : String → Prop}

theorem MethodCall.Addressed.mono {call : MethodCall} (names : ∀ name, known name → known' name)
    (objects : ∀ objectPath, paths objectPath → paths' objectPath)
    (addressed : call.Addressed known paths) : call.Addressed known' paths' := by
  cases addressed with
  | mapper interface => exact .mapper interface
  | owner knows => exact .owner (names _ knows)
  | objects knows => exact .objects (names _ knows)
  | read knows about => exact .read (names _ knows) (about.imp_right (objects _))
  | register knows path interface member => exact .register (names _ knows) path interface member
  | sent request devID knows => exact .sent request devID (names _ knows)

theorem Scan.Knows.mono (names : ∀ name, known name → known' name) {scan : Scan}
    (knows : scan.Knows known) : scan.Knows known' := by
  cases scan with
  | getObject => trivial
  | getNameOwner buses service rest =>
      obtain ⟨found, asked, later⟩ := knows
      exact ⟨fun bus member => names _ (found bus member), names _ asked,
        fun other member => names _ (later other member)⟩
  | getManagedObjects eids bus rest =>
      obtain ⟨routed, asked, later⟩ := knows
      exact ⟨fun device entry held => names _ (routed device entry held), names _ asked,
        fun other member => names _ (later other member)⟩

theorem System.Acquainted.mono (names : ∀ name, known name → known' name) {s : System}
    (acquainted : s.Acquainted known) : s.Acquainted known' := by
  obtain ⟨⟨matched, routed, spawned⟩, scans⟩ := acquainted
  exact ⟨⟨fun service member => names _ (matched service member),
    fun device entry held => names _ (routed device entry held),
    fun service device member => names _ (spawned service device member)⟩,
    fun scan member => (scans scan member).mono names⟩

end

namespace Slot

end Slot

end Mctpw
