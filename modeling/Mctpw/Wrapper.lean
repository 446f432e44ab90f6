import Mctpw.LatestRoute

set_option autoImplicit false

/- MCTPWrapper over its implementation: the overloads taking a plain EID, the
plain endpoint map, and a process with any number of wrappers. -/
namespace Mctpw

open Runs

/-- std::unordered_map<eid_t, pair>. -/
abbrev EndpointMap := UnorderedMap UInt8 Bus

namespace MCTPWrapper

/-- The overloads on an EID ask for it on network 0. -/
def sendReceiveAsync (callback : Bool) (dstEId : UInt8) (request : ByteArray) (timeout : Int)
    (s : MCTPImpl) : MCTPImpl :=
  s.sendReceiveAsync callback (DeviceID.make dstEId 0) request timeout

def sendReceiveYield (reply : ErrorCode × ByteArray) (dstEId : UInt8) (request : ByteArray)
    (timeout : Int) (s : MCTPImpl) : (ErrorCode × ByteArray) × MCTPImpl :=
  s.sendReceiveYield reply (DeviceID.make dstEId 0) request timeout

def sendReceiveBlocked (reply : MCTPImpl.BlockedReply) (dstEId : UInt8) (request : ByteArray)
    (timeout : Int) (s : MCTPImpl) : Except Fault (ErrorCode × ByteArray) × MCTPImpl :=
  s.sendReceiveBlocked reply (DeviceID.make dstEId 0) request timeout

def sendAsync (callback : Bool) (dstEId : UInt8) (msgTag : UInt8) (tagOwner : Bool)
    (request : ByteArray) (s : MCTPImpl) : MCTPImpl :=
  s.sendAsync callback (DeviceID.make dstEId 0) msgTag tagOwner request

def sendYield (reply : ErrorCode × Int) (dstEId : UInt8) (msgTag : UInt8) (tagOwner : Bool)
    (request : ByteArray) (s : MCTPImpl) : (ErrorCode × Int) × MCTPImpl :=
  s.sendYield reply (DeviceID.make dstEId 0) msgTag tagOwner request

/-- One of the five overloads on an EID. -/
def send (request : SendRequest) (dstEId : UInt8) (s : MCTPImpl) : MCTPImpl :=
  match request with
  | .sendAsync callback msgTag tagOwner request =>
      sendAsync callback dstEId msgTag tagOwner request s
  | .sendYield reply msgTag tagOwner request =>
      (sendYield reply dstEId msgTag tagOwner request s).2
  | .sendReceiveAsync callback request timeout =>
      sendReceiveAsync callback dstEId request timeout s
  | .sendReceiveYield reply request timeout =>
      (sendReceiveYield reply dstEId request timeout s).2
  | .sendReceiveBlocked reply request timeout =>
      (sendReceiveBlocked reply dstEId request timeout s).2

theorem send_eq (request : SendRequest) (dstEId : UInt8) (s : MCTPImpl) :
    send request dstEId s = MCTPImpl.send request (DeviceID.make dstEId 0) s := by
  cases request <;> rfl

/-- The loop of getEndpointMap over the extended map, in the order its entries
are visited. The map it fills is a static of the function. -/
def getEndpointMap (extendedMap : List (DeviceID × Bus)) (localEidMap : EndpointMap) :
    EndpointMap :=
  extendedMap.foldl (fun eids entry => eids.emplace entry.1.mctpEID entry.2) localEidMap

end MCTPWrapper

/-- Some wrappers on one host, and the statics they share: the map behind
getEndpointMap and the counter behind I3C bus ids. -/
structure Process where
  host : ByteOrder.Endian
  wrappers : List System
  localEidMap : EndpointMap
  i3cBusId : Int

inductive Operation
  | construct (config : MCTPConfiguration) (networkChangeCb rxCb : Bool)
  | wrapper (index : Nat) (label : Label)
  | getEndpointMap (index : Nat) (extendedMap : List (DeviceID × Bus))

namespace Process

/-- A process in which no wrapper has been made. -/
def fresh (host : ByteOrder.Endian) : Process := ⟨host, [], ∅, 0⟩

def step (p : Process) : Operation → Option Process
  | .construct config networkChangeCb rxCb =>
      some { p with wrappers := p.wrappers ++ [.construct p.host config networkChangeCb rxCb] }
  | .wrapper index label =>
      match p.wrappers[index]? with
      | none => none
      | some wrapper =>
          let shared := { wrapper with lib := { wrapper.lib with i3cBusId := p.i3cBusId } }
          (System.step shared label).map fun next =>
            { p with wrappers := p.wrappers.set index next, i3cBusId := next.lib.i3cBusId }
  | .getEndpointMap index extendedMap =>
      match p.wrappers[index]? with
      | none => none
      | some _ => some { p with
          localEidMap := MCTPWrapper.getEndpointMap extendedMap p.localEidMap }

/-- A call of getEndpointMap visits the entries of its wrapper's map. -/
def Visits (p : Process) : Operation → Prop
  | .getEndpointMap index extendedMap =>
      ∀ wrapper, p.wrappers[index]? = some wrapper →
        wrapper.lib.endpointMap.Lists extendedMap
  | _ => True

/-- A process in which one wrapper has just been made. -/
def single (host : ByteOrder.Endian) (config : MCTPConfiguration) (networkChangeCb rxCb : Bool) :
    Process :=
  ⟨host, [.construct host config networkChangeCb rxCb], ∅, 0⟩

/-- And no other is made. -/
def VisitsAlone (p : Process) (operation : Operation) : Prop :=
  p.Visits operation ∧ ∀ config networkChangeCb rxCb,
    operation ≠ .construct config networkChangeCb rxCb

/-- The entries visited by the calls of getEndpointMap on any wrapper, in order. -/
def visited (operations : List Operation) : List (DeviceID × Bus) :=
  operations.flatMap fun operation =>
    match operation with
    | .getEndpointMap _ extendedMap => extendedMap
    | _ => []

/-- The pair that came with an EID where it was first visited. -/
def firstVisited (eid : UInt8) (entries : List (DeviceID × Bus)) : Option Bus :=
  (entries.find? fun entry => entry.1.mctpEID = eid).map Prod.snd

end Process

namespace MCTPWrapper

/-- An EID keeps the pair it had, or gets the first one visited. -/
theorem find_getEndpointMap (extendedMap : List (DeviceID × Bus)) (localEidMap : EndpointMap)
    (eid : UInt8) :
    (getEndpointMap extendedMap localEidMap).find eid =
      (localEidMap.find eid).or (Process.firstVisited eid extendedMap) :=
  UnorderedMap.find_foldl_emplace (fun entry : DeviceID × Bus => entry.1.mctpEID) Prod.snd
    extendedMap localEidMap eid

end MCTPWrapper

namespace Process

variable {admits : Process → Operation → Prop} {start p : Process} {operations : List Operation}

/-- The static map is what all calls before have visited, first come first kept. -/
theorem localEidMap_eq (run : Run step admits start operations p) :
    p.localEidMap = MCTPWrapper.getEndpointMap (visited operations) start.localEidMap := by
  induction run with
  | nil => rfl
  | @snoc operations state next operation _ _ stepped ih =>
      cases operation with
      | construct config networkChangeCb rxCb =>
          cases stepped
          simpa [visited] using ih
      | wrapper index label =>
          simp only [step] at stepped
          split at stepped
          · cases stepped
          · obtain ⟨next', _, rfl⟩ := Option.map_eq_some_iff.mp stepped
            simpa [visited] using ih
      | getEndpointMap index extendedMap =>
          simp only [step] at stepped
          split at stepped
          · cases stepped
          · cases stepped
            rw [ih]
            simp [visited, MCTPWrapper.getEndpointMap, List.foldl_append]

theorem wrappers_single {host : ByteOrder.Endian} {config : MCTPConfiguration}
    {networkChangeCb rxCb : Bool}
    (run : Run step VisitsAlone (single host config networkChangeCb rxCb) operations p) :
    ∃ wrapper, p.wrappers = [wrapper] := by
  apply run.invariant fun p => ∃ wrapper, p.wrappers = [wrapper]
  · exact ⟨_, rfl⟩
  · rintro state operation next ⟨wrapper, alone⟩ ⟨_, other⟩ stepped
    cases operation with
    | construct config networkChangeCb rxCb => exact absurd rfl (other _ _ _)
    | wrapper index label =>
        simp only [step, alone] at stepped
        split at stepped
        · cases stepped
        · rename_i current called
          obtain ⟨moved, _, rfl⟩ := Option.map_eq_some_iff.mp stepped
          have only : index = 0 := by
            by_contra above
            rw [List.getElem?_eq_none (by simp; omega)] at called
            cases called
          exact ⟨moved, by rw [only]; rfl⟩
    | getEndpointMap index extendedMap =>
        simp only [step] at stepped
        split at stepped
        · cases stepped
        · cases stepped
          exact ⟨wrapper, alone⟩

end Process

end Mctpw
