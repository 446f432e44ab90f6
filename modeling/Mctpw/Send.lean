import Mctpw.State

set_option autoImplicit false

/- The send functions. All of them look the device up and address the service
its entry names. -/
namespace Mctpw

def sendReceiveCall (destination : String) (devID : DeviceID) (request : ByteArray)
    (timeout : Int) : MethodCall :=
  ⟨destination, basePath, baseInterface, "SendReceiveMctpMessagePayload",
    [.u8 devID.mctpEID, .bytes request, .u16 (UInt16.ofInt timeout)]⟩

def sendCall (destination : String) (devID : DeviceID) (msgTag : UInt8) (tagOwner : Bool)
    (request : ByteArray) : MethodCall :=
  ⟨destination, basePath, baseInterface, "SendMctpMessagePayload",
    [.u8 devID.mctpEID, .u8 msgTag, .bool tagOwner, .bytes request]⟩

namespace MCTPImpl

/-- Issues the call; the handler runs when the reply arrives. -/
def sendReceiveAsync (callback : Bool) (devID : DeviceID) (request : ByteArray) (timeout : Int)
    (s : MCTPImpl) : MCTPImpl :=
  match s.endpointMap.find devID with
  | none => if callback then s.emit (.responded .ioError []) else s
  | some entry => s.emit (.call (sendReceiveCall entry.2 devID request timeout))

/-- The reply is the error code and response yield_method_call produces. -/
def sendReceiveYield (reply : ErrorCode × ByteArray) (devID : DeviceID) (request : ByteArray)
    (timeout : Int) (s : MCTPImpl) : (ErrorCode × ByteArray) × MCTPImpl :=
  match s.endpointMap.find devID with
  | none => ((.ioError, []), s)
  | some entry => (reply, s.emit (.call (sendReceiveCall entry.2 devID request timeout)))

/-- What the blocking call comes back with. -/
inductive BlockedReply
  | response (bytes : ByteArray)
  | methodError
  | raised

def sendReceiveBlocked (reply : BlockedReply) (devID : DeviceID) (request : ByteArray)
    (timeout : Int) (s : MCTPImpl) : Except Fault (ErrorCode × ByteArray) × MCTPImpl :=
  match s.endpointMap.find devID with
  | none => (.ok (.ioError, []), s)
  | some entry =>
      let sent := s.emit (.call (sendReceiveCall entry.2 devID request timeout))
      match reply with
      | .response bytes => (.ok (.success, bytes), sent)
      | .methodError => (.ok (.ioError, []), sent)
      | .raised => (.error .sdBusError, sent)

/-- Issues the call; the handler runs when the reply arrives. -/
def sendAsync (callback : Bool) (devID : DeviceID) (msgTag : UInt8) (tagOwner : Bool)
    (request : ByteArray) (s : MCTPImpl) : MCTPImpl :=
  match s.endpointMap.find devID with
  | none => if callback then s.emit (.sent .ioError (-1)) else s
  | some entry => s.emit (.call (sendCall entry.2 devID msgTag tagOwner request))

def sendYield (reply : ErrorCode × Int) (devID : DeviceID) (msgTag : UInt8) (tagOwner : Bool)
    (request : ByteArray) (s : MCTPImpl) : (ErrorCode × Int) × MCTPImpl :=
  match s.endpointMap.find devID with
  | none => ((.ioError, -1), s)
  | some entry => (reply, s.emit (.call (sendCall entry.2 devID msgTag tagOwner request)))

end MCTPImpl

/-- A use of one of the five send functions, with the answer it would get. -/
inductive SendRequest
  | sendAsync (callback : Bool) (msgTag : UInt8) (tagOwner : Bool) (request : ByteArray)
  | sendYield (reply : ErrorCode × Int) (msgTag : UInt8) (tagOwner : Bool) (request : ByteArray)
  | sendReceiveAsync (callback : Bool) (request : ByteArray) (timeout : Int)
  | sendReceiveYield (reply : ErrorCode × ByteArray) (request : ByteArray) (timeout : Int)
  | sendReceiveBlocked (reply : MCTPImpl.BlockedReply) (request : ByteArray) (timeout : Int)

/-- The call a send makes to a given destination. -/
def sendMessage (request : SendRequest) (destination : String) (devID : DeviceID) : MethodCall :=
  match request with
  | .sendAsync _ msgTag tagOwner request => sendCall destination devID msgTag tagOwner request
  | .sendYield _ msgTag tagOwner request => sendCall destination devID msgTag tagOwner request
  | .sendReceiveAsync _ request timeout => sendReceiveCall destination devID request timeout
  | .sendReceiveYield _ request timeout => sendReceiveCall destination devID request timeout
  | .sendReceiveBlocked _ request timeout => sendReceiveCall destination devID request timeout

/-- The effects of a send: its call, or a refusal handed to its callback. -/
inductive Effect.Sending : Effect → Prop
  | asked (request : SendRequest) (destination : String) (devID : DeviceID) :
      Sending (.call (sendMessage request destination devID))
  | sent (ec : ErrorCode) (status : Int) : Sending (.sent ec status)
  | responded (ec : ErrorCode) (response : ByteArray) : Sending (.responded ec response)

namespace MCTPImpl

def send (request : SendRequest) (devID : DeviceID) (s : MCTPImpl) : MCTPImpl :=
  match request with
  | .sendAsync callback msgTag tagOwner request =>
      sendAsync callback devID msgTag tagOwner request s
  | .sendYield reply msgTag tagOwner request =>
      (sendYield reply devID msgTag tagOwner request s).2
  | .sendReceiveAsync callback request timeout =>
      sendReceiveAsync callback devID request timeout s
  | .sendReceiveYield reply request timeout =>
      (sendReceiveYield reply devID request timeout s).2
  | .sendReceiveBlocked reply request timeout =>
      (sendReceiveBlocked reply devID request timeout s).2

/-- The error code a send gives back when its device is unknown: as a result, or
to a callback that is set. -/
def sendRefused (request : SendRequest) (devID : DeviceID) (s : MCTPImpl) : Prop :=
  match request with
  | .sendAsync callback msgTag tagOwner request =>
      sendAsync callback devID msgTag tagOwner request s =
        if callback then s.emit (.sent .ioError (-1)) else s
  | .sendYield reply msgTag tagOwner request =>
      sendYield reply devID msgTag tagOwner request s = ((.ioError, -1), s)
  | .sendReceiveAsync callback request timeout =>
      sendReceiveAsync callback devID request timeout s =
        if callback then s.emit (.responded .ioError []) else s
  | .sendReceiveYield reply request timeout =>
      sendReceiveYield reply devID request timeout s = ((.ioError, []), s)
  | .sendReceiveBlocked reply request timeout =>
      sendReceiveBlocked reply devID request timeout s = (.ok (.ioError, []), s)

/-- The effects a send adds that are calls to other services. -/
def Addresses (request : SendRequest) (devID : DeviceID) (destination : String)
    (s : MCTPImpl) : Prop :=
  send request devID s = s.emit (.call (sendMessage request destination devID))

theorem send_known (request : SendRequest) (devID : DeviceID) (s : MCTPImpl) (entry : UInt32 × String)
    (known : s.endpointMap.find devID = some entry) :
    Addresses request devID entry.2 s := by
  cases request with
  | sendReceiveBlocked reply request timeout =>
      cases reply <;>
        simp only [Addresses, send, sendMessage, sendReceiveBlocked, known]
  | _ =>
      simp only [Addresses, send, sendMessage, sendAsync, sendYield, sendReceiveAsync,
        sendReceiveYield, known]

theorem send_unknown (request : SendRequest) (devID : DeviceID) (s : MCTPImpl)
    (unknown : s.endpointMap.find devID = none) : sendRefused request devID s := by
  cases request <;>
    simp only [sendRefused, sendAsync, sendYield, sendReceiveAsync, sendReceiveYield,
      sendReceiveBlocked, unknown]

theorem sendMessage_inj (request : SendRequest) (devID : DeviceID) {left right : String} :
    sendMessage request left devID = sendMessage request right devID ↔ left = right := by
  cases request <;> simp [sendMessage, sendCall, sendReceiveCall]

theorem send_reports (request : SendRequest) (devID : DeviceID) (s : MCTPImpl) :
    Reports Effect.Sending s (send request devID s) := by
  cases known : s.endpointMap.find devID with
  | some entry =>
      rw [send_known request devID s entry known]
      exact .emit s (.asked request entry.2 devID)
  | none =>
      cases request with
      | sendAsync callback msgTag tagOwner request =>
          simp only [send, sendAsync, known]
          split
          · exact .emit s (.sent _ _)
          · exact .refl s
      | sendReceiveAsync callback request timeout =>
          simp only [send, sendReceiveAsync, known]
          split
          · exact .emit s (.responded _ _)
          · exact .refl s
      | _ =>
          simp only [send, sendYield, sendReceiveYield, sendReceiveBlocked, known]
          exact .refl s

end MCTPImpl

end Mctpw
